import ServiceBroker.Proofs.Broker.Polls

/-! How operations begin. A request that starts one makes a single submission, after calls that
submit nothing, and its token names the task, the context and the errands of the operation. -/
namespace ServiceBroker

namespace Request

/-- The kind of deploy that a request asks for, the instance and the plan. -/
def deploys? : Request → Option (OperationKind × String × String)
  | provision _ instanceId details _ => some (.create, instanceId, details.planId)
  | update _ instanceId details _ => some (.update, instanceId, details.planId)
  | upgrade _ instanceId details => some (.upgrade, instanceId, details.planId)
  | recreate _ instanceId planId => some (.recreate, instanceId, planId)
  | _ => none

/-- The instance that a request asks to delete, and how. -/
def deletes? : Request → Option (String × DeprovisionDetails)
  | deprovision _ instanceId details _ => some (instanceId, details)
  | _ => none

end Request

/-- The call is a deploy or a recreation. -/
def AnyCall.isDeploy (c : AnyCall) : Bool := c.kind = .submitDeploy || c.kind = .submitRecreate

/-- The data and the first submission of the operation that a request may begin. -/
inductive Opens (config : BrokerConfig) (past : List Happening) (request : Request) :
    OperationData → AnyCall → Prop where
  /-- A deploy onto a plan has a context of its own if the plan runs an errand after it. -/
  | deploy {kind : OperationKind} {instanceId planId contextId : String} {plan : Plan}
      {taskId : TaskId} {first : AnyCall} (asked : request.deploys? = some (kind, instanceId, planId))
      (found : config.offering.findPlan? planId = some plan)
      (context : if plan.postDeployErrand?.isSome then .issued contextId ∈ past else contextId = "")
      (deploys : first.isDeploy)
      (target : first.submits? = some (config.deploymentName instanceId, contextId)) :
      Opens config past request (Steps.deployData kind taskId contextId plan) first
  /-- A deletion by force is a single task. -/
  | force {instanceId : String} {details : DeprovisionDetails} {taskId : TaskId}
      (asked : request.deletes? = some (instanceId, details)) (forced : details.force = true) :
      Opens config past request { kind := .forceDelete, taskId }
        ⟨_, .submitDelete (config.deploymentName instanceId) "" true⟩
  /-- So is a deletion without errands. -/
  | delete {instanceId : String} {details : DeprovisionDetails} {plan : Plan} {taskId : TaskId}
      (asked : request.deletes? = some (instanceId, details)) (gentle : details.force = false)
      (found : config.offering.findPlan? details.planId = some plan)
      (direct : plan.preDeleteErrands = []) :
      Opens config past request { kind := .delete, taskId }
        ⟨_, .submitDelete (config.deploymentName instanceId) "" false⟩
  /-- A deletion with errands begins with the first of them, under a context of its own. -/
  | chain {instanceId contextId : String} {details : DeprovisionDetails} {plan : Plan}
      {taskId : TaskId} {first : Errand} {rest : List Errand}
      (asked : request.deletes? = some (instanceId, details)) (gentle : details.force = false)
      (found : config.offering.findPlan? details.planId = some plan)
      (errands : plan.preDeleteErrands = first :: rest) (context : .issued contextId ∈ past) :
      Opens config past request
        { kind := .delete, taskId, contextId, planId := some plan.id,
          preDeleteErrands := plan.preDeleteErrands }
        ⟨_, .submitErrand (config.deploymentName instanceId) first contextId⟩

/-- A submission that opens an operation is made for one deployment, under no context or under one
that the request took itself, and nothing was submitted or looked at before it. -/
def OpeningRule (deployment : String) (past : List Happening) (c : AnyCall) : Prop :=
  ∀ target contextId, c.submits? = some (target, contextId) → target = deployment ∧
    (contextId = "" ∨ .issued contextId ∈ past) ∧ ∀ h ∈ past, h.isPreliminary

/-- A token that a request yields belongs to the operation that the request opened. -/
def Opened (config : BrokerConfig) (request : Request) (past : List Happening) (r : Response) :
    Prop :=
  ∀ token, r.token? = some token → ∃ data first made, token = data.encode ∧
    Opens config past request data first ∧ made ∈ past ∧
      made.created? = some (first, data.taskId)

variable {config : BrokerConfig} {request : Request} {past : List Happening} {deployment : String}

private theorem snoc_mem {h : Happening} : h ∈ past ++ [h] :=
  List.mem_append_right _ (List.mem_singleton_self h)

theorem openingRule_of_preliminary {c : AnyCall} (preliminary : c.isPreliminary) :
    OpeningRule deployment past c := by
  intro target contextId submits
  simp [AnyCall.isPreliminary, submits] at preliminary

theorem opened_of_refused (e : BrokerError) : Opened config request past (.refused e) :=
  fun _ impossible => nomatch impossible

theorem Steps.deployData_taskId (kind : OperationKind) (taskId : TaskId) (contextId : String)
    (plan : Plan) : (deployData kind taskId contextId plan).taskId = taskId := by
  unfold deployData
  split <;> rfl

theorem Steps.deployData_contextId (kind : OperationKind) (taskId : TaskId) (contextId : String)
    (plan : Plan) : (deployData kind taskId contextId plan).contextId = contextId := by
  unfold deployData
  split
  · rename_i empty
    exact (String.isEmpty_iff.mp empty).symm
  · rfl

/-- The context of a deploy is a new one, or none. -/
theorem openingRule_of_deploy {contextId : String} {plan : Plan} {c : AnyCall}
    (preliminary : ∀ h ∈ past, h.isPreliminary)
    (context : if plan.postDeployErrand?.isSome then .issued contextId ∈ past else contextId = "")
    (target : c.submits? = some (deployment, contextId)) : OpeningRule deployment past c := by
  rintro _ _ submits
  obtain ⟨rfl, rfl⟩ := Prod.mk.inj (Option.some.inj (target.symm.trans submits))
  refine ⟨rfl, ?_, preliminary⟩
  split at context
  · exact .inr context
  · exact .inl context

/-- A token that is yielded after a deploy belongs to it. -/
theorem opened_of_deploy {kind : OperationKind} {instanceId planId contextId : String} {plan : Plan}
    {taskId : TaskId} {first : AnyCall} {made : Happening} {before : List Happening} {r : Response}
    (asked : request.deploys? = some (kind, instanceId, planId))
    (found : config.offering.findPlan? planId = some plan)
    (context : if plan.postDeployErrand?.isSome then .issued contextId ∈ before else contextId = "")
    (included : before ⊆ past) (happened : made ∈ past) (deploys : first.isDeploy)
    (target : first.submits? = some (config.deploymentName instanceId, contextId))
    (created : made.created? = some (first, taskId))
    (yielded : r.token? = some (Steps.deployData kind taskId contextId plan).encode) :
    Opened config request past r := by
  intro token isToken
  obtain rfl := Option.some.inj (yielded.symm.trans isToken)
  refine ⟨_, first, made, rfl, .deploy asked found ?_ deploys target, happened, ?_⟩
  · split at context
    · rename_i errand
      rw [if_pos errand]
      exact included context
    · rename_i none
      rw [if_neg none]
      exact context
  · rw [created, Steps.deployData_taskId]

namespace Broker

open Procedure Steps

theorem meets_submitDelete_delete (about : Correlation) (force : Bool)
    {demand : List Happening → Except BrokerError TaskId → Prop}
    (preliminary : ∀ h ∈ past, h.isPreliminary)
    (answered : ∀ id : TaskId, demand
      (past ++ [.answered (.submitDelete deployment "" force) (.ok id)]) (.ok id))
    (fails : ∀ later e, demand later (.error e)) :
    (submitDelete about deployment force).run.Meets (OpeningRule deployment) demand past := by
  refine meets_ask_bind (.submitDelete deployment "" force) _ _ ?_ answered fun e => fails _ _
  rintro target contextId ⟨⟩
  exact ⟨rfl, .inl rfl, preliminary⟩

theorem meets_submitFirstErrand (about : Correlation) (plan : Plan) (first : Errand)
    {demand : List Happening → Except BrokerError OperationData → Prop}
    (preliminary : ∀ h ∈ past, h.isPreliminary)
    (answered : ∀ contextId (id : TaskId), demand
      (past ++ [.issued contextId] ++ [.answered (.submitErrand deployment first contextId) (.ok id)])
      (.ok { kind := .delete, taskId := id, contextId, planId := some plan.id,
             preDeleteErrands := plan.preDeleteErrands }))
    (fails : ∀ later e, demand later (.error e)) :
    (submitFirstErrand about deployment plan first).run.Meets (OpeningRule deployment) demand
      past := by
  rw [submitFirstErrand, run_bind_procedure, Program.meets_bind, meets_fresh]
  intro contextId
  refine meets_ask_bind (.submitErrand deployment first contextId) _ _ ?_ (answered contextId)
    fun e => fails _ _
  rintro target _ ⟨⟩
  refine ⟨rfl, .inr (by simp), fun h member => ?_⟩
  rcases List.mem_append.mp member with member | member
  · exact preliminary h member
  · rw [List.mem_singleton.mp member]; rfl

/-- A deletion begins with the deletion of the deployment or with the first errand before it. -/
theorem meets_deprovision (requestId instanceId : String) (details : DeprovisionDetails)
    (asyncAllowed : Bool) (asked : request.deletes? = some (instanceId, details)) :
    (deprovision config requestId instanceId details asyncAllowed).run.Meets
      (OpeningRule (config.deploymentName instanceId))
      (fun past result => Opened config request past (.ofResult .accepted result)) [] := by
  have refused (later : List Happening) (e : BrokerError) :
      Opened config request later (.ofResult .accepted (.error e)) := opened_of_refused e
  unfold deprovision
  rw [meets_within_procedure]
  split
  · rw [meets_holding]
    refine ⟨?_, refused _ _⟩
    refine (asks_findDeployment _ _).bind (fun _ _ => openingRule_of_preliminary)
      (fun looked deployment quiet _ => ?_) fun later e _ => refused later e
    split
    · refine (asks_cleanUp _ _).bind (fun _ _ => openingRule_of_preliminary)
        (fun later _ _ _ => refused later _) fun later e _ => refused later e
    · refine (asks_requireIdle _ _).bind (fun _ _ => openingRule_of_preliminary)
        (fun idle _ quiet' _ => ?_) fun later e _ => refused later e
      refine (asks_findPlan _ _ _).bind (fun _ _ => openingRule_of_preliminary)
        (fun planned plan quiet'' found => ?_) fun later e _ => refused later e
      have preliminary := (quiet.trans (quiet'.trans quiet'')).all
      rw [run_bind_procedure, Program.meets_bind]
      unfold startDelete
      split
      · rename_i forced
        rw [run_bind_procedure, Program.meets_bind]
        refine meets_submitDelete_delete _ _ preliminary (fun id => ?_) refused
        intro token yielded
        exact ⟨_, _, _, (Option.some.inj yielded).symm, .force asked forced, snoc_mem, rfl⟩
      · rename_i gentle
        split
        · rename_i first rest errands
          refine meets_submitFirstErrand _ _ _ preliminary (fun contextId id => ?_) refused
          intro token yielded
          have gentle : details.force = false := by simpa using gentle
          exact ⟨_, _, _, (Option.some.inj yielded).symm,
            .chain asked gentle found errands (by simp), snoc_mem, rfl⟩
        · rename_i direct
          rw [run_bind_procedure, Program.meets_bind]
          refine meets_submitDelete_delete _ _ preliminary (fun id => ?_) refused
          intro token yielded
          have gentle : details.force = false := by simpa using gentle
          exact ⟨_, _, _, (Option.some.inj yielded).symm, .delete asked gentle found direct,
            snoc_mem, rfl⟩
  · exact refused _ _

/-- A deploy onto a plan takes a new context exactly if the plan runs an errand after it. -/
theorem asks_deployContext_bind {α : Type} (plan : Plan) (next : String → Procedure BrokerError α)
    {allowed : List Happening → AnyCall → Prop}
    {demand : List Happening → Except BrokerError α → Prop} {past : List Happening}
    (goes : ∀ later contextId, Quietly past later →
      (if plan.postDeployErrand?.isSome then .issued contextId ∈ later else contextId = "") →
        (next contextId).run.Meets allowed demand later) :
    (deployContext plan >>= next).run.Meets allowed demand past := by
  rw [run_bind_procedure, Program.meets_bind]
  unfold deployContext
  split
  · rename_i errand
    rw [meets_fresh]
    exact fun contextId => goes _ contextId (.snoc past rfl) (by simp [errand])
  · rename_i none
    exact goes past "" (.refl past) (by simp [none])

theorem asks_dashboardUrl (about : Correlation) (plan : Plan) (manifest : String) :
    (dashboardUrl about plan manifest).Asks fun _ => True := by
  refine Asks.then (asks_attempt (.dashboardUrl about.instanceId plan manifest) rfl) ?_
  intro answer _
  match answer with
  | .ok url => exact asks_pure trivial
  | .error (e : AdapterError) =>
    change (if e = AdapterError.notImplemented then _ else _ : Procedure BrokerError String).Asks _
    split
    · exact asks_pure trivial
    · exact (asks_note _).then fun _ _ => asks_pure trivial

theorem asks_noteAccepted (operation : String) (about : Correlation) (taskId : TaskId) :
    (noteAccepted operation about taskId).Asks fun _ => True := asks_note _

/-- A provision begins with a deploy. -/
theorem meets_provision (requestId instanceId : String) (details : ProvisionDetails)
    (asyncAllowed : Bool)
    (asked : request.deploys? = some (.create, instanceId, details.planId)) :
    (provision config requestId instanceId details asyncAllowed).run.Meets
      (OpeningRule (config.deploymentName instanceId))
      (fun past result => Opened config request past (.ofResult .provisioned result)) [] := by
  have refused (later : List Happening) (e : BrokerError) :
      Opened config request later (.ofResult .provisioned (.error e)) := opened_of_refused e
  unfold provision
  rw [meets_within_procedure]
  split
  · rw [meets_holding]
    refine ⟨?_, refused _ _⟩
    refine (asks_findPlan _ _ _).bind (fun _ _ => openingRule_of_preliminary)
      (fun planned plan toPlan found => ?_) fun later e _ => refused later e
    refine (asks_findDeployment _ _).bind (fun _ _ => openingRule_of_preliminary)
      (fun looked deployment toLook _ => ?_) fun later e _ => refused later e
    split
    · exact refused _ _
    · refine (asks_requireQuota _ _ _).bind (fun _ _ => openingRule_of_preliminary)
        (fun checked _ toCheck _ => ?_) fun later e _ => refused later e
      refine asks_deployContext_bind plan _ fun ready contextId toContext context => ?_
      have preliminary := (toPlan.trans (toLook.trans (toCheck.trans toContext))).all
      refine meets_ask_bind (.submitDeploy _) _ _ (openingRule_of_deploy preliminary context rfl)
        (fun outcome => ?_) fun e => refused _ _
      rw [run_bind_procedure, Program.meets_bind, meets_info]
      refine (asks_dashboardUrl _ _ _).bind (fun _ _ => openingRule_of_preliminary)
        (fun later url toUrl _ => ?_) fun later e _ => refused later e
      refine (asks_noteAccepted _ _ _).bind (fun _ _ => openingRule_of_preliminary)
        (fun last _ toEnd _ => ?_) fun later e _ => refused later e
      have after := (toUrl.trans toEnd).before.subset
      exact opened_of_deploy asked found context (fun h member => after (by simp [member]))
        (after snoc_mem) rfl rfl rfl rfl
  · exact refused _ _

/-- The submission of a deploy of an instance that exists. -/
theorem meets_submitRedeploy (way : Redeploy) (about : Correlation) (contextId : String)
    (plan : Plan) (details : UpdateDetails)
    {demand : List Happening → Except BrokerError TaskId → Prop}
    (permitted : ∀ c : AnyCall, c.submits? = some (deployment, contextId) →
      OpeningRule deployment past c)
    (answered : ∀ made (c : AnyCall) (id : TaskId), c.isDeploy →
      c.submits? = some (deployment, contextId) → made.created? = some (c, id) →
        demand (past ++ [made]) (.ok id))
    (fails : ∀ later e, demand later (.error e)) :
    (submitRedeploy way about deployment contextId plan details).run.Meets
      (OpeningRule deployment) demand past := by
  have deploys (kind : OperationKind) (previousPlanId : Option String) :
      (do let outcome : DeployOutcome ← ask (.submitDeploy
            { deployment, planId := plan.id, previousPlanId, parameters := details.parameters,
              contextId, kind }) (Steps.failed about)
          return outcome.taskId : Procedure BrokerError TaskId).run.Meets
        (OpeningRule deployment) demand past := by
    refine meets_ask_bind (.submitDeploy _) _ _ (permitted _ rfl) (fun outcome => ?_)
      fun e => fails _ _
    exact answered _ ⟨_, .submitDeploy _⟩ (DeployOutcome.taskId outcome) rfl rfl rfl
  cases way with
  | update => exact deploys .update _
  | upgrade => exact deploys .upgrade _
  | recreate =>
    refine (meets_ask (.submitRecreate deployment contextId) _).mpr
      ⟨permitted _ rfl, fun id => ?_, fun e => fails _ _⟩
    exact answered _ ⟨_, .submitRecreate deployment contextId⟩ id rfl rfl rfl

/-- So does every deploy of an instance that exists. -/
theorem meets_redeploy (answer : OperationData → Response) (way : Redeploy)
    (requestId instanceId : String) (details : UpdateDetails)
    (asked : request.deploys? = some (way.kind, instanceId, details.planId))
    (token : ∀ data, (answer data).token? = some data.encode) :
    (redeploy config way requestId instanceId details).run.Meets
      (OpeningRule (config.deploymentName instanceId))
      (fun past result => Opened config request past (.ofResult answer result)) [] := by
  have refused (later : List Happening) (e : BrokerError) :
      Opened config request later (.ofResult answer (.error e)) := opened_of_refused e
  unfold redeploy
  rw [meets_holding]
  refine ⟨?_, refused _ _⟩
  refine (asks_findPlan _ _ _).bind (fun _ _ => openingRule_of_preliminary)
    (fun planned plan toPlan found => ?_) fun later e _ => refused later e
  refine (asks_findDeployment _ _).bind (fun _ _ => openingRule_of_preliminary)
    (fun looked deployment toLook _ => ?_) fun later e _ => refused later e
  split
  · exact refused _ _
  · refine (asks_requireIdle _ _).bind (fun _ _ => openingRule_of_preliminary)
      (fun idle _ toIdle _ => ?_) fun later e _ => refused later e
    refine (asks_requireQuota _ _ _).bind_if (fun _ _ => openingRule_of_preliminary)
      (fun checked toCheck => ?_) fun later e _ => refused later e
    refine asks_deployContext_bind plan _ fun ready contextId toContext context => ?_
    have preliminary :=
      (toPlan.trans (toLook.trans (toIdle.trans (toCheck.trans toContext)))).all
    rw [run_bind_procedure, Program.meets_bind]
    refine meets_submitRedeploy way _ contextId plan details
      (fun c => openingRule_of_deploy preliminary context) (fun made c id deploys target created => ?_)
      refused
    refine (asks_note _).bind (fun _ _ => openingRule_of_preliminary)
      (fun later _ toLine _ => ?_) fun later e _ => refused later e
    refine (asks_noteAccepted _ _ _).bind (fun _ _ => openingRule_of_preliminary)
      (fun last _ toEnd _ => ?_) fun later e _ => refused later e
    have after := (toLine.trans toEnd).before.subset
    exact opened_of_deploy asked found context (fun h member => after (by simp [member]))
      (after snoc_mem) deploys target created (token _)

theorem asks_resolveSecrets (about : Correlation) (manifest : String) :
    (resolveSecrets about deployment manifest).Asks fun _ => True := by
  refine Asks.then (asks_attempt (.resolveSecrets manifest) rfl) ?_
  intro answer _
  match answer with
  | .ok secrets => exact asks_pure trivial
  | .error (e : SecretsError) => exact (asks_note _).then fun _ _ => asks_pure trivial

theorem asks_bindingRequest (about : Correlation) (bindingId : String) (parameters : Parameters) :
    (bindingRequest config about bindingId parameters).Asks fun _ => True := by
  refine (asks_findDeployment _ _).then fun found _ => ?_
  cases found with
  | none => exact asks_refuse _
  | some deployment =>
    refine Asks.then (asks_ask (.getVms _) _ rfl (asks_failed about)) fun vms _ => ?_
    exact (asks_resolveSecrets _ _).then fun _ _ => asks_pure trivial

theorem asks_bindLocked (about : Correlation) (bindingId : String) (details : BindDetails) :
    (bindLocked config about bindingId details).Asks fun _ => True := by
  refine (asks_bindingRequest _ _ _).then fun request _ => ?_
  refine Asks.then (asks_ask (.createBinding request) _ rfl fun e => asks_refuse _) fun _ _ => ?_
  exact (asks_note _).then fun _ _ => (asks_note _).then fun _ _ => asks_pure trivial

theorem asks_unbindLocked (about : Correlation) (bindingId : String) :
    (unbindLocked config about bindingId).Asks fun _ => True := by
  refine (asks_bindingRequest _ _ _).then fun request _ => ?_
  refine Asks.then (asks_ask (.deleteBinding request) _ rfl fun e => asks_refuse _) fun _ _ => ?_
  exact (asks_note _).then fun _ _ => asks_note _

/-- A request that only asks opens nothing. -/
theorem meets_opening_of_asks {α : Type} {yields : α → Prop} {answer : α → Response} (span : Log.Span)
    (about : Correlation) (kind : LockKind) (id : String) {body : Procedure BrokerError α}
    (asks : body.Asks yields) (silent : ∀ a, (answer a).token? = none) :
    (within span (holding about kind id body)).run.Meets (OpeningRule deployment)
      (fun past result => Opened config request past (.ofResult answer result)) [] := by
  rw [meets_within_procedure, meets_holding]
  refine ⟨(asks []).mono (fun _ _ _ => openingRule_of_preliminary) fun later result _ _ => ?_,
    opened_of_refused _⟩
  cases result with
  | ok a => exact fun token isToken => nomatch (silent a).symm.trans isToken
  | error e => exact opened_of_refused e

end Broker

open Procedure in
/-- Every request but a poll submits at most the first task of an operation, and the token that it
yields is for the operation of that task. -/
theorem Request.meets_opening (request : Request) (opens : request.polled? = none) :
    (request.program config).Meets (OpeningRule (config.deploymentName request.instanceId))
      (Opened config request) [] := by
  cases request with
  | provision requestId instanceId details asyncAllowed =>
    exact (meets_respond ..).mpr (Broker.meets_provision requestId instanceId details asyncAllowed rfl)
  | update requestId instanceId details asyncAllowed =>
    refine (meets_respond ..).mpr ?_
    unfold Broker.update
    rw [meets_within_procedure]
    split
    · have asked : (Request.update requestId instanceId details asyncAllowed).deploys? =
          some (Broker.Redeploy.kind .update, instanceId, details.planId) := rfl
      rw [run_bind_procedure, Program.meets_bind]
      refine (Broker.meets_redeploy (fun data => .accepted ⟨true, data.encode⟩) .update requestId
        instanceId details asked fun _ => rfl).mono (fun _ _ _ permitted => permitted) ?_
      rintro later (e | data) _ opened
      · exact opened
      · exact opened
    · exact opened_of_refused _
  | upgrade requestId instanceId details =>
    refine (meets_respond ..).mpr ?_
    unfold Broker.upgrade
    rw [meets_within_procedure]
    exact Broker.meets_redeploy .started .upgrade requestId instanceId details rfl fun _ => rfl
  | recreate requestId instanceId planId =>
    refine (meets_respond ..).mpr ?_
    unfold Broker.recreate
    rw [meets_within_procedure]
    exact Broker.meets_redeploy .started .recreate requestId instanceId _ rfl fun _ => rfl
  | deprovision requestId instanceId details asyncAllowed =>
    exact (meets_respond ..).mpr
      (Broker.meets_deprovision requestId instanceId details asyncAllowed rfl)
  | bind requestId instanceId bindingId details =>
    exact (meets_respond ..).mpr (Broker.meets_opening_of_asks _ _ _ _
      (Broker.asks_bindLocked _ bindingId details) fun _ => rfl)
  | unbind requestId instanceId bindingId details =>
    exact (meets_respond ..).mpr (Broker.meets_opening_of_asks _ _ _ _
      (Broker.asks_unbindLocked _ bindingId) fun _ => rfl)
  | lastOperation requestId instanceId token => cases opens

namespace Request

/-- The calls that a request may make after what it went through: a poll takes the step that is due,
any other request opens an operation. -/
def Permits (config : BrokerConfig) (request : Request) (past : List Happening) (c : AnyCall) :
    Prop :=
  match request.polled? with
  | none => OpeningRule (config.deploymentName request.instanceId) past c
  | some token => c.submits?.isSome → ∃ data, OperationData.decode token = .ok data ∧
      Lifecycle.StepRule config.offering (config.deploymentName request.instanceId) data past c

/-- What the response to a request says about what it went through. -/
def Yields (config : BrokerConfig) (request : Request) (past : List Happening) (r : Response) : Prop :=
  match request.polled? with
  | none => Opened config request past r
  | some token => (∃ about e, r = .refused (Refusal.ofToken about e).error) ∨
      ∃ data found result, OperationData.decode token = .ok data ∧
        Lifecycle.Found config.offering (config.deploymentName request.instanceId) data past found ∧
        Broker.Reports found result ∧ r = .ofResult .polled result

/-- Every request keeps to these rules, whatever it is answered. -/
theorem meets_program (config : BrokerConfig) (request : Request) :
    (request.program config).Meets (request.Permits config) (request.Yields config) [] := by
  cases polled : request.polled? with
  | none =>
    refine (meets_opening request polled).mono (fun _ _ _ permitted => ?_) fun _ _ _ opened => ?_
    · simpa only [Permits, polled] using permitted
    · simpa only [Yields, polled] using opened
  | some token =>
    cases request with
    | lastOperation requestId instanceId token' =>
      cases polled
      refine (Procedure.meets_respond ..).mpr ?_
      cases read : OperationData.decode token with
      | error e =>
        have refused : (Broker.lastOperation config requestId instanceId token).run =
            (Procedure.refuse (.ofToken { service := config.offering.name, instanceId, requestId } e)
              : Procedure BrokerError LastOperation).run := by
          simp only [Broker.lastOperation, read]
        rw [refused]
        exact .inl ⟨_, _, rfl⟩
      | ok data =>
        have known (d : OperationData) (isRead : OperationData.decode token = .ok d) : d = data :=
          Except.ok.inj (isRead.symm.trans read)
        refine (Broker.meets_lastOperation config requestId instanceId token data known).mono ?_ ?_
        · exact fun _ _ _ permitted _ => ⟨data, read, permitted⟩
        · rintro past result _ (⟨about, e, rfl⟩ | ⟨found, isFound, reports⟩)
          · exact .inl ⟨about, e, rfl⟩
          · exact .inr ⟨data, found, result, read, isFound, reports, rfl⟩
    | _ => cases polled

end Request

end ServiceBroker
