import ServiceBroker.Proofs.Locks.Requests

/-! What a request may touch: the kinds of call that it may make, the only deployment that its calls
may name, and the locks that it may take. Whatever the collaborators answer, a request stays inside
its footprint. -/
namespace ServiceBroker

/-- The deployment that a call names. Calls about tasks by their number, to the counter and to the
adapter name none, and neither does the resolution of secrets. -/
def AnyCall.deployment? : AnyCall → Option String
  | ⟨_, .submitDeploy request⟩ => some request.deployment
  | ⟨_, .submitErrand deployment ..⟩ | ⟨_, .submitDelete deployment ..⟩
  | ⟨_, .submitRecreate deployment _⟩ | ⟨_, .getTasksByContext deployment _⟩
  | ⟨_, .getTasksInProgress deployment⟩ | ⟨_, .getDeployment deployment⟩
  | ⟨_, .getVms deployment⟩ | ⟨_, .deleteConfigs deployment⟩ | ⟨_, .deleteSecrets deployment⟩ =>
    some deployment
  | ⟨_, .getTask _⟩ | ⟨_, .countPlan _⟩ | ⟨_, .countOffering⟩ | ⟨_, .dashboardUrl ..⟩
  | ⟨_, .createBinding _⟩ | ⟨_, .deleteBinding _⟩ | ⟨_, .resolveSecrets _⟩ => none

/-- What may be touched. -/
structure Footprint where
  deployment : String
  kinds : List CallKind
  locks : List LockKey := []

/-- A call of one of the kinds that names no other deployment. -/
structure Footprint.Covers (f : Footprint) (c : AnyCall) : Prop where
  kind : c.kind ∈ f.kinds
  deployment : ∀ name, c.deployment? = some name → name = f.deployment

namespace Footprint.Covers

variable {f : Footprint} {c : AnyCall}

/-- A call that names a deployment is covered if that is the one of the footprint. -/
theorem named (listed : c.kind ∈ f.kinds) (named : c.deployment? = some f.deployment) :
    f.Covers c where
  kind := listed
  deployment _ isName := Option.some.inj (isName.symm.trans named)

/-- A call that names no deployment only has to be of one of the kinds. -/
theorem unnamed (listed : c.kind ∈ f.kinds) (unnamed : c.deployment? = none) : f.Covers c where
  kind := listed
  deployment _ isName := by
    rw [unnamed] at isName
    cases isName

end Footprint.Covers

namespace Program

variable {α β : Type} {f : Footprint} {p : Program α}

/-- A program that touches nothing outside of a footprint. -/
inductive StaysIn (f : Footprint) {α : Type} : Program α → Prop where
  | done (a : α) : StaysIn f (done a)
  | call {k : CallKind} {c : Call k} (span : Option Log.Span) {next : k.Answer → Program α}
      (covered : f.Covers ⟨k, c⟩) (onward : ∀ answer, StaysIn f (next answer)) :
      StaysIn f (call c span next)
  | log (event : Log.Event) {next : Program α} (onward : StaysIn f next) :
      StaysIn f (log event next)
  | lock {kind : LockKind} {id : String} {next : Bool → Program α} (listed : ⟨kind, id⟩ ∈ f.locks)
      (onward : ∀ taken, StaysIn f (next taken)) : StaysIn f (lock kind id next)
  | unlock {kind : LockKind} {id : String} {next : Program α} (listed : ⟨kind, id⟩ ∈ f.locks)
      (onward : StaysIn f next) : StaysIn f (unlock kind id next)
  | fresh {next : String → Program α} (onward : ∀ id, StaysIn f (next id)) :
      StaysIn f (fresh next)

theorem StaysIn.bind {next : α → Program β} (stays : p.StaysIn f)
    (onward : ∀ a, (next a).StaysIn f) : (p.bind next).StaysIn f := by
  induction stays with
  | done a => exact onward a
  | call span covered _ ih => exact .call span covered ih
  | log event _ ih => exact .log event ih
  | lock listed _ ih => exact .lock listed ih
  | unlock listed _ ih => exact .unlock listed ih
  | fresh _ ih => exact .fresh ih

theorem StaysIn.within (stays : p.StaysIn f) (span : Log.Span) : (p.within span).StaysIn f := by
  induction stays with
  | done a => exact .done a
  | call inner covered _ ih => exact .call _ covered ih
  | log event _ ih => exact .log _ ih
  | lock listed _ ih => exact .lock listed ih
  | unlock listed _ ih => exact .unlock listed ih
  | fresh _ ih => exact .fresh ih

end Program

namespace Procedure

variable {ε α β : Type} {f : Footprint} {body : Procedure ε α} {next : α → Procedure ε β}

/-- A procedure that touches nothing outside of a footprint. -/
def StaysIn (f : Footprint) (body : Procedure ε α) : Prop := body.run.StaysIn f

theorem staysIn_pure (a : α) : (pure a : Procedure ε α).StaysIn f := .done _

theorem staysIn_throw (e : ε) : (throw e : Procedure ε α).StaysIn f := .done _

theorem staysIn_note (event : Log.Event) : (note event : Procedure ε Unit).StaysIn f :=
  .log event (.done _)

theorem staysIn_fresh : (fresh : Procedure ε String).StaysIn f := .fresh fun _ => .done _

theorem staysIn_refuse (r : Refusal) : (refuse r : Procedure BrokerError α).StaysIn f :=
  .log r.event (.done _)

theorem staysIn_attempt {k : CallKind} {c : Call k} (covered : f.Covers ⟨k, c⟩) :
    (attempt c : Procedure ε k.Answer).StaysIn f := .call none covered fun _ => .done _

theorem StaysIn.then (stays : body.StaysIn f) (rest : ∀ a, (next a).StaysIn f) :
    (body >>= next).StaysIn f := by
  refine Program.StaysIn.bind stays fun result => ?_
  cases result with
  | error e => exact .done _
  | ok a => exact rest a

/-- What comes before may be left out. -/
theorem StaysIn.then_if {c : Prop} [Decidable c] {body : Procedure ε Unit}
    {next : Unit → Procedure ε β} (stays : body.StaysIn f) (rest : (next ()).StaysIn f) :
    (if c then body >>= next else next ()).StaysIn f := by
  split
  · exact stays.then fun _ => rest
  · exact rest

theorem StaysIn.lift (stays : body.StaysIn f) :
    Procedure.StaysIn f (ExceptT.lift body.run : Procedure β (Except ε α)) :=
  Program.StaysIn.bind stays fun _ => .done _

theorem StaysIn.within (stays : body.StaysIn f) (span : Log.Span) :
    (within span body).StaysIn f := Program.StaysIn.within stays span

theorem staysIn_ask {k : CallKind} {c : Call k} {onFailure : k.Failure → Procedure ε k.Value}
    (covered : f.Covers ⟨k, c⟩) (fails : ∀ e, (onFailure e).StaysIn f) :
    (ask c onFailure).StaysIn f := by
  refine (staysIn_attempt covered).then fun answer => ?_
  cases answer with
  | error e => exact fails e
  | ok value => exact staysIn_pure value

theorem StaysIn.holding {body : Procedure BrokerError α} (stays : body.StaysIn f)
    (about : Correlation) {kind : LockKind} {id : String} (listed : ⟨kind, id⟩ ∈ f.locks) :
    (holding about kind id body).StaysIn f := by
  refine .lock listed fun taken => ?_
  cases taken with
  | false => exact staysIn_refuse _
  | true => exact Program.StaysIn.bind stays fun _ => .unlock listed (.done _)

end Procedure

open Procedure

namespace Steps

variable (config : BrokerConfig) (about : Correlation) {f : Footprint}

theorem staysIn_findPlan (planId : String) : (findPlan config about planId).StaysIn f := by
  unfold findPlan
  split
  · exact staysIn_pure _
  · exact staysIn_refuse _

theorem staysIn_findDeployment (listed : .getDeployment ∈ f.kinds) :
    (findDeployment about f.deployment).StaysIn f :=
  staysIn_ask (.named listed rfl) fun _ => staysIn_refuse _

theorem staysIn_requireIdle (listed : .getTasksInProgress ∈ f.kinds) :
    (requireIdle about f.deployment).StaysIn f := by
  have asks : (ask (.getTasksInProgress f.deployment) (failed about)).StaysIn f :=
    staysIn_ask (.named listed rfl) fun _ => staysIn_refuse _
  refine asks.then fun tasks => ?_
  split
  · exact staysIn_pure _
  · exact staysIn_refuse _

theorem staysIn_requireQuota (offering : .countOffering ∈ f.kinds) (one : .countPlan ∈ f.kinds)
    (plan : Plan) : (requireQuota config about plan).StaysIn f := by
  have counts : (countInstances config about plan).StaysIn f := by
    unfold countInstances
    split
    · have asks : (ask .countOffering (failed about)).StaysIn f :=
        staysIn_ask (.unnamed offering rfl) fun _ => staysIn_refuse _
      exact asks.then fun _ => staysIn_pure _
    · split
      · have asks : (ask (.countPlan plan.id) (failed about)).StaysIn f :=
          staysIn_ask (.unnamed one rfl) fun _ => staysIn_refuse _
        exact asks.then fun _ => staysIn_pure _
      · exact staysIn_pure _
  refine counts.then fun found => ?_
  split
  · exact staysIn_pure _
  · split
    · exact staysIn_pure _
    · exact staysIn_refuse _

theorem staysIn_deployContext (plan : Plan) : (deployContext plan).StaysIn f := by
  unfold deployContext
  split
  · exact staysIn_fresh
  · exact staysIn_pure _

theorem staysIn_cleanUp (configs : .deleteConfigs ∈ f.kinds) (secrets : .deleteSecrets ∈ f.kinds) :
    (cleanUp about f.deployment).StaysIn f := by
  have first : (ask (.deleteConfigs f.deployment) (failed about)).StaysIn f :=
    staysIn_ask (.named configs rfl) fun _ => staysIn_refuse _
  refine first.then fun _ => ?_
  refine StaysIn.then (staysIn_ask (.named secrets rfl) fun _ => staysIn_refuse _) fun _ => ?_
  exact staysIn_note _

end Steps

namespace Lifecycle

variable {f : Footprint}

theorem staysIn_fetch (listed : .getTask ∈ f.kinds) (id : TaskId) : (fetch id).StaysIn f :=
  staysIn_ask (.unnamed listed rfl) fun _ => staysIn_throw _

theorem staysIn_history (listed : .getTasksByContext ∈ f.kinds) (contextId : String) :
    (history f.deployment contextId).StaysIn f := by
  have asks : (ask (.getTasksByContext f.deployment contextId) failed).StaysIn f :=
    staysIn_ask (.named listed rfl) fun _ => staysIn_throw _
  refine asks.then fun tasks => ?_
  cases tasks with
  | nil => exact staysIn_throw _
  | cons => exact staysIn_pure _

theorem staysIn_runErrand (submits : .submitErrand ∈ f.kinds) (fetches : .getTask ∈ f.kinds)
    (errand : Errand) (contextId : String) : (runErrand f.deployment errand contextId).StaysIn f := by
  have asks : (ask (.submitErrand f.deployment errand contextId) failed).StaysIn f :=
    staysIn_ask (.named submits rfl) fun _ => staysIn_throw _
  exact asks.then fun id => staysIn_fetch fetches id

theorem staysIn_postDeployErrand? (offering : Offering) (data : OperationData) :
    (postDeployErrand? offering data).StaysIn f := by
  unfold postDeployErrand?
  split
  · exact staysIn_pure _
  · split
    · exact (staysIn_note _).then fun _ => staysIn_pure _
    · split
      · exact (staysIn_note _).then fun _ => staysIn_pure _
      · split
        · exact staysIn_pure _
        · exact (staysIn_note _).then fun _ => staysIn_pure _

theorem staysIn_advanceDeploy (looks : .getTasksByContext ∈ f.kinds)
    (submits : .submitErrand ∈ f.kinds) (fetches : .getTask ∈ f.kinds) (offering : Offering)
    (data : OperationData) : (advanceDeploy offering f.deployment data).StaysIn f := by
  refine (staysIn_history looks data.contextId).then fun tasks => ?_
  split
  · split
    · refine (staysIn_postDeployErrand? offering data).then fun errand => ?_
      split
      · exact (staysIn_note _).then fun _ => staysIn_runErrand submits fetches _ _
      · exact staysIn_pure _
    · exact staysIn_pure _
  · exact staysIn_pure _
  · exact staysIn_throw _

theorem staysIn_advanceDelete (looks : .getTasksByContext ∈ f.kinds)
    (submits : .submitErrand ∈ f.kinds) (deletes : .submitDelete ∈ f.kinds)
    (fetches : .getTask ∈ f.kinds) (data : OperationData) :
    (advanceDelete f.deployment data).StaysIn f := by
  refine (staysIn_history looks data.contextId).then fun tasks => ?_
  split
  · exact staysIn_throw _
  · split
    · dsimp only
      split
      · have asks : (ask (.submitDelete f.deployment data.contextId false) failed).StaysIn f :=
          staysIn_ask (.named deletes rfl) fun _ => staysIn_throw _
        exact (staysIn_note _).then fun _ => asks.then fun id => staysIn_fetch fetches id
      · split
        · exact (staysIn_note _).then fun _ => staysIn_runErrand submits fetches _ _
        · exact staysIn_pure _
    · exact staysIn_pure _

/-- The kinds of call that a poll may make until it knows the task it speaks about. -/
def stepKinds : List CallKind := [.getTask, .getTasksByContext, .submitErrand, .submitDelete]

theorem staysIn_currentTask (listed : stepKinds ⊆ f.kinds) (offering : Offering)
    (data : OperationData) : (currentTask offering f.deployment data).StaysIn f := by
  have fetches : .getTask ∈ f.kinds := listed (by decide)
  have looks : .getTasksByContext ∈ f.kinds := listed (by decide)
  have submits : .submitErrand ∈ f.kinds := listed (by decide)
  have deletes : .submitDelete ∈ f.kinds := listed (by decide)
  unfold currentTask
  split
  · exact staysIn_fetch fetches _
  · split
    · exact staysIn_advanceDeploy looks submits fetches _ _
    · split
      · exact staysIn_advanceDelete looks submits deletes fetches _
      · exact staysIn_fetch fetches _

end Lifecycle

/-- The kinds of call that a request may make. -/
def Request.callKinds : Request → List CallKind
  | provision .. => [.getDeployment, .countOffering, .countPlan, .submitDeploy, .dashboardUrl]
  | update .. | upgrade .. | recreate .. =>
    [.getDeployment, .getTasksInProgress, .countOffering, .countPlan, .submitDeploy,
      .submitRecreate]
  | deprovision .. =>
    [.getDeployment, .getTasksInProgress, .submitErrand, .submitDelete, .deleteConfigs,
      .deleteSecrets]
  | bind .. => [.getDeployment, .getVms, .resolveSecrets, .createBinding]
  | unbind .. => [.getDeployment, .getVms, .resolveSecrets, .deleteBinding]
  | lastOperation .. => Lifecycle.stepKinds ++ [.deleteConfigs, .deleteSecrets]

/-- What a request may touch: the deployment of its instance and its own lock. -/
def Request.footprint (config : BrokerConfig) (request : Request) : Footprint where
  deployment := config.deploymentName request.instanceId
  kinds := request.callKinds
  locks := request.lock?.toList

namespace Broker

open Steps

variable (config : BrokerConfig) (about : Correlation) {f : Footprint}

theorem staysIn_dashboardUrl (listed : .dashboardUrl ∈ f.kinds) (plan : Plan) (manifest : String) :
    (dashboardUrl about plan manifest).StaysIn f := by
  have asks : (attempt (.dashboardUrl about.instanceId plan manifest) :
      Procedure BrokerError _).StaysIn f := staysIn_attempt (.unnamed listed rfl)
  refine asks.then fun answer => ?_
  match answer with
  | .ok url => exact staysIn_pure url
  | .error (e : AdapterError) =>
    change (if e = AdapterError.notImplemented then _ else _ : Procedure BrokerError String).StaysIn f
    split
    · exact staysIn_pure _
    · exact (staysIn_note _).then fun _ => staysIn_pure _

variable {locks : List LockKey}

theorem staysIn_provisionLocked (details : ProvisionDetails) :
    (provisionLocked config about details).StaysIn
      ⟨config.deploymentName about.instanceId,
        [.getDeployment, .countOffering, .countPlan, .submitDeploy, .dashboardUrl], locks⟩ := by
  refine (staysIn_findPlan config about details.planId).then fun plan => ?_
  refine (staysIn_findDeployment about (by simp)).then fun deployment => ?_
  split
  · exact staysIn_refuse _
  · refine (staysIn_requireQuota config about (by simp) (by simp) plan).then fun _ => ?_
    refine (staysIn_deployContext plan).then fun contextId => ?_
    refine StaysIn.then (staysIn_ask (.named (by simp) rfl) fun _ => staysIn_refuse _) ?_
    refine fun outcome => (staysIn_note _).then fun _ => ?_
    refine (staysIn_dashboardUrl about (by simp) _ _).then fun url => ?_
    exact (staysIn_note _).then fun _ => staysIn_pure _

theorem staysIn_submitRedeploy (way : Redeploy) (deploys : .submitDeploy ∈ f.kinds)
    (recreates : .submitRecreate ∈ f.kinds) (contextId : String) (plan : Plan)
    (details : UpdateDetails) :
    (submitRedeploy way about f.deployment contextId plan details).StaysIn f := by
  cases way with
  | recreate => exact staysIn_ask (.named recreates rfl) fun _ => staysIn_refuse _
  | update | upgrade =>
    refine StaysIn.then (staysIn_ask (.named deploys rfl) fun _ => staysIn_refuse _) ?_
    exact fun outcome => staysIn_pure _

theorem staysIn_redeployLocked (way : Redeploy) (details : UpdateDetails) :
    (redeployLocked config way about details).StaysIn
      ⟨config.deploymentName about.instanceId,
        [.getDeployment, .getTasksInProgress, .countOffering, .countPlan, .submitDeploy,
          .submitRecreate], locks⟩ := by
  refine (staysIn_findPlan config about details.planId).then fun plan => ?_
  refine (staysIn_findDeployment about (by simp)).then fun deployment => ?_
  split
  · exact staysIn_refuse _
  · refine (staysIn_requireIdle about (by simp)).then fun _ => ?_
    refine (staysIn_requireQuota config about (by simp) (by simp) plan).then_if ?_
    refine (staysIn_deployContext plan).then fun contextId => ?_
    refine (staysIn_submitRedeploy about way (by simp) (by simp) contextId plan details).then ?_
    exact fun _ => (staysIn_note _).then fun _ => (staysIn_note _).then fun _ => staysIn_pure _

theorem staysIn_startDelete (submits : .submitErrand ∈ f.kinds) (deletes : .submitDelete ∈ f.kinds)
    (plan : Plan) (force : Bool) : (startDelete about f.deployment plan force).StaysIn f := by
  have whole (forced : Bool) : (submitDelete about f.deployment forced).StaysIn f := by
    refine StaysIn.then (staysIn_ask (.named deletes rfl) fun _ => staysIn_refuse _) ?_
    exact fun _ => (staysIn_note _).then fun _ => staysIn_pure _
  unfold startDelete
  split
  · exact (whole true).then fun _ => staysIn_pure _
  · split
    · refine staysIn_fresh.then fun contextId => ?_
      refine StaysIn.then (staysIn_ask (.named submits rfl) fun _ => staysIn_refuse _) ?_
      exact fun _ => (staysIn_note _).then fun _ => staysIn_pure _
    · exact (whole false).then fun _ => staysIn_pure _

theorem staysIn_deprovisionLocked (details : DeprovisionDetails) :
    (deprovisionLocked config about details).StaysIn
      ⟨config.deploymentName about.instanceId,
        [.getDeployment, .getTasksInProgress, .submitErrand, .submitDelete, .deleteConfigs,
          .deleteSecrets], locks⟩ := by
  refine (staysIn_findDeployment about (by simp)).then fun deployment => ?_
  split
  · exact (staysIn_cleanUp about (by simp) (by simp)).then fun _ => staysIn_refuse _
  · refine (staysIn_requireIdle about (by simp)).then fun _ => ?_
    refine (staysIn_findPlan config about details.planId).then fun plan => ?_
    refine (staysIn_startDelete about (by simp) (by simp) plan details.force).then fun data => ?_
    exact (staysIn_note _).then fun _ => staysIn_pure _

theorem staysIn_resolveSecrets (listed : .resolveSecrets ∈ f.kinds) (deployment manifest : String) :
    (resolveSecrets about deployment manifest).StaysIn f := by
  have asks : (attempt (.resolveSecrets manifest) : Procedure BrokerError _).StaysIn f :=
    staysIn_attempt (.unnamed listed rfl)
  refine asks.then fun answer => ?_
  match answer with
  | .ok secrets => exact staysIn_pure secrets
  | .error (e : SecretsError) => exact (staysIn_note _).then fun _ => staysIn_pure _

theorem staysIn_bindingRequest (home : f.deployment = config.deploymentName about.instanceId)
    (finds : .getDeployment ∈ f.kinds) (looks : .getVms ∈ f.kinds)
    (resolves : .resolveSecrets ∈ f.kinds) (bindingId : String) (parameters : Parameters) :
    (bindingRequest config about bindingId parameters).StaysIn f := by
  unfold bindingRequest
  rw [← home]
  refine (staysIn_findDeployment about finds).then fun found => ?_
  split
  · exact staysIn_refuse _
  · have asks : (ask (.getVms f.deployment) (failed about)).StaysIn f :=
      staysIn_ask (.named looks rfl) fun _ => staysIn_refuse _
    refine asks.then fun vms => ?_
    exact (staysIn_resolveSecrets about resolves _ _).then fun secrets => staysIn_pure _

theorem staysIn_bindLocked (bindingId : String) (details : BindDetails) :
    (bindLocked config about bindingId details).StaysIn
      ⟨config.deploymentName about.instanceId,
        [.getDeployment, .getVms, .resolveSecrets, .createBinding], locks⟩ := by
  refine (staysIn_bindingRequest config about rfl (by simp) (by simp) (by simp) bindingId _).then ?_
  refine fun request =>
    StaysIn.then (staysIn_ask (.unnamed (by simp) rfl) fun _ => staysIn_refuse _) ?_
  exact fun binding => (staysIn_note _).then fun _ => (staysIn_note _).then fun _ => staysIn_pure _

theorem staysIn_unbindLocked (bindingId : String) :
    (unbindLocked config about bindingId).StaysIn
      ⟨config.deploymentName about.instanceId,
        [.getDeployment, .getVms, .resolveSecrets, .deleteBinding], locks⟩ := by
  refine (staysIn_bindingRequest config about rfl (by simp) (by simp) (by simp) bindingId _).then ?_
  refine fun request =>
    StaysIn.then (staysIn_ask (.unnamed (by simp) rfl) fun _ => staysIn_refuse _) ?_
  exact fun _ => (staysIn_note _).then fun _ => staysIn_note _

theorem staysIn_reportTask (configs : .deleteConfigs ∈ f.kinds) (secrets : .deleteSecrets ∈ f.kinds)
    (kind : OperationKind) (task : BackendTask) :
    (reportTask about f.deployment kind task).StaysIn f := by
  have cleans : (cleanUpAfterDelete about f.deployment).StaysIn f := by
    refine (staysIn_cleanUp about configs secrets).lift.then fun outcome => ?_
    split
    · exact staysIn_pure _
    · exact staysIn_note _
  unfold reportTask
  split
  · exact staysIn_pure _
  · refine cleans.then_if ?_
    exact (staysIn_note _).then fun _ => staysIn_pure _
  · exact (staysIn_note _).then fun _ => staysIn_pure _

theorem staysIn_lastOperation (requestId instanceId token : String) :
    (lastOperation config requestId instanceId token).StaysIn
      ⟨config.deploymentName instanceId,
        Lifecycle.stepKinds ++ [.deleteConfigs, .deleteSecrets], locks⟩ := by
  unfold lastOperation
  split
  · exact staysIn_refuse _
  · refine StaysIn.within ?_ _
    have steps := Lifecycle.staysIn_currentTask (f := ⟨config.deploymentName instanceId,
      Lifecycle.stepKinds ++ [.deleteConfigs, .deleteSecrets], locks⟩)
      (List.subset_append_left ..) config.offering
    refine (steps _).lift.then fun found => ?_
    split
    · exact staysIn_refuse _
    · exact staysIn_reportTask _ (f := ⟨config.deploymentName instanceId, _, locks⟩) (by simp)
        (by simp) _ _

end Broker

theorem Procedure.StaysIn.respond {α : Type} {f : Footprint} {body : Procedure BrokerError α}
    (stays : body.StaysIn f) (answer : α → Response) : (body.respond answer).StaysIn f :=
  Program.StaysIn.bind stays fun _ => .done _

/-- Every request stays inside its footprint. -/
theorem Request.staysIn_program (config : BrokerConfig) (request : Request) :
    (request.program config).StaysIn (request.footprint config) := by
  have declined {α : Type} (r : Refusal) (span : Log.Span) :
      (within span (refuse r) : Procedure BrokerError α).StaysIn (request.footprint config) :=
    (staysIn_refuse r).within span
  cases request with
  | provision requestId instanceId details asyncAllowed =>
    refine StaysIn.respond ?_ _
    cases asyncAllowed with
    | true =>
      refine StaysIn.within (StaysIn.holding ?_ _ (List.mem_singleton_self _)) _
      exact Broker.staysIn_provisionLocked config (config.correlation instanceId requestId .create) _
    | false => exact declined _ _
  | update requestId instanceId details asyncAllowed =>
    refine StaysIn.respond ?_ _
    cases asyncAllowed with
    | true =>
      refine StaysIn.within (StaysIn.then ?_ fun _ => staysIn_pure _) _
      refine StaysIn.holding ?_ _ (List.mem_singleton_self _)
      exact Broker.staysIn_redeployLocked config (config.correlation instanceId requestId .update) _ _
    | false => exact declined _ _
  | upgrade requestId instanceId details =>
    refine StaysIn.respond (StaysIn.within (StaysIn.holding ?_ _ (List.mem_singleton_self _)) _) _
    exact Broker.staysIn_redeployLocked config (config.correlation instanceId requestId .upgrade) _ _
  | recreate requestId instanceId planId =>
    refine StaysIn.respond (StaysIn.within (StaysIn.holding ?_ _ (List.mem_singleton_self _)) _) _
    exact Broker.staysIn_redeployLocked config (config.correlation instanceId requestId .recreate) _ _
  | deprovision requestId instanceId details asyncAllowed =>
    refine StaysIn.respond ?_ _
    cases asyncAllowed with
    | true =>
      refine StaysIn.within (StaysIn.holding ?_ _ (List.mem_singleton_self _)) _
      exact Broker.staysIn_deprovisionLocked config
        (config.correlation instanceId requestId (Broker.deletionKind details)) _
    | false => exact declined _ _
  | bind requestId instanceId bindingId details =>
    refine StaysIn.respond (StaysIn.within (StaysIn.holding ?_ _ (List.mem_singleton_self _)) _) _
    exact Broker.staysIn_bindLocked config (config.correlation instanceId requestId .bind) _ _
  | unbind requestId instanceId bindingId details =>
    refine StaysIn.respond (StaysIn.within (StaysIn.holding ?_ _ (List.mem_singleton_self _)) _) _
    exact Broker.staysIn_unbindLocked config (config.correlation instanceId requestId .unbind) _
  | lastOperation requestId instanceId token =>
    exact (Broker.staysIn_lastOperation config requestId instanceId token).respond _

end ServiceBroker
