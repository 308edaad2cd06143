import ServiceBroker.Proofs.Log.Lines

/-! What the operator is told about requests. A request that is refused has one line, with the ids to
find it by. Otherwise there is none, except after a poll that finds its task failed, or that cannot
remove what a deleted instance left behind. -/
namespace ServiceBroker

open Procedure

/-- Something of a deleted instance could not be removed. -/
def Happening.LeavesBehind : Happening → Prop
  | @answered k _ answer => (k = .deleteConfigs ∨ k = .deleteSecrets) ∧ ∃ e, answer = .error e
  | issued _ => False

/-- Something could not be removed on the way. -/
def LeftBehind (seen : List Happening) : Prop := ∃ x ∈ seen, x.LeavesBehind

theorem not_leftBehind_nil : ¬ LeftBehind [] := by
  rintro ⟨x, member, _⟩
  cases member

theorem leftBehind_append {seen later : List Happening} :
    LeftBehind (seen ++ later) ↔ LeftBehind seen ∨ LeftBehind later := by
  simp only [LeftBehind, List.mem_append, or_and_right, exists_or]

theorem leftBehind_cons {x : Happening} {later : List Happening} :
    LeftBehind (x :: later) ↔ x.LeavesBehind ∨ LeftBehind later := by
  simp only [LeftBehind, List.mem_cons, exists_eq_or_imp]

namespace Procedure

variable {ε α β : Type} {body : Procedure ε α} {next : α → Procedure ε β}

/-- The procedure logs no error and removes nothing, so it leaves nothing behind either. -/
def Hushed (body : Procedure ε α) : Prop :=
  ∀ past, ¬ LeftBehind past →
    body.run.Tells (fun past told _ => told = [] ∧ ¬ LeftBehind past) past []

theorem hushed_pure (a : α) : (pure a : Procedure ε α).Hushed := fun _ clean => ⟨rfl, clean⟩

theorem hushed_throw (e : ε) : (throw e : Procedure ε α).Hushed := fun _ clean => ⟨rfl, clean⟩

theorem hushed_info (message : String) (fields : List (String × Log.FieldValue)) :
    (info message fields : Procedure ε Unit).Hushed := fun _ clean => ⟨rfl, clean⟩

theorem hushed_warn (message : String) (fields : List (String × Log.FieldValue)) :
    (warn message fields : Procedure ε Unit).Hushed := fun _ clean => ⟨rfl, clean⟩

theorem Hushed.then (hushed : body.Hushed) (rest : ∀ a, (next a).Hushed) :
    (body >>= next).Hushed := by
  intro past clean
  rw [run_bind_procedure, Program.tells_bind]
  refine (hushed past clean).mono fun later told result booked => ?_
  obtain ⟨rfl, clean⟩ := booked
  cases result with
  | error e => exact ⟨rfl, clean⟩
  | ok a => exact rest a later clean

/-- A call that removes nothing. -/
theorem hushed_ask {k : CallKind} (c : Call k) (keeps : k ≠ .deleteConfigs ∧ k ≠ .deleteSecrets)
    {onFailure : k.Failure → Procedure ε k.Value} (fails : ∀ e, (onFailure e).Hushed) :
    (ask c onFailure).Hushed := by
  have asked : (attempt c : Procedure ε k.Answer).Hushed := by
    intro past clean answer
    refine ⟨rfl, fun left => ?_⟩
    rcases leftBehind_append.mp left with left | left
    · exact clean left
    · rcases leftBehind_cons.mp left with ⟨removes, _⟩ | left
      · exact removes.elim keeps.1 keeps.2
      · exact not_leftBehind_nil left
  refine asked.then fun answer => ?_
  cases answer with
  | ok value => exact hushed_pure value
  | error e => exact fails e

end Procedure

namespace Lifecycle

theorem hushed_fetch (id : TaskId) : (fetch id).Hushed :=
  hushed_ask (.getTask id) (by decide) fun _ => hushed_throw _

theorem hushed_history (deployment contextId : String) : (history deployment contextId).Hushed := by
  refine (hushed_ask (.getTasksByContext deployment contextId) (by decide)
    fun _ => hushed_throw _).then ?_
  intro tasks
  cases tasks with
  | nil => exact hushed_throw _
  | cons => exact hushed_pure _

theorem hushed_runErrand (deployment : String) (errand : Errand) (contextId : String) :
    (runErrand deployment errand contextId).Hushed :=
  (hushed_ask (.submitErrand deployment errand contextId) (by decide) fun _ => hushed_throw _).then
    hushed_fetch

theorem hushed_postDeployErrand? (offering : Offering) (data : OperationData) :
    (postDeployErrand? offering data).Hushed := by
  unfold postDeployErrand?
  split
  · exact hushed_pure _
  · split
    · exact (hushed_info _ _).then fun _ => hushed_pure _
    · split
      · exact (hushed_warn _ _).then fun _ => hushed_pure _
      · split
        · exact hushed_pure _
        · exact (hushed_info _ _).then fun _ => hushed_pure _

theorem hushed_advanceDeploy (offering : Offering) (deployment : String) (data : OperationData) :
    (advanceDeploy offering deployment data).Hushed := by
  refine (hushed_history deployment data.contextId).then fun tasks => ?_
  split
  · split
    · refine (hushed_postDeployErrand? offering data).then fun errand => ?_
      split
      · exact (hushed_info _ _).then fun _ => hushed_runErrand _ _ _
      · exact hushed_pure _
    · exact hushed_pure _
  · exact hushed_pure _
  · exact hushed_throw _

theorem hushed_advanceDelete (deployment : String) (data : OperationData) :
    (advanceDelete deployment data).Hushed := by
  refine (hushed_history deployment data.contextId).then fun tasks => ?_
  split
  · exact hushed_throw _
  · split
    · dsimp only
      split
      · refine (hushed_info _ _).then fun _ => ?_
        exact (hushed_ask (.submitDelete _ _ _) (by decide) fun _ => hushed_throw _).then
          hushed_fetch
      · split
        · exact (hushed_info _ _).then fun _ => hushed_runErrand _ _ _
        · exact hushed_pure _
    · exact hushed_pure _

/-- Taking an operation further is not logged as an error, even if it fails: who asked for it does
that. -/
theorem hushed_currentTask (offering : Offering) (deployment : String) (data : OperationData) :
    (currentTask offering deployment data).Hushed := by
  unfold currentTask
  split
  · exact hushed_fetch _
  · split
    · exact hushed_advanceDeploy _ _ _
    · split
      · exact hushed_advanceDelete _ _
      · exact hushed_fetch _

end Lifecycle

namespace Steps

variable (config : BrokerConfig) (about : Correlation)

theorem accounts_findPlan (planId : String) : (findPlan config about planId).Accounts about := by
  unfold findPlan
  split
  · exact accounts_pure _
  · exact accounts_refuse (Refusal.reports_sentinel ..)

theorem accounts_failed {α : Type} (e : BackendError) :
    (failed about e : Procedure BrokerError α).Accounts about :=
  accounts_refuse (Refusal.reports_ofBackend about e)

theorem accounts_findDeployment (deployment : String) :
    (findDeployment about deployment).Accounts about :=
  accounts_ask (.getDeployment deployment) (accounts_failed about)

theorem accounts_deploymentMissing {α : Type} (deployment : String) :
    (refuse (deploymentMissing about deployment) : Procedure BrokerError α).Accounts about :=
  accounts_refuse (Refusal.reports_sentinel ..)

theorem accounts_requireIdle (deployment : String) :
    (requireIdle about deployment).Accounts about := by
  refine (accounts_ask (.getTasksInProgress deployment) (accounts_failed about)).then fun tasks => ?_
  split
  · exact accounts_pure _
  · exact accounts_refuse (Refusal.reports_conflict ..)

theorem accounts_countInstances (plan : Plan) :
    (countInstances config about plan).Accounts about := by
  unfold countInstances
  split
  · exact (accounts_ask .countOffering (accounts_failed about)).then fun _ => accounts_pure _
  · split
    · exact (accounts_ask (.countPlan plan.id) (accounts_failed about)).then fun _ =>
        accounts_pure _
    · exact accounts_pure _

theorem accounts_requireQuota (plan : Plan) : (requireQuota config about plan).Accounts about := by
  refine (accounts_countInstances config about plan).then fun counts => ?_
  split
  · exact accounts_pure _
  · split
    · exact accounts_pure _
    · exact accounts_refuse (Refusal.reports_displayable ..)

theorem accounts_deployContext (plan : Plan) : (deployContext plan).Accounts about := by
  unfold deployContext
  split
  · exact accounts_fresh
  · exact accounts_pure _

theorem accounts_noteAccepted (operation : String) (taskId : TaskId) :
    (noteAccepted operation about taskId).Accounts about := fun _ => rfl

theorem accounts_noteSucceeded (operation : String) :
    (noteSucceeded operation about).Accounts about := fun _ => rfl

/-- A removal fails if it leaves something behind, and then it says so. -/
theorem tells_cleanUp (deployment : String) (past : List Happening) :
    (cleanUp about deployment).run.Tells (fun later told result => Booked about told result ∧
      ∃ new, later = past ++ new ∧ (LeftBehind new ↔ result ≠ .ok ())) past [] := by
  have lost {k : CallKind} (c : Call k) (removes : k = .deleteConfigs ∨ k = .deleteSecrets)
      (e : k.Failure) : LeftBehind [.answered c (.error e)] :=
    ⟨_, List.mem_singleton_self _, removes, e, rfl⟩
  rintro (e | ⟨⟩)
  · refine ⟨⟨_, rfl, Refusal.reports_ofBackend about e⟩, _, rfl, ?_⟩
    exact iff_of_true (lost _ (.inl rfl) e) nofun
  · rintro (e | ⟨⟩)
    · refine ⟨⟨_, rfl, Refusal.reports_generic about _⟩, _, List.append_assoc .., ?_⟩
      exact iff_of_true (leftBehind_append.mpr (.inr (lost _ (.inr rfl) e))) nofun
    · refine ⟨rfl, _, List.append_assoc .., iff_of_false ?_ fun fails => fails rfl⟩
      rintro ⟨x, member, left⟩
      simp only [List.cons_append, List.nil_append, List.mem_cons, List.not_mem_nil, or_false]
        at member
      rcases member with rfl | rfl <;> obtain ⟨_, _, failed⟩ := left <;> cases failed

theorem accounts_cleanUp (deployment : String) : (cleanUp about deployment).Accounts about :=
  fun past => (tells_cleanUp about deployment past).mono fun _ _ _ ended => ended.1

end Steps

/-- The kind of operation that a token names, as far as it can be read. -/
def OperationData.revealed? (token : String) : Option OperationKind :=
  match decode token with
  | .error e => e.kind?
  | .ok data => some data.kind

namespace Request

def requestId : Request → String
  | provision requestId .. | update requestId .. | upgrade requestId .. | recreate requestId ..
  | deprovision requestId .. | bind requestId .. | unbind requestId .. | lastOperation requestId ..
    => requestId

/-- The kind of operation that a request asks for or asks about. -/
def kind? : Request → Option OperationKind
  | provision .. => some .create
  | update .. => some .update
  | upgrade .. => some .upgrade
  | recreate .. => some .recreate
  | deprovision _ _ details _ => some (Broker.deletionKind details)
  | bind .. => some .bind
  | unbind .. => some .unbind
  | lastOperation _ _ token => OperationData.revealed? token

/-- What it takes to find a request again. -/
def about (config : BrokerConfig) (request : Request) : Correlation where
  service := config.offering.name
  instanceId := request.instanceId
  requestId := request.requestId
  kind := request.kind?

end Request

/-- The line about an error that nobody is answered with. -/
structure Log.Event.Mentions (e : BrokerError) (line : Log.Event) : Prop where
  level : line.level = .error
  cause : line.field? "error" = some (.plain e.operatorText)

theorem Log.Event.Mentions.into {e : BrokerError} {line : Log.Event} (mentions : line.Mentions e)
    (span : Log.Span) : (line.into span).Mentions e := ⟨mentions.level, mentions.cause⟩

/-- What the operator is told about a request, after what it went through and by its response. -/
inductive Response.Account (about : Correlation) (seen : List Happening) :
    Response → List Log.Event → Prop where
  /-- A refusal has its line. -/
  | refused {e : BrokerError} {line : Log.Event} (reports : line.Reports about e) :
      Account about seen (.refused e) [line]
  /-- A task that failed has one too, although the poll succeeded. -/
  | failed {operation : LastOperation} {line : Log.Event} (state : operation.state = .failed)
      (correlated : line.Correlated about) : Account about seen (.polled operation) [line]
  /-- A deleted instance that left something behind has two, about what failed and about what it
  failed for. -/
  | leftover {operation : LastOperation} {e : BrokerError} {line again : Log.Event}
      (state : operation.state = .succeeded)
      (kind : about.kind = some .delete ∨ about.kind = some .forceDelete) (left : LeftBehind seen)
      (reports : line.Reports about e) (mentions : again.Mentions e) :
      Account about seen (.polled operation) [line, again]
  | fine {r : Response} (granted : ∀ e, r ≠ .refused e)
      (polled : ∀ operation, r = .polled operation →
        operation.state ≠ .failed ∧ ¬ LeftBehind seen) : Account about seen r []

namespace Response

variable {about : Correlation} {seen : List Happening} {told : List Log.Event}

theorem Account.into {r : Response} (account : r.Account about seen told) (span : Log.Span) :
    r.Account about seen (told.map (·.into span)) := by
  cases account with
  | refused reports => exact .refused (reports.into span)
  | failed state correlated => exact .failed state (correlated.into span)
  | leftover state kind left reports mentions =>
    exact .leftover state kind left (reports.into span) (mentions.into span)
  | fine granted polled => exact .fine granted polled

/-- A task is no part of what a request is correlated with. -/
theorem Account.of_task {r : Response} {taskId : Option Nat}
    (account : r.Account { about with taskId } seen told) : r.Account about seen told := by
  cases account with
  | refused reports => exact .refused reports.of_task
  | failed state correlated => exact .failed state correlated.of_task
  | leftover state kind left reports mentions =>
    exact .leftover state kind left reports.of_task mentions
  | fine granted polled => exact .fine granted polled

/-- What is answered to anything but a poll needs no line. -/
def Unpolled {α : Type} (answer : α → Response) : Prop :=
  ∀ a, (∀ e, answer a ≠ .refused e) ∧ ∀ operation, answer a ≠ .polled operation

end Response

/-- The books of a procedure are those of its response. -/
theorem Procedure.Accounts.respond {α : Type} {about : Correlation}
    {body : Procedure BrokerError α} (accounts : body.Accounts about) (answer : α → Response)
    (unpolled : Response.Unpolled answer) (past : List Happening) :
    (body.respond answer).Tells (fun seen told r => r.Account about seen told) past [] := by
  refine (Program.tells_bind _ _).mpr ((accounts past).mono fun seen told result booked => ?_)
  cases result with
  | error e =>
    obtain ⟨line, rfl, reports⟩ := booked
    exact .refused reports
  | ok a =>
    subst booked
    exact .fine (unpolled a).1 fun operation polled => absurd polled ((unpolled a).2 operation)

namespace Broker

open Steps

variable (config : BrokerConfig) (about : Correlation)

theorem accounts_dashboardUrl (plan : Plan) (manifest : String) :
    (dashboardUrl about plan manifest).Accounts about := by
  refine (accounts_attempt _).then fun answer => ?_
  split
  · exact accounts_pure _
  · split
    · exact accounts_pure _
    · exact (accounts_warn _ _).then fun _ => accounts_pure _

theorem accounts_provisionLocked (details : ProvisionDetails) :
    (provisionLocked config about details).Accounts about := by
  refine (accounts_findPlan config about details.planId).then fun plan => ?_
  refine (accounts_findDeployment about _).then fun deployment => ?_
  split
  · exact accounts_refuse (Refusal.reports_sentinel ..)
  · refine (accounts_requireQuota config about plan).then fun _ => ?_
    refine (accounts_deployContext about plan).then fun contextId => ?_
    refine (accounts_ask (.submitDeploy _) (accounts_failed about)).then fun outcome => ?_
    refine (accounts_info _ _).then fun _ => ?_
    refine (accounts_dashboardUrl about _ _).then fun url => ?_
    exact (accounts_noteAccepted about _ _).then fun _ => accounts_pure _

theorem accounts_submitRedeploy (way : Redeploy) (deployment contextId : String) (plan : Plan)
    (details : UpdateDetails) :
    (submitRedeploy way about deployment contextId plan details).Accounts about := by
  cases way with
  | recreate => exact accounts_ask (.submitRecreate deployment contextId) (accounts_failed about)
  | update | upgrade =>
    exact (accounts_ask (.submitDeploy _) (accounts_failed about)).then fun _ => accounts_pure _

theorem accounts_redeployLocked (way : Redeploy) (details : UpdateDetails) :
    (redeployLocked config way about details).Accounts about := by
  refine (accounts_findPlan config about details.planId).then fun plan => ?_
  refine (accounts_findDeployment about _).then fun deployment => ?_
  split
  · exact accounts_deploymentMissing about _
  · refine (accounts_requireIdle about _).then fun _ => ?_
    refine (accounts_requireQuota config about plan).then_if ?_
    refine (accounts_deployContext about plan).then fun contextId => ?_
    refine (accounts_submitRedeploy about way _ contextId plan details).then fun taskId => ?_
    exact (accounts_info _ _).then fun _ =>
      (accounts_noteAccepted about _ _).then fun _ => accounts_pure _

theorem accounts_startDelete (deployment : String) (plan : Plan) (force : Bool) :
    (startDelete about deployment plan force).Accounts about := by
  have deletes (forced : Bool) : (submitDelete about deployment forced).Accounts about :=
    (accounts_ask (.submitDelete deployment "" forced) (accounts_failed about)).then
      fun _ => (accounts_info _ _).then fun _ => accounts_pure _
  unfold startDelete
  split
  · exact (deletes true).then fun _ => accounts_pure _
  · split
    · refine accounts_fresh.then fun contextId => ?_
      refine (accounts_ask (.submitErrand deployment _ contextId) (accounts_failed about)).then ?_
      exact fun _ => (accounts_info _ _).then fun _ => accounts_pure _
    · exact (deletes false).then fun _ => accounts_pure _

theorem accounts_deprovisionLocked (details : DeprovisionDetails) :
    (deprovisionLocked config about details).Accounts about := by
  refine (accounts_findDeployment about _).then fun deployment => ?_
  split
  · exact (accounts_cleanUp about _).then fun _ =>
      accounts_refuse (Refusal.reports_displayableSentinel ..)
  · refine (accounts_requireIdle about _).then fun _ => ?_
    refine (accounts_findPlan config about details.planId).then fun plan => ?_
    refine (accounts_startDelete about _ _ _).then fun data => ?_
    exact (accounts_noteAccepted about _ _).then fun _ => accounts_pure _

theorem accounts_resolveSecrets (deployment manifest : String) :
    (resolveSecrets about deployment manifest).Accounts about := by
  refine (accounts_attempt _).then fun answer => ?_
  split
  · exact accounts_pure _
  · exact (accounts_warn _ _).then fun _ => accounts_pure _

theorem accounts_bindingRequest (bindingId : String) (parameters : Parameters) :
    (bindingRequest config about bindingId parameters).Accounts about := by
  refine (accounts_findDeployment about _).then fun found => ?_
  split
  · exact accounts_deploymentMissing about _
  · refine (accounts_ask (.getVms _) (accounts_failed about)).then fun vms => ?_
    exact (accounts_resolveSecrets about _ _).then fun secrets => accounts_pure _

theorem accounts_adapterFailed {α : Type} (e : AdapterError) :
    (adapterFailed about e : Procedure BrokerError α).Accounts about :=
  accounts_refuse (Refusal.reports_ofAdapter about .binding e)

theorem accounts_bindLocked (bindingId : String) (details : BindDetails) :
    (bindLocked config about bindingId details).Accounts about := by
  refine (accounts_bindingRequest config about bindingId _).then fun request => ?_
  refine (accounts_ask (.createBinding request) (accounts_adapterFailed about)).then fun binding => ?_
  exact (accounts_info _ _).then fun _ =>
    (accounts_noteSucceeded about _).then fun _ => accounts_pure _

theorem accounts_unbindLocked (bindingId : String) :
    (unbindLocked config about bindingId).Accounts about := by
  refine (accounts_bindingRequest config about bindingId _).then fun request => ?_
  refine (accounts_ask (.deleteBinding request) (accounts_adapterFailed about)).then fun _ => ?_
  exact (accounts_info _ _).then fun _ => accounts_noteSucceeded about _

/-- The removal of what a deleted instance left behind is logged if it fails, and does no harm. -/
inductive Removal (about : Correlation) (seen : List Happening) : List Log.Event → Prop where
  | done (clean : ¬ LeftBehind seen) : Removal about seen []
  | failed {e : BrokerError} {line again : Log.Event} (left : LeftBehind seen)
      (reports : line.Reports about e) (mentions : again.Mentions e) :
      Removal about seen [line, again]

theorem tells_cleanUpAfterDelete (deployment : String) {past : List Happening}
    (clean : ¬ LeftBehind past) : (cleanUpAfterDelete about deployment).run.Tells
      (fun seen told result => result = .ok () ∧ Removal about seen told) past [] := by
  rw [cleanUpAfterDelete, run_bind_procedure, Program.tells_bind, tells_lift]
  refine (tells_cleanUp about deployment past).mono fun seen told result ended => ?_
  obtain ⟨booked, new, rfl, left⟩ := ended
  cases result with
  | ok _ =>
    subst booked
    refine ⟨rfl, .done fun anywhere => ?_⟩
    exact (leftBehind_append.mp anywhere).elim clean fun now => left.mp now rfl
  | error e =>
    obtain ⟨line, rfl, reports⟩ := booked
    exact ⟨rfl, .failed (leftBehind_append.mpr (.inr (left.mpr nofun))) reports ⟨rfl, rfl⟩⟩

/-- What a poll reports about the task that it found. -/
theorem tells_reportTask (deployment : String) (kind : OperationKind) (task : BackendTask)
    (matching : about.kind = some kind) {past : List Happening} (clean : ¬ LeftBehind past) :
    (reportTask about deployment kind task).run.Tells
      (fun seen told result => (Response.ofResult .polled result).Account about seen told)
      past [] := by
  have quiet {state : LastOperationState} {description : String} {seen : List Happening}
      (better : state ≠ .failed) (clean : ¬ LeftBehind seen) :
      (Response.polled ⟨state, description⟩).Account about seen [] := by
    refine .fine nofun ?_
    rintro _ ⟨⟩
    exact ⟨better, clean⟩
  unfold reportTask
  split
  · exact quiet nofun clean
  · split
    case isTrue deletes =>
      rw [run_bind_procedure, Program.tells_bind]
      refine (tells_cleanUpAfterDelete about deployment clean).mono fun seen told result ended => ?_
      obtain ⟨rfl, removal⟩ := ended
      cases removal with
      | done clean => exact quiet nofun clean
      | failed left reports mentions =>
        refine .leftover rfl ?_ left reports mentions
        exact matching ▸ deletes.imp (congrArg some) (congrArg some)
    case isFalse => exact quiet nofun clean
  · exact .failed rfl (Refusal.correlated_event (.generic about _))

theorem tells_pollOperation (data : OperationData) (matching : about.kind = some data.kind)
    {past : List Happening} (clean : ¬ LeftBehind past) :
    (pollOperation config about data).run.Tells
      (fun seen told result => (Response.ofResult .polled result).Account about seen told)
      past [] := by
  rw [pollOperation, run_bind_procedure, Program.tells_bind, tells_lift]
  refine (Lifecycle.hushed_currentTask _ _ data past clean).mono fun seen told found ended => ?_
  obtain ⟨rfl, clean⟩ := ended
  cases found with
  | error e => exact .refused (Refusal.reports_ofLifecycle about e)
  | ok task =>
    refine (tells_reportTask { about with taskId := some task.id } _ data.kind task matching
      clean).mono fun seen told result account => ?_
    exact account.of_task

/-- A token that cannot be used may still tell which operation it is about. -/
theorem tells_lastOperation (requestId instanceId token : String) {past : List Happening}
    (clean : ¬ LeftBehind past) :
    (lastOperation config requestId instanceId token).run.Tells
      (fun seen told result => (Response.ofResult .polled result).Account
        { service := config.offering.name, instanceId, requestId,
          kind := OperationData.revealed? token } seen told) past [] := by
  unfold lastOperation OperationData.revealed?
  cases OperationData.decode token with
  | error e => exact .refused (Refusal.reports_generic _ _)
  | ok data =>
    refine Program.Tells.within [] ?_
    refine (tells_pollOperation config _ data rfl clean).mono fun seen told result account => ?_
    exact account.of_task.into _

end Broker

namespace Request

/-- Every error that a request is answered with has one line, which says what happened and to which
request. Nothing else is logged as an error, but a failed task and what a deletion left behind. -/
theorem account_run (config : BrokerConfig) (request : Request) {σ : Type} (h : Program.Handler σ)
    (s : σ) : ((request.program config).run h s).1.Account (request.about config)
      ((request.program config).transcript h s) ((request.program config).errors h s) := by
  suffices tells : (request.program config).Tells
      (fun seen told r => r.Account (request.about config) seen told) [] [] from tells.run h s
  cases request with
  | provision requestId instanceId details asyncAllowed =>
    refine Accounts.respond (Accounts.within ?_ _) .provisioned (fun _ => ⟨nofun, nofun⟩) []
    split
    · exact (Broker.accounts_provisionLocked config _ details).holding _ _
    · exact accounts_refuse (Refusal.reports_sentinel ..)
  | update requestId instanceId details asyncAllowed =>
    refine Accounts.respond (Accounts.within ?_ _) .accepted (fun _ => ⟨nofun, nofun⟩) []
    split
    · exact ((Broker.accounts_redeployLocked config _ .update details).holding _ _).then
        fun _ => accounts_pure _
    · exact accounts_refuse (Refusal.reports_sentinel ..)
  | upgrade requestId instanceId details =>
    exact (((Broker.accounts_redeployLocked config _ .upgrade details).holding _ _).within
      _).respond .started (fun _ => ⟨nofun, nofun⟩) []
  | recreate requestId instanceId planId =>
    exact (((Broker.accounts_redeployLocked config _ .recreate _).holding _ _).within
      _).respond .started (fun _ => ⟨nofun, nofun⟩) []
  | deprovision requestId instanceId details asyncAllowed =>
    refine Accounts.respond (Accounts.within ?_ _) .accepted (fun _ => ⟨nofun, nofun⟩) []
    split
    · exact (Broker.accounts_deprovisionLocked config _ details).holding _ _
    · exact accounts_refuse (Refusal.reports_sentinel ..)
  | bind requestId instanceId bindingId details =>
    exact (((Broker.accounts_bindLocked config _ bindingId details).holding _ _).within
      _).respond .bound (fun _ => ⟨nofun, nofun⟩) []
  | unbind requestId instanceId bindingId details =>
    exact (((Broker.accounts_unbindLocked config _ bindingId).holding _ _).within
      _).respond (fun () => .unbound) (fun _ => ⟨nofun, nofun⟩) []
  | lastOperation requestId instanceId token =>
    refine (Program.tells_bind _ _).mpr ?_
    exact Broker.tells_lastOperation config requestId instanceId token not_leftBehind_nil

end Request

end ServiceBroker
