import ServiceBroker.Proofs.Broker.Requests
import ServiceBroker.Proofs.Locks.Discipline

/-! The locks of requests. Deploys and deletions work under the lock of their instance, credentials
under that of their binding, and polls under none. A client that cannot wait for a deploy or a
deletion is turned away before the lock is even tried. -/
namespace ServiceBroker

open Procedure

namespace Steps

variable (config : BrokerConfig) (about : Correlation)

theorem lockFree_findPlan (planId : String) : (findPlan config about planId).LockFree := by
  unfold findPlan
  split
  · exact lockFree_pure _
  · exact lockFree_refuse _

theorem lockFree_findDeployment (deployment : String) :
    (findDeployment about deployment).LockFree := lockFree_ask _ fun _ => lockFree_refuse _

theorem lockFree_requireIdle (deployment : String) : (requireIdle about deployment).LockFree := by
  refine (lockFree_ask (.getTasksInProgress deployment) fun _ => lockFree_refuse _).then ?_
  intro tasks
  split
  · exact lockFree_pure _
  · exact lockFree_refuse _

theorem lockFree_countInstances (plan : Plan) :
    (countInstances config about plan).LockFree := by
  unfold countInstances
  split
  · exact (lockFree_ask .countOffering fun _ => lockFree_refuse _).then fun _ => lockFree_pure _
  · split
    · exact (lockFree_ask (.countPlan plan.id) fun _ => lockFree_refuse _).then
        fun _ => lockFree_pure _
    · exact lockFree_pure _

theorem lockFree_requireQuota (plan : Plan) : (requireQuota config about plan).LockFree := by
  refine (lockFree_countInstances config about plan).then fun counts => ?_
  split
  · exact lockFree_pure _
  · split
    · exact lockFree_pure _
    · exact lockFree_refuse _

theorem lockFree_deployContext (plan : Plan) : (deployContext plan).LockFree := by
  unfold deployContext
  split
  · exact lockFree_fresh
  · exact lockFree_pure _

theorem lockFree_cleanUp (deployment : String) : (cleanUp about deployment).LockFree := by
  refine (lockFree_ask (.deleteConfigs deployment) fun _ => lockFree_refuse _).then fun _ => ?_
  refine (lockFree_ask (.deleteSecrets deployment) fun _ => lockFree_refuse _).then fun _ => ?_
  exact lockFree_note _

end Steps

namespace Lifecycle

theorem lockFree_fetch (id : TaskId) : (fetch id).LockFree :=
  lockFree_ask _ fun _ => lockFree_throw _

theorem lockFree_history (deployment contextId : String) :
    (history deployment contextId).LockFree := by
  refine (lockFree_ask (.getTasksByContext deployment contextId) fun _ => lockFree_throw _).then ?_
  intro tasks
  cases tasks with
  | nil => exact lockFree_throw _
  | cons => exact lockFree_pure _

theorem lockFree_runErrand (deployment : String) (errand : Errand) (contextId : String) :
    (runErrand deployment errand contextId).LockFree :=
  (lockFree_ask (.submitErrand deployment errand contextId) fun _ => lockFree_throw _).then
    lockFree_fetch

theorem lockFree_postDeployErrand? (offering : Offering) (data : OperationData) :
    (postDeployErrand? offering data).LockFree := by
  unfold postDeployErrand?
  split
  · exact lockFree_pure _
  · split
    · exact (lockFree_note _).then fun _ => lockFree_pure _
    · split
      · exact (lockFree_note _).then fun _ => lockFree_pure _
      · split
        · exact lockFree_pure _
        · exact (lockFree_note _).then fun _ => lockFree_pure _

theorem lockFree_advanceDeploy (offering : Offering) (deployment : String) (data : OperationData) :
    (advanceDeploy offering deployment data).LockFree := by
  refine (lockFree_history deployment data.contextId).then fun tasks => ?_
  split
  · split
    · refine (lockFree_postDeployErrand? offering data).then fun errand => ?_
      split
      · exact (lockFree_note _).then fun _ => lockFree_runErrand _ _ _
      · exact lockFree_pure _
    · exact lockFree_pure _
  · exact lockFree_pure _
  · exact lockFree_throw _

theorem lockFree_advanceDelete (deployment : String) (data : OperationData) :
    (advanceDelete deployment data).LockFree := by
  refine (lockFree_history deployment data.contextId).then fun tasks => ?_
  split
  · exact lockFree_throw _
  · split
    · dsimp only
      split
      · refine (lockFree_note _).then fun _ => ?_
        exact (lockFree_ask (.submitDelete _ _ _) fun _ => lockFree_throw _).then lockFree_fetch
      · split
        · exact (lockFree_note _).then fun _ => lockFree_runErrand _ _ _
        · exact lockFree_pure _
    · exact lockFree_pure _

theorem lockFree_currentTask (offering : Offering) (deployment : String) (data : OperationData) :
    (currentTask offering deployment data).LockFree := by
  unfold currentTask
  split
  · exact lockFree_fetch _
  · split
    · exact lockFree_advanceDeploy _ _ _
    · split
      · exact lockFree_advanceDelete _ _
      · exact lockFree_fetch _

end Lifecycle

namespace Broker

open Steps

variable (config : BrokerConfig) (about : Correlation)

theorem lockFree_dashboardUrl (plan : Plan) (manifest : String) :
    (dashboardUrl about plan manifest).LockFree := by
  refine (lockFree_attempt (.dashboardUrl about.instanceId plan manifest)).then fun answer => ?_
  match answer with
  | .ok url => exact lockFree_pure url
  | .error (e : AdapterError) =>
    change (if e = AdapterError.notImplemented then _ else _ : Procedure BrokerError String).LockFree
    split
    · exact lockFree_pure _
    · exact (lockFree_note _).then fun _ => lockFree_pure _

theorem lockFree_provisionLocked (details : ProvisionDetails) :
    (provisionLocked config about details).LockFree := by
  refine (lockFree_findPlan config about details.planId).then fun plan => ?_
  refine (lockFree_findDeployment about _).then fun deployment => ?_
  split
  · exact lockFree_refuse _
  · refine (lockFree_requireQuota config about plan).then fun _ => ?_
    refine (lockFree_deployContext plan).then fun contextId => ?_
    refine (lockFree_ask (.submitDeploy _) fun _ => lockFree_refuse _).then fun outcome => ?_
    refine (lockFree_note _).then fun _ => ?_
    refine (lockFree_dashboardUrl about _ _).then fun url => ?_
    exact (lockFree_note _).then fun _ => lockFree_pure _

theorem lockFree_submitRedeploy (way : Redeploy) (deployment contextId : String) (plan : Plan)
    (details : UpdateDetails) :
    (submitRedeploy way about deployment contextId plan details).LockFree := by
  cases way with
  | recreate => exact lockFree_ask (.submitRecreate deployment contextId) fun _ => lockFree_refuse _
  | update | upgrade =>
    exact (lockFree_ask (.submitDeploy _) fun _ => lockFree_refuse _).then fun _ => lockFree_pure _

theorem lockFree_redeployLocked (way : Redeploy) (details : UpdateDetails) :
    (redeployLocked config way about details).LockFree := by
  refine (lockFree_findPlan config about details.planId).then fun plan => ?_
  refine (lockFree_findDeployment about _).then fun deployment => ?_
  split
  · exact lockFree_refuse _
  · refine (lockFree_requireIdle about _).then fun _ => ?_
    refine (lockFree_requireQuota config about plan).then_if ?_
    refine (lockFree_deployContext plan).then fun contextId => ?_
    refine (lockFree_submitRedeploy about way _ contextId plan details).then fun taskId => ?_
    exact (lockFree_note _).then fun _ => (lockFree_note _).then fun _ => lockFree_pure _

theorem lockFree_startDelete (deployment : String) (plan : Plan) (force : Bool) :
    (startDelete about deployment plan force).LockFree := by
  have deletes (forced : Bool) : (submitDelete about deployment forced).LockFree :=
    (lockFree_ask (.submitDelete deployment "" forced) fun _ => lockFree_refuse _).then
      fun _ => (lockFree_note _).then fun _ => lockFree_pure _
  unfold startDelete
  split
  · exact (deletes true).then fun _ => lockFree_pure _
  · split
    · refine lockFree_fresh.then fun contextId => ?_
      refine (lockFree_ask (.submitErrand deployment _ contextId) fun _ => lockFree_refuse _).then ?_
      exact fun _ => (lockFree_note _).then fun _ => lockFree_pure _
    · exact (deletes false).then fun _ => lockFree_pure _

theorem lockFree_deprovisionLocked (details : DeprovisionDetails) :
    (deprovisionLocked config about details).LockFree := by
  refine (lockFree_findDeployment about _).then fun deployment => ?_
  split
  · exact (lockFree_cleanUp about _).then fun _ => lockFree_refuse _
  · refine (lockFree_requireIdle about _).then fun _ => ?_
    refine (lockFree_findPlan config about details.planId).then fun plan => ?_
    refine (lockFree_startDelete about _ _ _).then fun data => ?_
    exact (lockFree_note _).then fun _ => lockFree_pure _

theorem lockFree_resolveSecrets (deployment manifest : String) :
    (resolveSecrets about deployment manifest).LockFree := by
  refine (lockFree_attempt (.resolveSecrets manifest)).then fun answer => ?_
  match answer with
  | .ok secrets => exact lockFree_pure secrets
  | .error (e : SecretsError) => exact (lockFree_note _).then fun _ => lockFree_pure _

theorem lockFree_bindingRequest (bindingId : String) (parameters : Parameters) :
    (bindingRequest config about bindingId parameters).LockFree := by
  refine (lockFree_findDeployment about _).then fun found => ?_
  split
  · exact lockFree_refuse _
  · refine (lockFree_ask (.getVms _) fun _ => lockFree_refuse _).then fun vms => ?_
    exact (lockFree_resolveSecrets about _ _).then fun secrets => lockFree_pure _

theorem lockFree_bindLocked (bindingId : String) (details : BindDetails) :
    (bindLocked config about bindingId details).LockFree := by
  refine (lockFree_bindingRequest config about bindingId _).then fun request => ?_
  refine (lockFree_ask (.createBinding request) fun _ => lockFree_refuse _).then fun binding => ?_
  exact (lockFree_note _).then fun _ => (lockFree_note _).then fun _ => lockFree_pure _

theorem lockFree_unbindLocked (bindingId : String) :
    (unbindLocked config about bindingId).LockFree := by
  refine (lockFree_bindingRequest config about bindingId _).then fun request => ?_
  refine (lockFree_ask (.deleteBinding request) fun _ => lockFree_refuse _).then fun _ => ?_
  exact (lockFree_note _).then fun _ => lockFree_note _

theorem lockFree_cleanUpAfterDelete (deployment : String) :
    (cleanUpAfterDelete about deployment).LockFree := by
  refine (lockFree_cleanUp about deployment).lift.then fun outcome => ?_
  split
  · exact lockFree_pure _
  · exact lockFree_note _

theorem lockFree_reportTask (deployment : String) (kind : OperationKind) (task : BackendTask) :
    (reportTask about deployment kind task).LockFree := by
  unfold reportTask
  split
  · exact lockFree_pure _
  · refine (lockFree_cleanUpAfterDelete about deployment).then_if ?_
    exact (lockFree_note _).then fun _ => lockFree_pure _
  · exact (lockFree_note _).then fun _ => lockFree_pure _

theorem lockFree_lastOperation (requestId instanceId token : String) :
    (lastOperation config requestId instanceId token).LockFree := by
  unfold lastOperation
  split
  · exact lockFree_refuse _
  · refine LockFree.within ?_ _
    refine (Lifecycle.lockFree_currentTask _ _ _).lift.then fun found => ?_
    split
    · exact lockFree_refuse _
    · exact lockFree_reportTask _ _ _ _

theorem enters_redeploy (way : Redeploy) (requestId instanceId : String) (details : UpdateDetails) :
    (redeploy config way requestId instanceId details).Enters
      (config.correlation instanceId requestId way.kind) ⟨.serviceInstance, instanceId⟩ :=
  (lockFree_redeployLocked config _ way details).holding _ ⟨.serviceInstance, instanceId⟩

end Broker

/-- The response to a request whose lock somebody else has. -/
def LockKey.conflict (key : LockKey) : Response := .refused (.conflict (key.kind.heldText key.id))

theorem Procedure.Enters.respond {α : Type} {body : Procedure BrokerError α} {about : Correlation}
    {key : LockKey} (enters : body.Enters about key) (answer : α → Response) :
    (body.respond answer).Enters key (· = key.conflict) := by
  refine Program.Enters.bind enters (fun result => .done trivial) ?_
  rintro _ rfl
  exact .done rfl

namespace Request

/-- The lock that a request works under. -/
def lock? : Request → Option LockKey
  | provision _ instanceId .. | update _ instanceId .. | upgrade _ instanceId _
  | recreate _ instanceId _ | deprovision _ instanceId .. => some ⟨.serviceInstance, instanceId⟩
  | bind _ _ bindingId _ | unbind _ _ bindingId _ => some ⟨.binding, bindingId⟩
  | lastOperation .. => none

variable (config : BrokerConfig) {request : Request}

/-- A request that works under a lock takes it first, or is turned away before that. -/
theorem enters_program {key : LockKey} (lock : request.lock? = some key) :
    (request.program config).Enters key (· = key.conflict) ∨
      (request.program config).Silent fun _ => True := by
  have declined {α : Type} (r : Refusal) (span : Log.Span) (answer : α → Response) :
      ((within span (refuse r)).respond answer).Silent fun _ => True :=
    .log _ (.done trivial)
  cases request with
  | provision requestId instanceId details asyncAllowed =>
    cases lock
    cases asyncAllowed with
    | true =>
      have free := Broker.lockFree_provisionLocked config
        (config.correlation instanceId requestId .create) details
      exact .inl (((free.holding _ ⟨.serviceInstance, instanceId⟩).within _).respond _)
    | false => exact .inr (declined _ _ _)
  | update requestId instanceId details asyncAllowed =>
    cases lock
    cases asyncAllowed with
    | true =>
      have enters := Broker.enters_redeploy config .update requestId instanceId details
      exact .inl (((enters.map _).within _).respond _)
    | false => exact .inr (declined _ _ _)
  | upgrade requestId instanceId details =>
    cases lock
    exact .inl (((Broker.enters_redeploy config _ requestId instanceId _).within _).respond _)
  | recreate requestId instanceId planId =>
    cases lock
    exact .inl (((Broker.enters_redeploy config _ requestId instanceId _).within _).respond _)
  | deprovision requestId instanceId details asyncAllowed =>
    cases lock
    cases asyncAllowed with
    | true =>
      have free := Broker.lockFree_deprovisionLocked config
        (config.correlation instanceId requestId (Broker.deletionKind details)) details
      exact .inl (((free.holding _ ⟨.serviceInstance, instanceId⟩).within _).respond _)
    | false => exact .inr (declined _ _ _)
  | bind requestId instanceId bindingId details =>
    cases lock
    have free := Broker.lockFree_bindLocked config
      (config.correlation instanceId requestId .bind) bindingId details
    exact .inl (((free.holding _ ⟨.binding, bindingId⟩).within _).respond _)
  | unbind requestId instanceId bindingId details =>
    cases lock
    have free := Broker.lockFree_unbindLocked config
      (config.correlation instanceId requestId .unbind) bindingId
    exact .inl (((free.holding _ ⟨.binding, bindingId⟩).within _).respond _)
  | lastOperation => cases lock

/-- A request that works under no lock touches none. -/
theorem lockFree_program (lock : request.lock? = none) : (request.program config).LockFree := by
  cases request with
  | lastOperation requestId instanceId token =>
    exact (Broker.lockFree_lastOperation config requestId instanceId token).bind fun _ => .done _
  | _ => cases lock

end Request

end ServiceBroker
