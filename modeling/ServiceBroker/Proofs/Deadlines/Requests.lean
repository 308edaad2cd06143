import ServiceBroker.Proofs.Deadlines.Lapse
import ServiceBroker.Proofs.Lifecycle.Missing

/-! What requests make of a missed deadline. Whatever a request was waiting for, its client is told to
try again later, unless the request can do without it: a new instance without its dashboard,
credentials without the secrets of the manifest, and a finished deletion with something left behind.
There is one exception. A deletion of a missing instance that is cut off while it removes secrets
ends with an error that does not say so. -/
namespace ServiceBroker

open Procedure

namespace Steps

variable (config : BrokerConfig) (about : Correlation)

theorem punctual_findPlan (planId : String) :
    (findPlan config about planId).Punctual Retryable := by
  unfold findPlan
  split
  · exact punctual_pure _
  · exact punctual_refuse _

/-- The backend and the counter are asked in the same way everywhere. -/
theorem quits_failed {α : Type} (operation : String) :
    (failed about (.deadlineExceeded operation) : Procedure BrokerError α).run.Quits
      fun result => ∃ e, result = .error e ∧ Retryable e :=
  .log _ (.done ⟨_, rfl, rfl⟩)

theorem punctual_findDeployment (deployment : String) :
    (findDeployment about deployment).Punctual Retryable :=
  punctual_ask (.getDeployment deployment) (by decide) (quits_failed about _)

theorem punctual_requireIdle (deployment : String) :
    (requireIdle about deployment).Punctual Retryable := by
  refine (punctual_ask (.getTasksInProgress deployment) (by decide)
    (quits_failed about _)).then fun tasks => ?_
  split
  · exact punctual_pure _
  · exact punctual_refuse _

theorem punctual_countInstances (plan : Plan) :
    (countInstances config about plan).Punctual Retryable := by
  unfold countInstances
  split
  · exact (punctual_ask .countOffering (by decide) (quits_failed about _)).then fun _ =>
      punctual_pure _
  · split
    · exact (punctual_ask (.countPlan plan.id) (by decide) (quits_failed about _)).then fun _ =>
        punctual_pure _
    · exact punctual_pure _

theorem punctual_requireQuota (plan : Plan) :
    (requireQuota config about plan).Punctual Retryable := by
  refine (punctual_countInstances config about plan).then fun counts => ?_
  split
  · exact punctual_pure _
  · split
    · exact punctual_pure _
    · exact punctual_refuse _

theorem punctual_deployContext (plan : Plan) : (deployContext plan).Punctual Retryable := by
  unfold deployContext
  split
  · exact punctual_fresh
  · exact punctual_pure _

/-- Where something has to be removed, the removal of secrets slips. -/
theorem bears_cleanUp (deployment : String) :
    (cleanUp about deployment).Bears (fun _ => False) (· = .deleteSecrets) := by
  refine (punctual_ask (.deleteConfigs deployment) (by decide)
    (quits_failed about _)).bears_then fun _ => ?_
  exact .call (.deleteSecrets deployment) none (.lost rfl (.log _ (.done rfl)))
    fun _ => .log _ (.done _)

/-- Whatever is cut off, a removal ends at once. -/
theorem onLapse_cleanUp (deployment : String) : (cleanUp about deployment).run.OnLapse
    fun k q => (k = .deleteConfigs ∨ k = .deleteSecrets) ∧ q.Quits fun _ => True :=
  .call (.deleteConfigs deployment) none ⟨.inl rfl, .log _ (.done trivial)⟩ fun _ =>
    .call (.deleteSecrets deployment) none ⟨.inr rfl, .log _ (.done trivial)⟩ fun _ =>
      .log _ (.done _)

end Steps

namespace Lifecycle

/-- The backend did not answer in time. -/
def Late (e : LifecycleError) : Prop := ∃ operation, e = .backend (.deadlineExceeded operation)

theorem quits_late {α : Type} (operation : String) :
    (failed (.deadlineExceeded operation) : Procedure LifecycleError α).run.Quits
      fun result => ∃ e, result = .error e ∧ Late e :=
  .done ⟨_, rfl, _, rfl⟩

theorem punctual_fetch (id : TaskId) : (fetch id).Punctual Late :=
  punctual_ask (.getTask id) (by decide) (quits_late _)

theorem punctual_history (deployment contextId : String) :
    (history deployment contextId).Punctual Late := by
  refine (punctual_ask (.getTasksByContext deployment contextId) (by decide) (quits_late _)).then ?_
  intro tasks
  cases tasks with
  | nil => exact punctual_throw _
  | cons => exact punctual_pure _

theorem punctual_runErrand (deployment : String) (errand : Errand) (contextId : String) :
    (runErrand deployment errand contextId).Punctual Late :=
  (punctual_ask (.submitErrand deployment errand contextId) (by decide) (quits_late _)).then
    punctual_fetch

theorem punctual_postDeployErrand? (offering : Offering) (data : OperationData) :
    (postDeployErrand? offering data).Punctual Late := by
  unfold postDeployErrand?
  split
  · exact punctual_pure _
  · split
    · exact (punctual_note _).then fun _ => punctual_pure _
    · split
      · exact (punctual_note _).then fun _ => punctual_pure _
      · split
        · exact punctual_pure _
        · exact (punctual_note _).then fun _ => punctual_pure _

theorem punctual_advanceDeploy (offering : Offering) (deployment : String) (data : OperationData) :
    (advanceDeploy offering deployment data).Punctual Late := by
  refine (punctual_history deployment data.contextId).then fun tasks => ?_
  split
  · split
    · refine (punctual_postDeployErrand? offering data).then fun errand => ?_
      split
      · exact (punctual_note _).then fun _ => punctual_runErrand _ _ _
      · exact punctual_pure _
    · exact punctual_pure _
  · exact punctual_pure _
  · exact punctual_throw _

theorem punctual_advanceDelete (deployment : String) (data : OperationData) :
    (advanceDelete deployment data).Punctual Late := by
  refine (punctual_history deployment data.contextId).then fun tasks => ?_
  split
  · exact punctual_throw _
  · split
    · dsimp only
      split
      · refine (punctual_note _).then fun _ => ?_
        exact (punctual_ask (.submitDelete _ _ _) (by decide) (quits_late _)).then punctual_fetch
      · split
        · exact (punctual_note _).then fun _ => punctual_runErrand _ _ _
        · exact punctual_pure _
    · exact punctual_pure _

theorem punctual_currentTask (offering : Offering) (deployment : String) (data : OperationData) :
    (currentTask offering deployment data).Punctual Late := by
  unfold currentTask
  split
  · exact punctual_fetch _
  · split
    · exact punctual_advanceDeploy _ _ _
    · split
      · exact punctual_advanceDelete _ _
      · exact punctual_fetch _

end Lifecycle

namespace Broker

open Steps

variable (config : BrokerConfig) (about : Correlation) {slips : CallKind → Prop}

theorem bears_dashboardUrl (plan : Plan) (manifest : String) :
    (dashboardUrl about plan manifest).Bears (· = .dashboardUrl) slips := by
  refine bears_attempt (.dashboardUrl about.instanceId plan manifest) rfl ?_ fun url => .done _
  exact (reliable_note _).then fun _ => reliable_pure _

theorem bears_provisionLocked (details : ProvisionDetails) :
    (provisionLocked config about details).Bears (· = .dashboardUrl) slips := by
  refine (punctual_findPlan config about details.planId).bears_then fun plan => ?_
  refine (punctual_findDeployment about _).bears_then fun deployment => ?_
  split
  · exact (punctual_refuse _).bears
  · refine (punctual_requireQuota config about plan).bears_then fun _ => ?_
    refine (punctual_deployContext plan).bears_then fun contextId => ?_
    refine (punctual_ask (.submitDeploy _) (by decide)
      (quits_failed about _)).bears_then fun outcome => ?_
    refine (punctual_note _).bears_then fun _ => ?_
    refine (bears_dashboardUrl about _ _).then (fun url => ?_) fun _ _ url => ?_
    · exact (punctual_note _).bears_then fun _ => (punctual_pure _).bears
    · exact (reliable_note _).then fun _ => reliable_pure _

theorem punctual_submitRedeploy (way : Redeploy) (deployment contextId : String) (plan : Plan)
    (details : UpdateDetails) :
    (submitRedeploy way about deployment contextId plan details).Punctual Retryable := by
  cases way with
  | recreate =>
    exact punctual_ask (.submitRecreate deployment contextId) (by decide) (quits_failed about _)
  | update | upgrade =>
    exact (punctual_ask (.submitDeploy _) (by decide) (quits_failed about _)).then fun _ =>
      punctual_pure _

theorem punctual_redeployLocked (way : Redeploy) (details : UpdateDetails) :
    (redeployLocked config way about details).Punctual Retryable := by
  refine (punctual_findPlan config about details.planId).then fun plan => ?_
  refine (punctual_findDeployment about _).then fun deployment => ?_
  split
  · exact punctual_refuse _
  · refine (punctual_requireIdle about _).then fun _ => ?_
    refine (punctual_requireQuota config about plan).then_if ?_
    refine (punctual_deployContext plan).then fun contextId => ?_
    refine (punctual_submitRedeploy about way _ contextId plan details).then fun taskId => ?_
    exact (punctual_note _).then fun _ => (punctual_note _).then fun _ => punctual_pure _

theorem punctual_startDelete (deployment : String) (plan : Plan) (force : Bool) :
    (startDelete about deployment plan force).Punctual Retryable := by
  have deletes (forced : Bool) : (submitDelete about deployment forced).Punctual Retryable :=
    (punctual_ask (.submitDelete deployment "" forced) (by decide) (quits_failed about _)).then
      fun _ => (punctual_note _).then fun _ => punctual_pure _
  unfold startDelete
  split
  · exact (deletes true).then fun _ => punctual_pure _
  · split
    · refine punctual_fresh.then fun contextId => ?_
      refine (punctual_ask (.submitErrand deployment _ contextId) (by decide)
        (quits_failed about _)).then ?_
      exact fun _ => (punctual_note _).then fun _ => punctual_pure _
    · exact (deletes false).then fun _ => punctual_pure _

theorem bears_deprovisionLocked (details : DeprovisionDetails) :
    (deprovisionLocked config about details).Bears (fun _ => False) (· = .deleteSecrets) := by
  refine (punctual_findDeployment about _).bears_then fun deployment => ?_
  split
  · refine (bears_cleanUp about _).then (fun _ => (punctual_refuse _).bears) ?_
    exact fun _ impossible => impossible.elim
  · refine (punctual_requireIdle about _).bears_then fun _ => ?_
    refine (punctual_findPlan config about details.planId).bears_then fun plan => ?_
    refine (punctual_startDelete about _ _ _).bears_then fun data => ?_
    exact (punctual_note _).bears_then fun _ => (punctual_pure _).bears

theorem bears_resolveSecrets (deployment manifest : String) :
    (resolveSecrets about deployment manifest).Bears (· = .resolveSecrets) slips := by
  refine bears_attempt (.resolveSecrets manifest) rfl ?_ fun secrets => .done _
  exact (reliable_note _).then fun _ => reliable_pure _

theorem bears_bindingRequest (bindingId : String) (parameters : Parameters) :
    (bindingRequest config about bindingId parameters).Bears (· = .resolveSecrets) slips := by
  refine (punctual_findDeployment about _).bears_then fun found => ?_
  split
  · exact (punctual_refuse _).bears
  · refine (punctual_ask (.getVms _) (by decide) (quits_failed about _)).bears_then fun vms => ?_
    refine (bears_resolveSecrets about _ _).then (fun secrets => ?_) fun _ _ secrets => ?_
    · exact (punctual_pure _).bears
    · exact reliable_pure _

theorem bears_bindLocked (bindingId : String) (details : BindDetails) :
    (bindLocked config about bindingId details).Bears (· = .resolveSecrets) slips := by
  refine (bears_bindingRequest config about bindingId _).then (fun request => ?_)
    fun _ _ request => ?_
  · refine (punctual_ask (.createBinding request) (by decide) ?_).bears_then fun binding => ?_
    · exact .log _ (.done ⟨_, rfl, rfl⟩)
    · exact ((punctual_note _).then fun _ => (punctual_note _).then fun _ => punctual_pure _).bears
  · refine (reliable_ask (.createBinding request) _).then fun binding => ?_
    exact (reliable_note _).then fun _ => (reliable_note _).then fun _ => reliable_pure _

theorem bears_unbindLocked (bindingId : String) :
    (unbindLocked config about bindingId).Bears (· = .resolveSecrets) slips := by
  refine (bears_bindingRequest config about bindingId _).then (fun request => ?_)
    fun _ _ request => ?_
  · refine (punctual_ask (.deleteBinding request) (by decide) ?_).bears_then fun _ => ?_
    · exact .log _ (.done ⟨_, rfl, rfl⟩)
    · exact ((punctual_note _).then fun _ => punctual_note _).bears
  · refine (reliable_ask (.deleteBinding request) _).then fun _ => ?_
    exact (reliable_note _).then fun _ => reliable_note _

/-- What a poll can do without once the deletion is done. -/
def Leftover (k : CallKind) : Prop := k = .deleteConfigs ∨ k = .deleteSecrets

theorem bears_cleanUpAfterDelete (deployment : String) :
    (cleanUpAfterDelete about deployment).Bears Leftover slips := by
  refine lift_bears (onLapse_cleanUp about deployment) (fun outcome => ?_) fun outcome => ?_
  · split
    · exact reliable_pure _
    · exact reliable_note _
  · split
    · exact (punctual_pure _).bears
    · exact (punctual_note _).bears

theorem bears_reportTask (deployment : String) (kind : OperationKind) (task : BackendTask) :
    (reportTask about deployment kind task).Bears Leftover slips := by
  unfold reportTask
  split
  · exact (punctual_pure _).bears
  · have reported (outcome : LastOperation) (message : String)
        (fields : List (String × Log.FieldValue)) :
        (do info message fields; return outcome : Procedure BrokerError LastOperation).Punctual
          Retryable := (punctual_note _).then fun _ => punctual_pure _
    split
    · refine (bears_cleanUpAfterDelete about deployment).then (fun _ => (reported _ _ _).bears) ?_
      exact fun _ _ _ => (reliable_note _).then fun _ => reliable_pure _
    · exact (reported _ _ _).bears
  · exact ((punctual_note _).then fun _ => punctual_pure _).bears

theorem bears_pollOperation (data : OperationData) :
    (pollOperation config about data).Bears Leftover slips := by
  refine (Lifecycle.punctual_currentTask _ _ data).lift_bears ?_ fun found => ?_
  · rintro _ ⟨operation, rfl⟩
    exact .log _ (.done rfl)
  · split
    · exact (punctual_refuse _).bears
    · exact bears_reportTask _ _ _ _

theorem bears_provision (requestId instanceId : String) (details : ProvisionDetails)
    (asyncAllowed : Bool) : (provision config requestId instanceId details asyncAllowed).Bears
      (· = .dashboardUrl) slips := by
  refine Bears.within ?_ _
  split
  · exact (bears_provisionLocked config _ details).holding _ _ _
  · exact (punctual_refuse _).bears

theorem bears_redeploy {optional : CallKind → Prop} (way : Redeploy)
    (requestId instanceId : String) (details : UpdateDetails) :
    (redeploy config way requestId instanceId details).Bears optional slips :=
  (punctual_redeployLocked config _ way details).bears.holding _ _ _

theorem bears_update (requestId instanceId : String) (details : UpdateDetails)
    (asyncAllowed : Bool) : (update config requestId instanceId details asyncAllowed).Bears
      (fun _ => False) slips := by
  refine Bears.within ?_ _
  split
  · exact (bears_redeploy config .update requestId instanceId details).then
      (fun _ => (punctual_pure _).bears) fun _ impossible => impossible.elim
  · exact (punctual_refuse _).bears

theorem bears_deprovision (requestId instanceId : String) (details : DeprovisionDetails)
    (asyncAllowed : Bool) : (deprovision config requestId instanceId details asyncAllowed).Bears
      (fun _ => False) (· = .deleteSecrets) := by
  refine Bears.within ?_ _
  split
  · exact (bears_deprovisionLocked config _ details).holding _ _ _
  · exact (punctual_refuse _).bears

theorem bears_lastOperation (requestId instanceId token : String) :
    (lastOperation config requestId instanceId token).Bears Leftover slips := by
  unfold lastOperation
  split
  · exact (punctual_refuse _).bears
  · exact (bears_pollOperation config _ _).within _

end Broker

namespace Request

/-- The calls that a request can do without. -/
inductive Spares : Request → CallKind → Prop where
  | dashboard {requestId instanceId : String} {details : ProvisionDetails} {asyncAllowed : Bool} :
      Spares (provision requestId instanceId details asyncAllowed) .dashboardUrl
  | bind {requestId instanceId bindingId : String} {details : BindDetails} :
      Spares (bind requestId instanceId bindingId details) .resolveSecrets
  | unbind {requestId instanceId bindingId : String} {details : UnbindDetails} :
      Spares (unbind requestId instanceId bindingId details) .resolveSecrets
  | configs {requestId instanceId token : String} :
      Spares (lastOperation requestId instanceId token) .deleteConfigs
  | secrets {requestId instanceId token : String} :
      Spares (lastOperation requestId instanceId token) .deleteSecrets

/-- The removal of the secrets that a missing instance left behind. -/
inductive RemovesSecrets : Request → CallKind → Prop where
  | deprovision {requestId instanceId : String} {details : DeprovisionDetails}
      {asyncAllowed : Bool} :
      RemovesSecrets (deprovision requestId instanceId details asyncAllowed) .deleteSecrets

theorem bears_program (config : BrokerConfig) (request : Request) :
    (request.program config).OnLapse
      (Program.Bears Response.verdict request.Spares request.RemovesSecrets) := by
  have never (claim : CallKind → Prop) (k : CallKind) (impossible : False) : claim k :=
    impossible.elim
  cases request with
  | provision requestId instanceId details asyncAllowed =>
    refine (Broker.bears_provision config requestId instanceId details asyncAllowed).respond
      (fun _ => rfl) ?_ (never _)
    rintro _ rfl
    exact .dashboard
  | update requestId instanceId details asyncAllowed =>
    exact (Broker.bears_update config requestId instanceId details asyncAllowed).respond
      (fun _ => rfl) (never _) (never _)
  | upgrade requestId instanceId details =>
    exact ((Broker.bears_redeploy config .upgrade requestId instanceId details).within _).respond
      (fun _ => rfl) (never _) (never _)
  | recreate requestId instanceId planId =>
    exact ((Broker.bears_redeploy config .recreate requestId instanceId _).within _).respond
      (fun _ => rfl) (never _) (never _)
  | deprovision requestId instanceId details asyncAllowed =>
    refine (Broker.bears_deprovision config requestId instanceId details asyncAllowed).respond
      (fun _ => rfl) (never _) ?_
    rintro _ rfl
    exact .deprovision
  | bind requestId instanceId bindingId details =>
    refine (((Broker.bears_bindLocked config _ bindingId details).holding _ _ _).within _).respond
      (fun _ => rfl) ?_ (never _)
    rintro _ rfl
    exact .bind
  | unbind requestId instanceId bindingId details =>
    refine (((Broker.bears_unbindLocked config _ bindingId).holding _ _ _).within _).respond
      (fun _ => rfl) ?_ (never _)
    rintro _ rfl
    exact .unbind
  | lastOperation requestId instanceId token =>
    refine (Broker.bears_lastOperation config requestId instanceId token).respond
      (fun _ => rfl) ?_ (never _)
    rintro _ (rfl | rfl)
    · exact .configs
    · exact .secrets

/-- The client is told to try again later, or the call is one that the request can do without and,
if nothing else fails, the request succeeds. -/
def BearsLapse (request : Request) (k : CallKind) (after : List Happening) (r : Response) : Prop :=
  (∃ e, r = .refused e ∧ e.isRetryable) ∨
    request.Spares k ∧ ((∀ x ∈ after, x.Succeeded) → ∀ e, r ≠ .refused e)

/-- A request that is cut off at a call, after calls that all succeeded, bears it, unless it removes
the secrets of a missing instance: then its client is told something else. -/
theorem bears_lapse_iff (config : BrokerConfig) (request : Request) {σ : Type}
    (h : Program.Handler σ) (s : σ) {before after : List Happening} {k : CallKind} {c : Call k}
    (course : (request.program config).transcript h s =
      before ++ .answered c (.error k.expired) :: after)
    (earlier : ∀ x ∈ before, x.Succeeded) :
    request.BearsLapse k after ((request.program config).run h s).1 ↔
      ¬ request.RemovesSecrets k := by
  obtain ⟨q, s', borne, ended, rest⟩ := (bears_program config request).run course earlier
  rw [ended]
  cases borne with
  | told asked quits =>
    refine iff_of_true (.inl (Response.verdict_eq_retryable.mp (quits.run h s'))) ?_
    rintro ⟨⟩
    exact asked rfl
  | borne spare reliable =>
    refine iff_of_true (.inr ⟨spare, fun succeeded => ?_⟩) ?_
    · exact Response.verdict_eq_fine.mp (reliable.run (rest ▸ succeeded))
    · rintro ⟨⟩
      cases spare
  | lost slip quits =>
    refine iff_of_false ?_ fun bears => bears slip
    rintro (told | ⟨spare, _⟩)
    · have verdict := (quits.run h s').symm.trans (Response.verdict_eq_retryable.mpr told)
      cases verdict
    · cases slip
      cases spare

end Request

/-- The world with one kind of call cut off. -/
def Program.Handler.cutting {σ : Type} (kind : CallKind) (h : Program.Handler σ) :
    Program.Handler σ :=
  { h with serve := fun {k} span c s => if k = kind then (.error k.expired, s) else h.serve span c s }

namespace Request

/-- A deletion of an instance that is not there. -/
def missingDeletion : Request := .deprovision "r" "i" { serviceId := "s", planId := "p" } true

/-- How it goes in an empty world if one kind of call is cut off. -/
def deletionCourse (kind : CallKind) : List Happening :=
  (missingDeletion.program Broker.bareConfig).transcript
    ((Memory.World.handler none).cutting kind) (Broker.bareWorld none)

/-- How it ends then. -/
def deletionResponse (kind : CallKind) : Response :=
  ((missingDeletion.program Broker.bareConfig).run
    ((Memory.World.handler none).cutting kind) (Broker.bareWorld none)).1

theorem bears_lapse_iff_sample :
    missingDeletion.BearsLapse .deleteConfigs [] (deletionResponse .deleteConfigs) := by
  have course : deletionCourse .deleteConfigs =
      [.answered (.getDeployment "d-i") (.ok none)] ++
        [.answered (.deleteConfigs "d-i") (.error CallKind.deleteConfigs.expired)] := rfl
  refine (bears_lapse_iff Broker.bareConfig missingDeletion _ _ course ?_).mpr ?_
  · intro x member
    rw [List.mem_singleton.mp member]
    exact ⟨none, rfl⟩
  · rintro ⟨⟩

/-- The configuration is removed in time, the removal of the secrets is cut off, and the client is
not told to try again. -/
theorem secrets_lapse_lost :
    deletionCourse .deleteSecrets =
        [.answered (.getDeployment "d-i") (.ok none), .answered (.deleteConfigs "d-i") (.ok ())] ++
          [.answered (.deleteSecrets "d-i") (.error CallKind.deleteSecrets.expired)] ∧
      ¬ missingDeletion.BearsLapse .deleteSecrets [] (deletionResponse .deleteSecrets) := by
  refine ⟨rfl, ?_⟩
  rintro (⟨e, refused, retryable⟩ | ⟨spare, _⟩)
  · cases refused
    cases retryable
  · cases spare

end Request

end ServiceBroker
