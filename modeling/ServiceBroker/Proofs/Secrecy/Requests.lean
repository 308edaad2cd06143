import ServiceBroker.Proofs.Broker.Requests
import ServiceBroker.Proofs.Secrecy.Redaction

/-! What callers are shown. No request lets free text of the collaborators through: in two worlds
that are the same once they are redacted, a request makes the same calls and gets the same answer,
or an error with the same face. -/
namespace ServiceBroker

namespace BrokerError

/-- What a caller is shown of an error. -/
structure Face where
  message : String
  category : ErrorCategory
  isRetryable : Bool
  sentinel? : Option Sentinel
  about? : Option Correlation
  deriving DecidableEq

/-- The correlation data that an error carries. -/
def about? : BrokerError → Option Correlation
  | generic about _ => some about
  | _ => none

def face (e : BrokerError) : Face where
  message := e.message
  category := e.category
  isRetryable := e.isRetryable
  sentinel? := e.sentinel?
  about? := e.about?

/-- Errors that look the same to a caller. -/
def SameFace (e e' : BrokerError) : Prop := e.face = e'.face

theorem SameFace.refl (e : BrokerError) : e.SameFace e := Eq.refl e.face

end BrokerError

namespace Refusal

/-- The words of the adapter do not show, but for those that it has for the user. -/
theorem face_ofAdapter (about : Correlation) (subject : AdapterSubject) (e : AdapterError) :
    (ofAdapter about subject e.redacted).error.face = (ofAdapter about subject e).error.face := by
  cases e <;> cases subject <;> rfl

theorem face_ofBackend (about : Correlation) (e : BackendError) :
    (ofBackend about e.redacted).error.face = (ofBackend about e).error.face := by
  cases e with
  | adapter e => exact face_ofAdapter about .serviceInstance e
  | _ => rfl

theorem face_ofLifecycle (about : Correlation) (e : LifecycleError) :
    (ofLifecycle about e.redacted).error.face = (ofLifecycle about e).error.face := by
  cases e with
  | backend e => exact face_ofBackend about e
  | _ => rfl

/-- If a way to turn a failure into a refusal does not show its words, failures that differ in words
at most look the same. -/
theorem sameFace_of_blind {ε : Type} {redacted : ε → ε} {treat : ε → Refusal}
    (blind : ∀ e, (treat (redacted e)).error.face = (treat e).error.face) {e e' : ε}
    (same : redacted e = redacted e') : (treat e).error.SameFace (treat e').error := by
  have shown : (treat (redacted e')).error.face = (treat e).error.face := same ▸ blind e
  exact shown.symm.trans (blind e')

end Refusal

namespace Procedure

variable {α β : Type}

/-- What a procedure asks for and what it shows its caller does not depend on free text. -/
def Discreet (body : Procedure BrokerError α) : Prop :=
  InStep CallKind.SameButText BrokerError.SameFace Eq body body

theorem discreet_pure (a : α) : (pure a : Procedure BrokerError α).Discreet := inStep_pure rfl

theorem discreet_note (event : Log.Event) : (note event : Procedure BrokerError Unit).Discreet :=
  inStep_note event event

theorem discreet_fresh : (fresh : Procedure BrokerError String).Discreet := inStep_fresh

theorem discreet_refuse (r : Refusal) : (refuse r : Procedure BrokerError α).Discreet :=
  inStep_refuse (.refl r.error)

theorem Discreet.bind {body : Procedure BrokerError α} (discreet : body.Discreet)
    {next : α → Procedure BrokerError β} (rest : ∀ a, (next a).Discreet) :
    (body >>= next).Discreet := by
  refine InStep.bind discreet fun a b same => ?_
  subst same
  exact rest a

/-- A part that may be left out. -/
theorem Discreet.bind_if {c : Prop} [Decidable c] {body : Procedure BrokerError Unit}
    (discreet : body.Discreet) {next : Unit → Procedure BrokerError β} (rest : (next ()).Discreet) :
    (if c then body >>= next else next ()).Discreet := by
  split
  · exact discreet.bind fun _ => rest
  · exact rest

/-- A call that is answered without free text, unless it fails. -/
theorem discreet_ask {k : CallKind} (c : Call k)
    {onFailure : k.Failure → Procedure BrokerError k.Value}
    (plain : ∀ value, k.redactedValue value = value)
    (fails : ∀ e e', k.collaborator.redacted e = k.collaborator.redacted e' →
      InStep CallKind.SameButText BrokerError.SameFace Eq (onFailure e) (onFailure e')) :
    (ask c onFailure).Discreet := by
  refine inStep_ask c (fun answer answer' same => ?_) fails
  have outcomes := same.outcomes
  simpa only [plain] using outcomes

theorem discreet_holding (about : Correlation) (kind : LockKind) (id : String)
    {body : Procedure BrokerError α} (discreet : body.Discreet) :
    (holding about kind id body).Discreet :=
  inStep_holding about kind id discreet (.refl _)

theorem Discreet.within {body : Procedure BrokerError α} (discreet : body.Discreet)
    (span : Log.Span) : (within span body).Discreet :=
  InStep.within discreet span span

end Procedure

namespace Steps

open Procedure

variable (config : BrokerConfig) (about : Correlation)

theorem inStep_failed {α : Type} {values : α → α → Prop} (e e' : BackendError)
    (same : e.redacted = e'.redacted) :
    InStep CallKind.SameButText BrokerError.SameFace values (failed about e) (failed about e') :=
  inStep_refuse (Refusal.sameFace_of_blind (Refusal.face_ofBackend about) same)

theorem discreet_findPlan (planId : String) : (findPlan config about planId).Discreet := by
  unfold findPlan
  split
  · exact discreet_pure _
  · exact discreet_refuse _

theorem discreet_findDeployment (deployment : String) :
    (findDeployment about deployment).Discreet :=
  discreet_ask (.getDeployment deployment) (fun _ => rfl) (inStep_failed about)

/-- Whether there are unfinished tasks is no free text, whatever words they have. -/
theorem discreet_requireIdle (deployment : String) : (requireIdle about deployment).Discreet := by
  refine InStep.bind (inStep_ask (.getTasksInProgress deployment)
    (fun _ _ same => CallKind.SameButText.outcomes same) (inStep_failed about)) ?_
  intro (tasks : List BackendTask) (tasks' : List BackendTask)
    (same : tasks.map BackendTask.redacted = tasks'.map BackendTask.redacted)
  have isEmpty : tasks.isEmpty = tasks'.isEmpty := by simpa using congrArg List.isEmpty same
  rw [isEmpty]
  split
  · exact discreet_pure _
  · exact discreet_refuse _

theorem discreet_countInstances (plan : Plan) : (countInstances config about plan).Discreet := by
  unfold countInstances
  split
  · exact (discreet_ask .countOffering (fun _ => rfl) (inStep_failed about)).bind
      fun _ => discreet_pure _
  · split
    · exact (discreet_ask (.countPlan plan.id) (fun _ => rfl) (inStep_failed about)).bind
        fun _ => discreet_pure _
    · exact discreet_pure _

theorem discreet_requireQuota (plan : Plan) : (requireQuota config about plan).Discreet := by
  refine (discreet_countInstances config about plan).bind fun counts => ?_
  split
  · exact discreet_pure _
  · split
    · exact discreet_pure _
    · exact discreet_refuse _

theorem discreet_deployContext (plan : Plan) : (deployContext plan).Discreet := by
  unfold deployContext
  split
  · exact discreet_fresh
  · exact discreet_pure _

/-- The words of the credential store go to the operator alone. -/
theorem discreet_cleanUp (deployment : String) : (cleanUp about deployment).Discreet := by
  refine (discreet_ask (.deleteConfigs deployment) (fun _ => rfl) (inStep_failed about)).bind
    fun _ => ?_
  refine Discreet.bind (discreet_ask (.deleteSecrets deployment) (fun _ => rfl) ?_) fun _ =>
    discreet_note _
  intro e e' _
  exact inStep_refuse (Eq.refl (BrokerError.face (.generic about "")))

end Steps

namespace Lifecycle

open Procedure

/-- What a step of an operation asks for does not depend on free text, and what it finds only as far
as the values may differ. -/
def Discreet {α : Type} (values : α → α → Prop) (body : Procedure LifecycleError α) : Prop :=
  InStep CallKind.SameButText (fun e e' => e.redacted = e'.redacted) values body body

/-- Tasks that are the same but for their words. -/
def SameTask (t t' : BackendTask) : Prop := t.redacted = t'.redacted

theorem SameTask.id {t t' : BackendTask} (same : SameTask t t') : t.id = t'.id := by
  have fields : t.redacted.id = t'.redacted.id := congrArg BackendTask.id same
  exact fields

theorem SameTask.state {t t' : BackendTask} (same : SameTask t t') : t.state = t'.state := by
  have fields : t.redacted.state = t'.redacted.state := congrArg BackendTask.state same
  exact fields

theorem SameTask.isDone {t t' : BackendTask} (same : SameTask t t') : t.isDone = t'.isDone := by
  have fields : t.redacted.isDone = t'.redacted.isDone := congrArg BackendTask.isDone same
  exact fields

theorem inStep_failed {α : Type} {values : α → α → Prop} (e e' : BackendError)
    (same : e.redacted = e'.redacted) :
    InStep CallKind.SameButText (fun e e' => e.redacted = e'.redacted) values
      (failed e : Procedure LifecycleError α) (failed e') :=
  .done (.error (congrArg LifecycleError.backend same))

theorem discreet_fetch (id : TaskId) : Discreet SameTask (fetch id) :=
  inStep_ask (.getTask id) (fun _ _ same => CallKind.SameButText.outcomes same) inStep_failed

theorem discreet_history (deployment contextId : String) :
    Discreet (List.Forall₂ SameTask) (history deployment contextId) := by
  refine InStep.bind (inStep_ask (.getTasksByContext deployment contextId)
    (fun _ _ same => CallKind.SameButText.outcomes same) inStep_failed) ?_
  intro (tasks : List BackendTask) (tasks' : List BackendTask)
    (same : tasks.map BackendTask.redacted = tasks'.map BackendTask.redacted)
  have alike : List.Forall₂ SameTask tasks tasks' := by
    have listed : List.Forall₂ Eq (tasks.map BackendTask.redacted)
        (tasks'.map BackendTask.redacted) := by
      rw [List.forall₂_eq_eq_eq]
      exact same
    rw [List.forall₂_map_left_iff, List.forall₂_map_right_iff] at listed
    exact listed
  cases alike with
  | nil => exact .done (.error rfl)
  | cons first rest => exact inStep_pure (.cons first rest)

theorem discreet_postDeployErrand (offering : Offering) (data : OperationData) :
    Discreet Eq (postDeployErrand? offering data) := by
  unfold postDeployErrand?
  split
  · exact inStep_pure rfl
  · split
    · exact InStep.bind (inStep_note _ _) fun _ _ _ => inStep_pure rfl
    · split
      · exact InStep.bind (inStep_note _ _) fun _ _ _ => inStep_pure rfl
      · split
        · exact inStep_pure rfl
        · exact InStep.bind (inStep_note _ _) fun _ _ _ => inStep_pure rfl

theorem discreet_runErrand (deployment : String) (errand : Errand) (contextId : String) :
    Discreet SameTask (runErrand deployment errand contextId) := by
  refine InStep.bind (inStep_ask (.submitErrand deployment errand contextId)
    (fun _ _ same => CallKind.SameButText.outcomes same) inStep_failed) ?_
  rintro id _ ⟨⟩
  exact discreet_fetch id

/-- The tasks of a deploy say by their number and states what comes next. -/
theorem discreet_advanceDeploy (offering : Offering) (deployment : String) (data : OperationData) :
    Discreet SameTask (advanceDeploy offering deployment data) := by
  refine InStep.bind (discreet_history deployment data.contextId) fun tasks tasks' alike => ?_
  have ids : tasks.map BackendTask.id = tasks'.map BackendTask.id := by
    rw [← List.forall₂_eq_eq_eq, List.forall₂_map_left_iff, List.forall₂_map_right_iff]
    exact alike.imp fun _ _ same => same.id
  cases alike with
  | nil => exact .done (.error rfl)
  | @cons deploy deploy' _ _ same rest =>
    cases rest with
    | nil =>
      simp only [same.isDone]
      by_cases finished : deploy'.isDone
      · simp only [if_pos finished]
        refine InStep.bind (discreet_postDeployErrand offering data) ?_
        rintro (_ | errand) _ ⟨⟩
        · exact inStep_pure same
        · exact InStep.bind (inStep_note _ _) fun _ _ _ => discreet_runErrand ..
      · simp only [if_neg finished]
        exact inStep_pure same
    | cons same' rest =>
      cases rest with
      | nil => exact inStep_pure same'
      | cons => exact .done (.error (congrArg (LifecycleError.unexpectedTasks _) ids))

theorem discreet_advanceDelete (deployment : String) (data : OperationData) :
    Discreet SameTask (advanceDelete deployment data) := by
  refine InStep.bind (discreet_history deployment data.contextId) fun tasks tasks' alike => ?_
  have length : tasks.length = tasks'.length := alike.length_eq
  cases last : tasks.getLast? with
  | none =>
    have none' : tasks'.getLast? = none := by
      rw [List.getLast?_eq_none_iff] at last ⊢
      exact List.length_eq_zero_iff.mp (length ▸ List.length_eq_zero_iff.mpr last)
    simp only [none']
    exact .done (.error rfl)
  | some latest =>
    obtain ⟨latest', last', same⟩ := (Grown.of_forall₂ alike).getLast? length last
    simp only [last', same.isDone, length]
    by_cases finished : latest'.isDone
    · simp only [if_pos finished]
      by_cases all : tasks'.length = data.effectiveErrands.length
      · simp only [if_pos all]
        refine InStep.bind (inStep_note _ _) fun _ _ _ => ?_
        refine InStep.bind (inStep_ask (.submitDelete deployment data.contextId false)
          (fun _ _ same => CallKind.SameButText.outcomes same) inStep_failed) ?_
        rintro id _ ⟨⟩
        exact discreet_fetch id
      · simp only [if_neg all]
        cases data.effectiveErrands[tasks'.length]? with
        | none => exact inStep_pure same
        | some next => exact InStep.bind (inStep_note _ _) fun _ _ _ => discreet_runErrand ..
    · simp only [if_neg finished]
      exact inStep_pure same

/-- However an operation stands, its step is taken without a look at free text. -/
theorem discreet_currentTask (offering : Offering) (deployment : String) (data : OperationData) :
    Discreet SameTask (currentTask offering deployment data) := by
  unfold currentTask
  split
  · exact discreet_fetch _
  · split
    · exact discreet_advanceDeploy ..
    · split
      · exact discreet_advanceDelete ..
      · exact discreet_fetch _

end Lifecycle

namespace Broker

open Procedure Steps

variable (config : BrokerConfig) (about : Correlation)

/-- Whatever the adapter says about a dashboard, it says it to the operator. -/
theorem discreet_dashboardUrl (plan : Plan) (manifest : String) :
    (dashboardUrl about plan manifest).Discreet := by
  refine InStep.bind (inStep_attempt (.dashboardUrl about.instanceId plan manifest)) ?_
  intro answer answer' same
  have ended : Program.InStep CallKind.SameButText (Outcomes BrokerError.SameFace Eq)
      (.done (.ok "")) (.done (.ok "")) := .done (.ok rfl)
  match answer, answer', same.outcomes with
  | .ok url, .ok _, .ok known => exact inStep_pure known
  | .error (e : AdapterError), .error (e' : AdapterError), _ =>
    change InStep _ _ _ (if e = AdapterError.notImplemented then _ else _)
      (if e' = AdapterError.notImplemented then _ else _)
    by_cases left : e = AdapterError.notImplemented <;>
      by_cases right : e' = AdapterError.notImplemented
    · rw [if_pos left, if_pos right]
      exact ended
    · rw [if_pos left, if_neg right]
      exact .logRight _ ended
    · rw [if_neg left, if_pos right]
      exact .logLeft _ ended
    · rw [if_neg left, if_neg right]
      exact .logLeft _ (.logRight _ ended)

theorem discreet_provisionLocked (details : ProvisionDetails) :
    (provisionLocked config about details).Discreet := by
  refine (discreet_findPlan ..).bind fun plan => ?_
  refine (discreet_findDeployment ..).bind fun deployment => ?_
  split
  · exact discreet_refuse _
  · refine (discreet_requireQuota ..).bind fun _ => ?_
    refine (discreet_deployContext ..).bind fun contextId => ?_
    refine Discreet.bind
      (discreet_ask (.submitDeploy _) (fun _ => rfl) (inStep_failed about)) fun outcome => ?_
    refine (discreet_note _).bind fun _ => ?_
    refine (discreet_dashboardUrl ..).bind fun url => ?_
    exact (discreet_note _).bind fun _ => discreet_pure _

theorem discreet_submitRedeploy (way : Redeploy) (deployment contextId : String) (plan : Plan)
    (details : UpdateDetails) :
    (submitRedeploy way about deployment contextId plan details).Discreet := by
  cases way with
  | recreate =>
    exact discreet_ask (.submitRecreate deployment contextId) (fun _ => rfl) (inStep_failed about)
  | update | upgrade =>
    exact (discreet_ask (.submitDeploy _) (fun _ => rfl) (inStep_failed about)).bind
      fun _ => discreet_pure _

theorem discreet_redeploy (way : Redeploy) (requestId instanceId : String)
    (details : UpdateDetails) : (redeploy config way requestId instanceId details).Discreet := by
  refine discreet_holding _ _ _ ?_
  refine (discreet_findPlan ..).bind fun plan => ?_
  refine (discreet_findDeployment ..).bind fun deployment => ?_
  split
  · exact discreet_refuse _
  · refine (discreet_requireIdle ..).bind fun _ => ?_
    refine Discreet.bind_if (discreet_requireQuota ..) ?_
    refine (discreet_deployContext ..).bind fun contextId => ?_
    refine (discreet_submitRedeploy ..).bind fun taskId => ?_
    refine (discreet_note _).bind fun _ => ?_
    exact (discreet_note _).bind fun _ => discreet_pure _

theorem discreet_startDelete (deployment : String) (plan : Plan) (force : Bool) :
    (startDelete about deployment plan force).Discreet := by
  have deletes (forced : Bool) : (submitDelete about deployment forced).Discreet :=
    (discreet_ask (.submitDelete deployment "" forced) (fun _ => rfl) (inStep_failed about)).bind
      fun _ => (discreet_note _).bind fun _ => discreet_pure _
  have errand (first : Errand) : (submitFirstErrand about deployment plan first).Discreet := by
    refine discreet_fresh.bind fun contextId => ?_
    refine Discreet.bind (discreet_ask (.submitErrand deployment first contextId) (fun _ => rfl)
      (inStep_failed about)) fun taskId => ?_
    exact (discreet_note _).bind fun _ => discreet_pure _
  unfold startDelete
  split
  · exact (deletes true).bind fun _ => discreet_pure _
  · split
    · exact errand _
    · exact (deletes false).bind fun _ => discreet_pure _

theorem discreet_deprovisionLocked (details : DeprovisionDetails) :
    (deprovisionLocked config about details).Discreet := by
  refine (discreet_findDeployment ..).bind fun deployment => ?_
  split
  · exact (discreet_cleanUp ..).bind fun _ => discreet_refuse _
  · refine (discreet_requireIdle ..).bind fun _ => ?_
    refine (discreet_findPlan ..).bind fun plan => ?_
    refine (discreet_startDelete ..).bind fun data => ?_
    exact (discreet_note _).bind fun _ => discreet_pure _

/-- Secrets that cannot be resolved are left out, whatever the reason. -/
theorem discreet_resolveSecrets (deployment manifest : String) :
    (resolveSecrets about deployment manifest).Discreet := by
  refine InStep.bind (inStep_attempt (.resolveSecrets manifest)) ?_
  intro answer answer' same
  match answer, answer', same.outcomes with
  | .ok secrets, .ok _, .ok known => exact inStep_pure known
  | .error _, .error _, _ => exact InStep.bind (inStep_note _ _) fun _ _ _ => inStep_pure rfl

theorem discreet_bindingRequest (bindingId : String) (parameters : Parameters) :
    (bindingRequest config about bindingId parameters).Discreet := by
  refine (discreet_findDeployment ..).bind fun found => ?_
  cases found with
  | none => exact discreet_refuse _
  | some deployment =>
    refine Discreet.bind
      (discreet_ask (.getVms _) (fun _ => rfl) (inStep_failed about)) fun vms => ?_
    exact (discreet_resolveSecrets ..).bind fun _ => discreet_pure _

theorem inStep_adapterFailed {α : Type} {values : α → α → Prop} (e e' : AdapterError)
    (same : e.redacted = e'.redacted) : InStep CallKind.SameButText BrokerError.SameFace values
      (adapterFailed about e) (adapterFailed about e') :=
  inStep_refuse (Refusal.sameFace_of_blind (Refusal.face_ofAdapter about .binding) same)

theorem discreet_bindLocked (bindingId : String) (details : BindDetails) :
    (bindLocked config about bindingId details).Discreet := by
  refine (discreet_bindingRequest ..).bind fun request => ?_
  refine Discreet.bind (discreet_ask (.createBinding request) (fun _ => rfl)
    (inStep_adapterFailed about)) fun _ => ?_
  refine (discreet_note _).bind fun _ => ?_
  exact (discreet_note _).bind fun _ => discreet_pure _

theorem discreet_unbindLocked (bindingId : String) :
    (unbindLocked config about bindingId).Discreet := by
  refine (discreet_bindingRequest ..).bind fun request => ?_
  refine Discreet.bind (discreet_ask (.deleteBinding request) (fun _ => rfl)
    (inStep_adapterFailed about)) fun _ => ?_
  exact (discreet_note _).bind fun _ => discreet_note _

/-- Failures of the clean-up stay inside. -/
theorem discreet_cleanUpAfterDelete (deployment : String) :
    (cleanUpAfterDelete about deployment).Discreet := by
  refine InStep.bind (inStep_lift (discreet_cleanUp about deployment)) ?_
  rintro _ _ (⟨⟨⟩⟩ | _)
  · exact discreet_pure ()
  · exact inStep_note _ _

/-- A poll shows the state of a task and not its words. -/
theorem inStep_reportTask (deployment : String) (kind : OperationKind) {task task' : BackendTask}
    (same : Lifecycle.SameTask task task') :
    InStep CallKind.SameButText BrokerError.SameFace Eq (reportTask about deployment kind task)
      (reportTask about deployment kind task') := by
  unfold reportTask
  rw [same.state]
  cases task'.state.outcome with
  | incomplete => exact inStep_pure rfl
  | succeeded =>
    rw [same.id]
    exact Discreet.bind_if (discreet_cleanUpAfterDelete about deployment)
      ((discreet_note _).bind fun _ => discreet_pure _)
  | failed => exact InStep.bind (inStep_note _ _) fun _ _ _ => inStep_pure rfl

theorem discreet_pollOperation (data : OperationData) :
    (pollOperation config about data).Discreet := by
  refine InStep.bind (inStep_lift (Lifecycle.discreet_currentTask ..)) ?_
  rintro _ _ (⟨same⟩ | ⟨same⟩)
  · simp only [same.id]
    exact inStep_reportTask _ _ _ same
  · exact inStep_refuse (Refusal.sameFace_of_blind (Refusal.face_ofLifecycle about) same)

end Broker

/-- What a caller is shown of a response: all of it, but of an error only its face. -/
def Response.shown : Response → Except BrokerError.Face Response
  | .refused e => .error e.face
  | r => .ok r

open Procedure in
theorem Procedure.Discreet.respond {α : Type} {body : Procedure BrokerError α}
    (discreet : body.Discreet) (answer : α → Response) :
    Program.InStep CallKind.SameButText (fun r r' => r.shown = r'.shown) (body.respond answer)
      (body.respond answer) := by
  refine Program.InStep.bind discreet ?_
  rintro _ _ (⟨⟨⟩⟩ | ⟨same⟩)
  · exact .done rfl
  · exact .done (congrArg Except.error same)

namespace Request

/-- Every request is discreet. -/
theorem inStep_program (config : BrokerConfig) (request : Request) :
    Program.InStep CallKind.SameButText (fun r r' => r.shown = r'.shown) (request.program config)
      (request.program config) := by
  cases request with
  | provision requestId instanceId details asyncAllowed =>
    refine Procedure.Discreet.respond (Procedure.Discreet.within ?_ _) _
    split
    · exact Procedure.discreet_holding _ _ _ (Broker.discreet_provisionLocked ..)
    · exact Procedure.discreet_refuse _
  | update requestId instanceId details asyncAllowed =>
    refine Procedure.Discreet.respond (Procedure.Discreet.within ?_ _) _
    split
    · exact (Broker.discreet_redeploy ..).bind fun _ => Procedure.discreet_pure _
    · exact Procedure.discreet_refuse _
  | upgrade requestId instanceId details =>
    exact Procedure.Discreet.respond ((Broker.discreet_redeploy ..).within _) _
  | recreate requestId instanceId planId =>
    exact Procedure.Discreet.respond ((Broker.discreet_redeploy ..).within _) _
  | deprovision requestId instanceId details asyncAllowed =>
    refine Procedure.Discreet.respond (Procedure.Discreet.within ?_ _) _
    split
    · exact Procedure.discreet_holding _ _ _ (Broker.discreet_deprovisionLocked ..)
    · exact Procedure.discreet_refuse _
  | bind requestId instanceId bindingId details =>
    exact Procedure.Discreet.respond (Procedure.Discreet.within
      (Procedure.discreet_holding _ _ _ (Broker.discreet_bindLocked ..)) _) _
  | unbind requestId instanceId bindingId details =>
    exact Procedure.Discreet.respond (Procedure.Discreet.within
      (Procedure.discreet_holding _ _ _ (Broker.discreet_unbindLocked ..)) _) _
  | lastOperation requestId instanceId token =>
    refine Procedure.Discreet.respond ?_ _
    unfold Broker.lastOperation
    split
    · exact Procedure.discreet_refuse _
    · exact Procedure.Discreet.within (Broker.discreet_pollOperation ..) _

/-- Free text never reaches a caller. In worlds that differ in the words of failures and tasks at
most, a request is answered the same, or turned down with the same message, category, sentinel and
correlation data and alike as to whether to try again. The worlds after it again differ in words at
most. -/
theorem shown_eq_of_redacted_eq (config : BrokerConfig) (request : Request)
    (deadline : Option Millis) {w w' : Memory.World} (same : w.redacted = w'.redacted) :
    ((request.program config).run (Memory.World.handler deadline) w).1.shown =
        ((request.program config).run (Memory.World.handler deadline) w').1.shown ∧
      ((request.program config).run (Memory.World.handler deadline) w).2.redacted =
        ((request.program config).run (Memory.World.handler deadline) w').2.redacted :=
  (request.inStep_program config).run (Memory.World.simulates_redacted deadline) same

/-- A world in which a task and the credential store have failed, and the words about it. -/
def failedWorld (words : String) : Memory.World where
  backend :=
    { tasks := [{ id := 100, state := .error, description := words, result := words }]
      owners := fun _ => some "i"
      failures := fun _ => some (.unexpected words) }
  secrets := { deleteFailure := some (.unavailable words) }
  ids := Nat.repr

/-- Why the backend did not look up the deployment is not shown. -/
theorem shown_eq_of_redacted_eq_failedWorld :
    (failedWorld "10.0.0.5: connection refused").redacted = (failedWorld "disk full").redacted ∧
      (((deprovision "r" "i" { serviceId := "s", planId := "p", force := false } true).program
          { offering := { id := "s", name := "n", plans := [] } }).run (Memory.World.handler none)
          (failedWorld "10.0.0.5: connection refused")).1.shown =
        (((deprovision "r" "i" { serviceId := "s", planId := "p", force := false } true).program
          { offering := { id := "s", name := "n", plans := [] } }).run (Memory.World.handler none)
          (failedWorld "disk full")).1.shown :=
  ⟨rfl, (shown_eq_of_redacted_eq _ _ none rfl).1⟩

end Request

end ServiceBroker
