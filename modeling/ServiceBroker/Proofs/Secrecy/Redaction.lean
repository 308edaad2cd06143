import ServiceBroker.Proofs.Broker.InStep
import ServiceBroker.Proofs.Memory.Growth

/-! Free text. Failures and tasks carry words that are meant for operators: the reason of a failure,
the name of what was not found, the description and the result of a task. Redaction blanks them and
keeps the rest. Worlds that are the same once they are redacted answer every call alike, and stay
the same. -/
namespace ServiceBroker

namespace AdapterError

/-- What the adapter says for the user is no free text and stays. -/
def redacted : AdapterError → AdapterError
  | alreadyExists => alreadyExists
  | notFound => notFound
  | appGuidMissing => appGuidMissing
  | withMessage message => withMessage message
  | withoutMessage _ => withoutMessage ""
  | notImplemented => notImplemented
  | deadlineExceeded _ => deadlineExceeded ""

@[simp] theorem redacted_redacted (e : AdapterError) : e.redacted.redacted = e.redacted := by
  cases e <;> rfl

end AdapterError

namespace BackendError

def redacted : BackendError → BackendError
  | requestFailed _ => requestFailed ""
  | deadlineExceeded _ => deadlineExceeded ""
  | deploymentNotFound _ => deploymentNotFound ""
  | taskNotFound _ => taskNotFound 0
  | adapter error => adapter error.redacted
  | unexpected _ => unexpected ""

@[simp] theorem redacted_redacted (e : BackendError) : e.redacted.redacted = e.redacted := by
  cases e <;> simp [redacted]

end BackendError

namespace SecretsError

def redacted : SecretsError → SecretsError
  | unavailable _ => unavailable ""
  | unresolvable _ => unresolvable ""

@[simp] theorem redacted_redacted (e : SecretsError) : e.redacted.redacted = e.redacted := by
  cases e <;> rfl

end SecretsError

namespace LifecycleError

def redacted : LifecycleError → LifecycleError
  | noTasks contextId => noTasks contextId
  | unexpectedTasks contextId taskIds => unexpectedTasks contextId taskIds
  | backend error => backend error.redacted

end LifecycleError

namespace BackendTask

/-- A task without the words of the backend. -/
def redacted (t : BackendTask) : BackendTask := { t with description := "", result := "" }

@[simp] theorem redacted_redacted (t : BackendTask) : t.redacted.redacted = t.redacted := rfl

@[simp] theorem redacted_id (t : BackendTask) : t.redacted.id = t.id := rfl

@[simp] theorem redacted_state (t : BackendTask) : t.redacted.state = t.state := rfl

@[simp] theorem redacted_contextId (t : BackendTask) : t.redacted.contextId = t.contextId := rfl

theorem map_redacted_redacted (tasks : List BackendTask) :
    (tasks.map redacted).map redacted = tasks.map redacted := by simp

@[simp] theorem isDone_redacted (t : BackendTask) : t.redacted.isDone = t.isDone := rfl

end BackendTask

/-- A failure of a collaborator without its free text. -/
def Collaborator.redacted : (c : Collaborator) → c.Error → c.Error
  | backend => BackendError.redacted
  | counter => BackendError.redacted
  | adapter => AdapterError.redacted
  | secrets => SecretsError.redacted

@[simp] theorem Collaborator.redacted_redacted (c : Collaborator) (e : c.Error) :
    c.redacted (c.redacted e) = c.redacted e := by
  cases c with
  | backend | counter => exact BackendError.redacted_redacted e
  | adapter => exact AdapterError.redacted_redacted e
  | secrets => exact SecretsError.redacted_redacted e

namespace CallKind

/-- A value that was answered; only tasks have free text. -/
def redactedValue : (k : CallKind) → k.Value → k.Value
  | getTask => BackendTask.redacted
  | getTasksByContext => List.map BackendTask.redacted
  | getTasksInProgress => List.map BackendTask.redacted
  | _ => fun value => value

/-- An answer without free text. -/
def redacted (k : CallKind) (answer : k.Answer) : k.Answer :=
  (answer.map k.redactedValue).mapError k.collaborator.redacted

@[simp] theorem redactedValue_redactedValue (k : CallKind) (value : k.Value) :
    k.redactedValue (k.redactedValue value) = k.redactedValue value := by
  cases k with
  | getTasksByContext | getTasksInProgress => exact BackendTask.map_redacted_redacted value
  | _ => rfl

@[simp] theorem redacted_redacted (k : CallKind) (answer : k.Answer) :
    k.redacted (k.redacted answer) = k.redacted answer := by
  cases answer with
  | ok value => exact congrArg Except.ok (k.redactedValue_redactedValue value)
  | error e => exact congrArg Except.error (k.collaborator.redacted_redacted e)

/-- Answers that differ in free text at most. -/
def SameButText (k : CallKind) (answer answer' : k.Answer) : Prop :=
  k.redacted answer = k.redacted answer'

theorem SameButText.refl (k : CallKind) (answer : k.Answer) : k.SameButText answer answer :=
  Eq.refl (k.redacted answer)

theorem SameButText.outcomes {k : CallKind} {answer answer' : k.Answer}
    (same : k.SameButText answer answer') :
    Outcomes (fun e e' => k.collaborator.redacted e = k.collaborator.redacted e')
      (fun v v' => k.redactedValue v = k.redactedValue v') answer answer' := by
  unfold SameButText redacted at same
  rcases answer with e | v <;> rcases answer' with e' | v'
  · exact .error (Except.error.inj same)
  · cases same
  · cases same
  · exact .ok (Except.ok.inj same)

end CallKind

namespace Memory

/-- A collaborator that fails or not. -/
theorem sameButText_unlessFailed (k : CallKind) (failure : Option k.Failure) (value : k.Value) :
    k.SameButText (unlessFailed (failure.map k.collaborator.redacted) value)
      (unlessFailed failure value) := by
  cases failure with
  | none => rfl
  | some e => exact congrArg Except.error (k.collaborator.redacted_redacted e)

theorem map_redacted_insertTask (task : BackendTask) (tasks : List BackendTask) :
    (insertTask task tasks).map BackendTask.redacted =
      insertTask task.redacted (tasks.map BackendTask.redacted) := by
  induction tasks with
  | nil => rfl
  | cons held rest ih =>
    have same : task.redacted.id = task.id ∧ held.redacted.id = held.id := ⟨rfl, rfl⟩
    rw [List.map_cons, insertTask, insertTask, same.1, same.2]
    split
    · rfl
    · split
      · rfl
      · rw [List.map_cons, ih]

namespace Backend

/-- A backend without free text in its tasks and failures. -/
def redacted (b : Backend) : Backend :=
  { b with
    tasks := b.tasks.map BackendTask.redacted
    failures := fun k => (b.failures k).map BackendError.redacted }

@[simp] theorem redacted_redacted (b : Backend) : b.redacted.redacted = b.redacted := by
  simp [redacted, Function.comp_def]

/-- An answer of the backend without free text. -/
def redactedAnswer {α : Type} (value : α → α) (answer : Except BackendError α) :
    Except BackendError α :=
  (answer.map value).mapError BackendError.redacted

@[simp] theorem redactedAnswer_ok {α : Type} (value : α → α) (a : α) :
    redactedAnswer value (.ok a) = .ok (value a) := rfl

@[simp] theorem redactedAnswer_error {α : Type} (value : α → α) (e : BackendError) :
    redactedAnswer value (.error e) = .error e.redacted := rfl

/-- Free text in the backend does not change what a call does, but for free text. -/
structure Blind {α : Type} (value : α → α) (act : Backend → Except BackendError α × Backend) :
    Prop where
  answer : ∀ b, redactedAnswer value (act b.redacted).1 = redactedAnswer value (act b).1
  after : ∀ b, (act b.redacted).2.redacted = (act b).2.redacted

variable {α : Type} {value : α → α}

theorem blind_unlessFailing (kind : CallKind) {act : Backend → Except BackendError α × Backend}
    (blind : Blind value act) : Blind value fun b => b.unlessFailing kind act := by
  have failures (b : Backend) :
      b.redacted.failures kind = (b.failures kind).map BackendError.redacted := rfl
  constructor
  · intro b
    simp only [unlessFailing, failures]
    cases b.failures kind with
    | none => exact blind.answer b
    | some e => simp
  · intro b
    simp only [unlessFailing, failures]
    cases b.failures kind with
    | none => exact blind.after b
    | some e => simp

theorem redacted_keepTask (b : Backend) (deployment : String) (task : BackendTask) :
    (b.keepTask deployment task).redacted = b.redacted.keepTask deployment task.redacted := by
  rw [keepTask, redacted, map_redacted_insertTask]
  rfl

/-- A submission does not look at free text. -/
theorem blind_submit (deployment contextId description : String) :
    Blind (fun id => id) fun b => (b.submit deployment contextId description).map Except.ok id where
  answer _ := rfl
  after b := by
    simp only [submit, Prod.map, id, redacted_keepTask]
    congr 1
    simp [redacted, Function.comp_def]

/-- Nor does one that takes a deployment away. -/
theorem blind_submitDelete (deployment contextId : String) :
    Blind (fun id => id) fun b => b.submitDelete deployment contextId := by
  refine blind_unlessFailing .submitDelete ⟨fun _ => rfl, fun b => ?_⟩
  exact (blind_submit deployment contextId _).after { b with deployments := _ }

/-- A call that only reads. -/
theorem blind_reads (kind : CallKind) {read : Backend → Except BackendError α}
    (blind : ∀ b, redactedAnswer value (read b.redacted) = redactedAnswer value (read b)) :
    Blind value fun b => b.unlessFailing kind fun b => (read b, b) :=
  blind_unlessFailing kind ⟨blind, redacted_redacted⟩

/-- Reading a task does not look at the words of the tasks. -/
theorem blind_getTask (id : TaskId) : Blind BackendTask.redacted fun b => b.getTask id := by
  refine blind_reads .getTask fun b => ?_
  have task : b.redacted.task? id = (b.task? id).map BackendTask.redacted := by
    simp [task?, redacted, List.find?_map, Function.comp_def]
  rw [task]
  cases b.task? id <;> rfl

/-- Tasks are chosen by what is no free text. -/
theorem tasksOf_redacted (b : Backend) (deployment : String) {p : BackendTask → Bool}
    (blind : ∀ t, p t.redacted = p t) :
    b.redacted.tasksOf deployment p = (b.tasksOf deployment p).map BackendTask.redacted := by
  simp [tasksOf, redacted, List.filter_map, Function.comp_def, blind]

/-- So does choosing tasks. -/
theorem blind_tasksOf (kind : CallKind) (deployment : String) {p : BackendTask → Bool}
    (blind : ∀ t, p t.redacted = p t) :
    Blind (List.map BackendTask.redacted) fun b =>
      b.unlessFailing kind fun b => (.ok (b.tasksOf deployment p), b) := by
  refine blind_reads kind fun b => ?_
  simp [tasksOf_redacted b deployment blind, Function.comp_def]

end Backend

def Counter.redacted (c : Counter) : Counter :=
  { c with failure := c.failure.map BackendError.redacted }

@[simp] theorem Counter.redacted_redacted (c : Counter) : c.redacted.redacted = c.redacted := by
  simp [redacted, Function.comp_def]

def Adapter.redacted (a : Adapter) : Adapter where
  dashboardUrl := CallKind.dashboardUrl.redacted a.dashboardUrl
  binding := CallKind.createBinding.redacted a.binding
  unbinding := CallKind.deleteBinding.redacted a.unbinding

@[simp] theorem Adapter.redacted_redacted (a : Adapter) : a.redacted.redacted = a.redacted := by
  unfold redacted
  congr 1 <;> exact CallKind.redacted_redacted _ _

def SecretStore.redacted (s : SecretStore) : SecretStore :=
  { s with
    resolveFailure := s.resolveFailure.map SecretsError.redacted
    deleteFailure := s.deleteFailure.map SecretsError.redacted }

@[simp] theorem SecretStore.redacted_redacted (s : SecretStore) :
    s.redacted.redacted = s.redacted := by
  simp [redacted, Function.comp_def]

namespace World

/-- A world without the free text of its collaborators and without what was logged. -/
def redacted (w : World) : World :=
  { w with
    backend := w.backend.redacted
    counter := w.counter.redacted
    adapter := w.adapter.redacted
    secrets := w.secrets.redacted
    events := [] }

@[simp] theorem redacted_redacted (w : World) : w.redacted.redacted = w.redacted := by
  simp [redacted]

/-- A call to the backend that does not look at free text. -/
theorem redacted_askBackend {α : Type} {value : α → α}
    {act : Backend → Except BackendError α × Backend} (blind : Backend.Blind value act)
    (w : World) :
    Backend.redactedAnswer value (w.redacted.askBackend act).1 =
        Backend.redactedAnswer value (w.askBackend act).1 ∧
      (w.redacted.askBackend act).2.redacted = (w.askBackend act).2.redacted := by
  refine ⟨blind.answer w.backend, ?_⟩
  simp [askBackend, redacted, blind.after]

/-- A deploy is admitted and carried out alike. -/
theorem redacted_submitDeploy (w : World) (deadline : Option Millis) (request : DeployRequest) :
    CallKind.submitDeploy.SameButText (w.redacted.submitDeploy deadline request).1
        (w.submitDeploy deadline request).1 ∧
      (w.redacted.submitDeploy deadline request).2.redacted =
        (w.submitDeploy deadline request).2.redacted := by
  have failures : w.redacted.backend.failures .submitDeploy =
      (w.backend.failures .submitDeploy).map BackendError.redacted := rfl
  have deployments : w.redacted.backend.hasDeployment = w.backend.hasDeployment := rfl
  have delay : w.redacted.backend.deployDelay = w.backend.deployDelay := rfl
  have now : w.redacted.now = w.now := rfl
  have deployed : (w.backend.redacted.deploy request).2.redacted =
      (w.backend.deploy request).2.redacted :=
    (Backend.blind_submit ..).after (w.backend.addDeployment _ _)
  simp only [submitDeploy, Backend.admitDeploy, failures, deployments, delay, now]
  cases w.backend.failures .submitDeploy with
  | some e =>
    exact ⟨congrArg Except.error e.redacted_redacted, w.redacted_redacted⟩
  | none =>
    simp only [Option.map_none]
    by_cases missing : request.kind ≠ .create ∧ !w.backend.hasDeployment request.deployment
    · simp only [if_pos missing]
      exact ⟨rfl, w.redacted_redacted⟩
    · simp only [if_neg missing]
      cases (wait deadline w.now (w.backend.deployDelay.getD 0)).1 with
      | true => exact ⟨rfl, by simp [redacted, deployed]⟩
      | false => exact ⟨rfl, by simp [redacted]⟩

/-- Nothing that a call does depends on free text. -/
theorem redacted_serve (w : World) (deadline : Option Millis) {k : CallKind} (c : Call k) :
    k.SameButText (serve deadline c w.redacted).1 (serve deadline c w).1 ∧
      (serve deadline c w.redacted).2.redacted = (serve deadline c w).2.redacted := by
  let asked : World := { w with calls := w.calls ++ [⟨k, c⟩] }
  cases c with
  | submitDeploy request => exact asked.redacted_submitDeploy deadline request
  | submitErrand deployment errand contextId =>
    exact redacted_askBackend (Backend.blind_unlessFailing .submitErrand
      (Backend.blind_submit deployment contextId _)) asked
  | submitDelete deployment contextId force =>
    exact redacted_askBackend (Backend.blind_submitDelete deployment contextId) asked
  | submitRecreate deployment contextId =>
    exact redacted_askBackend (Backend.blind_unlessFailing .submitRecreate
      (Backend.blind_submit deployment contextId _)) asked
  | getTask id => exact redacted_askBackend (Backend.blind_getTask id) asked
  | getTasksByContext deployment contextId =>
    exact redacted_askBackend
      (Backend.blind_tasksOf .getTasksByContext deployment fun _ => rfl) asked
  | getTasksInProgress deployment =>
    exact redacted_askBackend
      (Backend.blind_tasksOf .getTasksInProgress deployment fun _ => rfl) asked
  | getDeployment deployment =>
    exact redacted_askBackend (Backend.blind_reads .getDeployment fun _ => rfl) asked
  | getVms deployment =>
    exact redacted_askBackend (Backend.blind_reads .getVms fun _ => rfl) asked
  | deleteConfigs deployment =>
    exact redacted_askBackend (Backend.blind_reads .deleteConfigs fun _ => rfl) asked
  | countPlan | countOffering | resolveSecrets | deleteSecrets =>
    exact ⟨sameButText_unlessFailed _ _ _, asked.redacted_redacted⟩
  | dashboardUrl | createBinding | deleteBinding =>
    exact ⟨CallKind.redacted_redacted _ _, asked.redacted_redacted⟩

/-- Worlds that are the same but for free text answer alike and stay the same. -/
theorem simulates_redacted (deadline : Option Millis) :
    (handler deadline).Simulates CallKind.SameButText fun w w' => w.redacted = w'.redacted where
  serves c _ _ w w' same := by
    obtain ⟨answer, after⟩ := w.redacted_serve deadline c
    obtain ⟨answer', after'⟩ := w'.redacted_serve deadline c
    rw [same] at answer after
    exact ⟨answer.symm.trans answer', after.symm.trans after'⟩
  notes _ _ _ same := ⟨same, same⟩
  issues {w w'} same := by
    have ids : w.ids w.issued = w'.ids w'.issued := congrArg (fun v => v.ids v.issued) same
    exact ⟨ids, congrArg (fun v => { v with issued := v.issued + 1 }) same⟩
  acquires kind id w w' same := by
    have locks : w.locks = w'.locks := congrArg (fun v => v.locks) same
    simp only [handler, acquire, locks]
    cases w'.locks.acquire? kind id with
    | none => exact ⟨rfl, same⟩
    | some held => exact ⟨rfl, congrArg (fun v => { v with locks := held }) same⟩
  releases kind id _ _ same :=
    congrArg (fun v => { v with locks := v.locks.release kind id }) same

end World

end Memory

end ServiceBroker
