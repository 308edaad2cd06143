import ServiceBroker.Proofs.Memory.Account
import ServiceBroker.Proofs.Memory.Reachable

/-! How a backend numbers its tasks. Whatever was added to it, scripted or asked of it before, a
submission that is answered gets a number that no task has, and its task stands behind all others of
its context. Nothing else about the tasks changes, and a call that fails leaves no trace but its
record. Numbers are words, so this is so until the words run out. -/
namespace ServiceBroker.Memory

namespace Backend

variable {b before after : Backend}

/-- Every task is found under its number and works on a deployment, and the number will not be given
out again. -/
def Numbered (b : Backend) : Prop :=
  ∀ task ∈ b.tasks, b.task? task.id = some task ∧
    (∃ deployment, b.owners task.id = some deployment) ∧ task.id < b.nextTaskId

/-- A submission for a deployment and a context was given a task, and all other tasks are what they
were. -/
structure Gained (before : Backend) (deployment contextId : String) (id : TaskId)
    (after : Backend) : Prop where
  submitted : firstSubmittedId ≤ id
  above : ∀ task ∈ before.tasks, task.id < id
  next : after.nextTaskId = id + 1
  others : ∀ other, other ≠ id →
    after.task? other = before.task? other ∧ after.owners other = before.owners other
  owner : after.owners id = some deployment
  /-- The new task stands last among those of its context. -/
  last : ∃ task, after.task? id = some task ∧ task.id = id ∧ task.contextId = contextId ∧
    ∀ older, (before.getTasksByContext deployment contextId).1 = .ok older →
      (after.getTasksByContext deployment contextId).1 = .ok (older ++ [task])

/-- The tasks of a deployment that have not come to their end, each once. -/
def Unfinished (b : Backend) (deployment : String) (tasks : List BackendTask) : Prop :=
  tasks.Pairwise (fun s t => s.id < t.id) ∧
    ∀ task, task ∈ tasks ↔ b.task? task.id = some task ∧ b.owners task.id = some deployment ∧
      task.state.isTerminal = false

/-! ### Tasks and their numbers -/

theorem Sound.task?_eq_some_iff (sound : b.Sound) {id : TaskId} {task : BackendTask} :
    b.task? id = some task ↔ task ∈ b.tasks ∧ task.id = id := by
  unfold task?
  constructor
  · intro found
    exact ⟨List.mem_of_find?_eq_some found, by simpa using List.find?_some found⟩
  · rintro ⟨held, rfl⟩
    cases found : b.tasks.find? fun t => t.id == task.id with
    | none =>
      have missing := List.find?_eq_none.mp found task held
      simp at missing
    | some other =>
      have same : other.id = task.id := by simpa using List.find?_some found
      rw [sound.eq_of_id_eq (List.mem_of_find?_eq_some found) held same]

theorem Sound.numbered (sound : b.Sound) : b.Numbered := fun task held =>
  ⟨sound.task?_eq_some_iff.mpr ⟨held, rfl⟩, sound.owned task held, sound.below task held⟩

theorem Sound.mem_tasksOf_iff (sound : b.Sound) {deployment : String} {p : BackendTask → Bool}
    {task : BackendTask} : task ∈ b.tasksOf deployment p ↔
      b.task? task.id = some task ∧ b.owners task.id = some deployment ∧ p task = true := by
  rw [sound.task?_eq_some_iff]
  simp only [tasksOf, List.mem_filter, Bool.and_eq_true, beq_iff_eq, and_true]
  tauto

theorem Sound.pairwise_tasksOf (sound : b.Sound) (deployment : String) (p : BackendTask → Bool) :
    (b.tasksOf deployment p).Pairwise fun s t => s.id < t.id :=
  sound.sorted.filter _

/-- A call that lists tasks lists them unless it was told to fail. -/
theorem listing_eq_ok_iff {kind : CallKind} {answer tasks : List BackendTask} :
    (b.unlessFailing kind fun b => (.ok answer, b)).1 = .ok tasks ↔
      b.failures kind = none ∧ answer = tasks := by
  unfold unlessFailing
  cases b.failures kind with
  | none => simp
  | some e => simp

theorem Sound.unfinished (sound : b.Sound) (willing : b.failures .getTasksInProgress = none)
    (deployment : String) :
    ∃ tasks, (b.getTasksInProgress deployment).1 = .ok tasks ∧ b.Unfinished deployment tasks := by
  refine ⟨_, listing_eq_ok_iff.mpr ⟨willing, rfl⟩, sound.pairwise_tasksOf .., fun task => ?_⟩
  rw [sound.mem_tasksOf_iff, Bool.not_eq_true']

theorem failures_unlessFailing {α : Type} (b : Backend) (kind : CallKind)
    {act : Backend → Except BackendError α × Backend}
    (keeps : (act b).2.failures = b.failures) :
    (b.unlessFailing kind act).2.failures = b.failures := by
  obtain done | ⟨e, failed⟩ := unlessFailing_cases b kind act
  · rw [done, keeps]
  · rw [failed]

/-- What a submission added is found, and everything else is found as before. -/
theorem Sound.gained (sound : before.Sound) (high : firstSubmittedId ≤ before.nextTaskId)
    {c : AnyCall} {deployment contextId : String}
    (submits : c.submits? = some (deployment, contextId)) {id : TaskId}
    (effect : Effect c before after (some id)) (failures : after.failures = before.failures) :
    before.Gained deployment contextId id after := by
  have later := effect.sound sound
  cases effect with
  | @created _ _ task submits' isNext context adds next =>
    obtain ⟨rfl, rfl⟩ := Prod.mk.inj (Option.some.inj (submits.symm.trans submits'))
    constructor
    · exact high
    · exact sound.below
    · exact next
    · intro other different
      have unseen : [task].find? (fun t => t.id == other) = none := by
        simp [isNext, Ne.symm different]
      refine ⟨?_, adds.others other (isNext ▸ different)⟩
      rw [task?, adds.tasks, List.find?_append, unseen, Option.or_none, task?]
    · exact isNext ▸ adds.owner
    · refine ⟨task, later.task?_eq_some_iff.mpr ⟨?_, isNext⟩, isNext, context,
        fun older listed => ?_⟩
      · exact adds.tasks ▸ List.mem_append_right _ (List.mem_singleton_self _)
      · obtain ⟨willing, rfl⟩ := listing_eq_ok_iff.mp listed
        apply listing_eq_ok_iff.mpr
        refine ⟨failures ▸ willing, ?_⟩
        rw [adds.tasksOf_eq, if_pos ⟨beq_iff_eq.mpr context, rfl⟩]

end Backend

/-! ### What a call does -/

namespace World

variable {w : World}

/-- Which calls are told to fail is not for a call to change. -/
theorem failures_serve (w : World) (deadline : Option Millis) {k : CallKind} (c : Call k) :
    (serve deadline c w).2.backend.failures = w.backend.failures := by
  cases c with
  | submitDeploy request =>
    let asked : World := { w with calls := w.calls ++ [⟨_, .submitDeploy request⟩] }
    change (asked.submitDeploy deadline request).2.backend.failures = _
    obtain ⟨now, ⟨e, failed⟩ | done⟩ := asked.submitDeploy_cases deadline request
    · rw [failed]
    · rw [done]
      rfl
  | submitErrand deployment errand contextId =>
    change (w.backend.submitErrand deployment errand contextId).2.failures = _
    apply Backend.failures_unlessFailing
    rfl
  | submitDelete deployment contextId force =>
    change (w.backend.submitDelete deployment contextId).2.failures = _
    apply Backend.failures_unlessFailing
    rfl
  | submitRecreate deployment contextId =>
    change (w.backend.submitRecreate deployment contextId).2.failures = _
    apply Backend.failures_unlessFailing
    rfl
  | _ => rw [backend_serve rfl]

/-- A submission that is answered was given a task. -/
theorem gained_serve (counting : w.backend.Counting) (deadline : Option Millis) {k : CallKind}
    {c : Call k} {deployment contextId : String}
    (submits : AnyCall.submits? ⟨k, c⟩ = some (deployment, contextId)) {value : k.Value}
    (accepted : (serve deadline c w).1 = .ok value) :
    ∃ id, Happening.created? (.answered c (.ok value)) = some (⟨k, c⟩, id) ∧
      w.backend.Gained deployment contextId id (serve deadline c w).2.backend := by
  obtain ⟨made, effect, created⟩ := answered_serve counting.sound deadline c
  cases made with
  | none =>
    have isSubmission : (AnyCall.submits? ⟨k, c⟩).isSome := by rw [submits]; rfl
    exact absurd accepted (Happening.ne_ok_of_created? isSubmission created value)
  | some id =>
    refine ⟨id, accepted ▸ created, ?_⟩
    exact counting.sound.gained counting.since submits effect (failures_serve w deadline c)

/-- A request without a deadline waits for no call that fails. -/
theorem now_serve_of_failed {k : CallKind} {c : Call k} {e : k.Failure}
    (failed : (serve none c w).1 = .error e) : (serve none c w).2.now = w.now := by
  cases c with
  | submitDeploy request =>
    simp only [serve, answer, submitDeploy] at failed ⊢
    split
    · rfl
    · rename_i admitted
      rw [admitted] at failed
      cases failed
  | _ => rfl

/-- A call that was not answered leaves everything alone but the journal of calls and, where it
waited for a deadline, the clock. -/
theorem serve_of_failed {deadline : Option Millis} {k : CallKind} {c : Call k} {e : k.Failure}
    (failed : (serve deadline c w).1 = .error e) :
    ∃ now, (serve deadline c w).2 = { w with calls := w.calls ++ [⟨k, c⟩], now } ∧
      (deadline = none → now = w.now) := by
  have nothing : (Happening.answered c (serve deadline c w).1).created? = none := by
    rw [failed]
    cases c <;> rfl
  have untouched := backend_serve nothing
  obtain ⟨backend, now, frame⟩ := serve_frame w deadline c
  refine ⟨now, ?_, ?_⟩
  · rw [frame] at untouched ⊢
    simp only at untouched
    rw [untouched]
  · rintro rfl
    have still := now_serve_of_failed failed
    rw [frame] at still
    exact still

/-- Nothing starts over where a call fails. -/
theorem serveInWords_of_failed (words : w.backend.nextTaskId < Json.wordBound)
    {deadline : Option Millis} {k : CallKind} {c : Call k} {e : k.Failure}
    (failed : (serveInWords deadline c w).1 = .error e) :
    ∃ now, (serveInWords deadline c w).2 = { w with calls := w.calls ++ [⟨k, c⟩], now } ∧
      (deadline = none → now = w.now) := by
  have failed : (serve deadline c w).1 = .error e := failed
  obtain ⟨now, left, still⟩ := serve_of_failed failed
  refine ⟨now, ?_, still⟩
  simp only [serveInWords, left, Backend.wrapped_eq_self words]

/-- A backend never gives two tasks one number. In whatever state it has come to, its tasks are
found under their numbers, which are all used up, and work on a deployment each. While numbers are
left, a submission that is answered gets one that is still free, above all others, and changes no
other task. A call that fails changes nothing, and what is listed as unfinished is all that is
unfinished. -/
theorem tasks_never_reused (reachable : w.backend.Reachable) :
    w.backend.Numbered ∧
    (∀ (deadline : Option Millis) (k : CallKind) (c : Call k),
      (∀ deployment contextId, AnyCall.submits? ⟨k, c⟩ = some (deployment, contextId) →
        w.backend.HasIdsLeft → ∀ value, (serveInWords deadline c w).1 = .ok value →
          ∃ id, Happening.created? (.answered c (.ok value)) = some (⟨k, c⟩, id) ∧
            w.backend.Gained deployment contextId id (serveInWords deadline c w).2.backend) ∧
      ∀ e, (serveInWords deadline c w).1 = .error e →
        ∃ now, (serveInWords deadline c w).2 = { w with calls := w.calls ++ [⟨k, c⟩], now } ∧
          (deadline = none → now = w.now)) ∧
    (w.backend.failures .getTasksInProgress = none → ∀ deployment,
      ∃ tasks, (w.backend.getTasksInProgress deployment).1 = .ok tasks ∧
        w.backend.Unfinished deployment tasks) := by
  have counting := reachable.counting
  refine ⟨counting.sound.numbered, fun deadline k c => ⟨?_, ?_⟩, ?_⟩
  · intro deployment contextId submits left value accepted
    have same : serveInWords deadline c w = serve deadline c w :=
      serveInWords_eq counting.sound counting.words deadline fun _ => left
    rw [same] at accepted ⊢
    exact gained_serve counting deadline submits accepted
  · intro e failed
    exact serveInWords_of_failed counting.words failed
  · exact counting.sound.unfinished

/-- A world with a backend that knows two tasks of one context from elsewhere, one numbered high
above its own and one far below, and that was told not to list machines. -/
def seededWorld : World where
  backend := (((({} : Backend).addTask "d-i" { id := 500, state := .done, contextId := "c" }).addTask
    "d-i" { id := 5, state := .queued, contextId := "c" }).setTaskState 5 .processing).setFailure
      .getVms (some (.unexpected "down"))
  ids := fun n => n.repr

theorem reachable_seededWorld : seededWorld.backend.Reachable := by
  apply Backend.Reachable.setFailure
  apply Backend.Reachable.setTaskState
  refine .addTask (.addTask .empty "d-i" ?_) "d-i" ?_ <;> decide

/-- The next submission is numbered above both; the task that is not done is the one unfinished; and
a call for machines fails and changes nothing. -/
theorem tasks_never_reused_seeded :
    seededWorld.backend.Reachable ∧ seededWorld.backend.HasIdsLeft ∧
      seededWorld.backend.Gained "d-i" "c" 501
        (serveInWords none (.submitErrand "d-i" { name := "drain" } "c") seededWorld).2.backend ∧
      (serveInWords none (.getVms "d-i") seededWorld).2 =
        { seededWorld with calls := [⟨_, .getVms "d-i"⟩] } ∧
      ∃ tasks, (seededWorld.backend.getTasksInProgress "d-i").1 = .ok tasks ∧
        seededWorld.backend.Unfinished "d-i" tasks := by
  obtain ⟨_, calls, unfinished⟩ := tasks_never_reused reachable_seededWorld
  have left : seededWorld.backend.HasIdsLeft := by
    unfold Backend.HasIdsLeft
    decide
  refine ⟨reachable_seededWorld, left, ?_, ?_, unfinished rfl "d-i"⟩
  · obtain ⟨id, created, gained⟩ := (calls none _ (.submitErrand "d-i" { name := "drain" } "c")).1
      "d-i" "c" rfl left (501 : TaskId) rfl
    cases created
    exact gained
  · obtain ⟨now, left, still⟩ := (calls none _ (.getVms "d-i")).2 (.unexpected "down") rfl
    rw [left, still rfl]
    rfl

/-- A world with a backend that knows a task from elsewhere whose number only one word follows, and
that was told not to list what is unfinished. -/
def lastWordWorld : World where
  backend := (({} : Backend).addTask "d-i"
    { id := Json.wordBound - 2, state := .queued, contextId := "c" }).setFailure
      .getTasksInProgress (some (.unexpected "down"))
  ids := fun n => n.repr

/-- A world after the submission of an errand, and the answer to it. -/
def submitDrain (w : World) : CallKind.submitErrand.Answer × World :=
  serveInWords none (.submitErrand "d-i" { name := "drain" } "c") w

/-- Once the words have run out, numbers start over: a task has the last word for its number, and
the next one is zero, so its number is not used up. The submission after it is numbered zero, below
all others, and its task is listed first. And a task that is queued is not listed as unfinished
where the listing was told to fail. -/
theorem numbers_start_over :
    lastWordWorld.backend.Reachable ∧
      (submitDrain lastWordWorld).1 = .ok (Json.wordBound - 1) ∧
      ¬ (submitDrain lastWordWorld).2.backend.Numbered ∧
      (submitDrain (submitDrain lastWordWorld).2).1 = .ok (0 : TaskId) ∧
      ((submitDrain (submitDrain lastWordWorld).2).2.backend.tasksOf "d-i" fun t =>
        t.contextId == "c").map BackendTask.id = [0, Json.wordBound - 2, Json.wordBound - 1] ∧
      (lastWordWorld.backend.task? (Json.wordBound - 2)).map BackendTask.state = some .queued ∧
      (lastWordWorld.backend.getTasksInProgress "d-i").1 = .error (.unexpected "down") := by
  refine ⟨.setFailure (.addTask .empty "d-i" (by decide)) _ _, rfl, fun numbered => ?_, rfl, ?_, ?_,
    rfl⟩
  · obtain ⟨_, _, below⟩ := numbered _ (List.mem_of_getElem? (i := 1) rfl)
    exact absurd below (by decide)
  · decide
  · decide

end World

end ServiceBroker.Memory
