import ServiceBroker.Proofs.Lifecycle.Knowledge

/-! The end of an operation. Every poll works out anew how the operation stands, so that an end once
reported is an end for good rests on three things: a task that has ended stays as it is, the report is
about the latest task of the operation, and no step is due behind a task that has failed or behind the
last step of a deploy. -/
namespace ServiceBroker

open Memory Lifecycle

namespace TaskState

/-- A task that has ended stays as it is. -/
theorem eq_of_isTerminal {s t : TaskState} (ended : s.isTerminal) (moves : s.canTransitionTo t) :
    t = s := by
  have same : s == t := by
    unfold canTransitionTo at moves
    rwa [if_pos ended] at moves
  exact (eq_of_beq same).symm

/-- What counts as an outcome is the state of a task that has ended. -/
theorem isTerminal_of_outcome {s : TaskState} (outcome : s.outcome ≠ .incomplete) :
    s.isTerminal := by
  cases s <;> first
    | rfl
    | exact absurd rfl outcome

theorem isDone_eq_false {s : TaskState} (failed : s.outcome = .failed) : s.isDone = false := by
  cases s <;> first
    | rfl
    | cases failed

end TaskState

theorem BackendTask.Becomes.state_eq {t u : BackendTask} (becomes : t.Becomes u)
    (ended : t.state.isTerminal) : u.state = t.state :=
  TaskState.eq_of_isTerminal ended becomes.moves

namespace Lifecycle

variable {offering : Offering} {deployment : String} {data : OperationData}

/-- Whether a step is due depends on the number of tasks and the state of the last one. -/
theorem nextStep?_congr {tasks tasks' : List BackendTask} (count : tasks.length = tasks'.length)
    (last : tasks.getLast?.map BackendTask.state = tasks'.getLast?.map BackendTask.state) :
    nextStep? offering deployment data tasks = nextStep? offering deployment data tasks' := by
  have done (l : List BackendTask) : l.getLast?.any BackendTask.isDone =
      (l.getLast?.map BackendTask.state).any TaskState.isDone := by
    cases l.getLast? <;> rfl
  rw [nextStep?, nextStep?, done, done, last, count]

/-- Behind a task that has failed no step is due. -/
theorem nextStep?_of_failed {tasks : List BackendTask} {task : BackendTask}
    (last : tasks.getLast? = some task) (failed : task.state.outcome = .failed) :
    nextStep? offering deployment data tasks = none := by
  have undone : task.isDone = false := TaskState.isDone_eq_false failed
  simp [nextStep?, last, undone]

/-- Behind the second task of a deploy no step is due. -/
theorem nextStep?_of_deploy {tasks : List BackendTask} (deploys : data.kind.isDeploy)
    (count : tasks.length ≠ 1) : nextStep? offering deployment data tasks = none := by
  simp [nextStep?, stepAfter?, deploys, count]

theorem hasContext_of_hasSteps (steps : hasSteps data) : data.hasContext :=
  (Bool.and_eq_true_iff.mp steps).1

/-- The operation has come to its end with a task: the task is in a state that it will stay in, it is
the one that polls report on, and no step is due. -/
structure Ended (offering : Offering) (deployment : String) (data : OperationData) (id : TaskId)
    (state : TaskState) (b : Backend) : Prop where
  final : state.isTerminal
  single : hasSteps data = false →
    id = data.taskId ∧ ∃ e ∈ b.owned, e.task.id = id ∧ e.task.state = state
  latest : hasSteps data → ∃ task,
    (b.tasksUnder deployment data.contextId).getLast? = some task ∧ task.id = id ∧ task.state = state
  idle : hasSteps data →
    nextStep? offering deployment data (b.tasksUnder deployment data.contextId) = none

namespace Ended

variable {id : TaskId} {state : TaskState} {w w' : World}

/-- What others do does not change the end of an operation. -/
theorem aside (ended : Ended offering deployment data id state w.backend)
    (aside : w.Aside deployment data w') : Ended offering deployment data id state w'.backend where
  final := ended.final
  single single := by
    obtain ⟨same, e, held, isId, isState⟩ := ended.single single
    obtain ⟨f, held', moved⟩ := aside.kept e held
    refine ⟨same, f, held', moved.task.id.trans isId, ?_⟩
    rw [moved.task.state_eq (isState ▸ ended.final), isState]
  latest steps := by
    obtain ⟨task, last, isId, isState⟩ := ended.latest steps
    have own := aside.own (hasContext_of_hasSteps steps)
    obtain ⟨later, last', moved⟩ := (Grown.of_forall₂ own).getLast? own.length_eq last
    refine ⟨later, last', moved.id.trans isId, ?_⟩
    rw [moved.state_eq (isState ▸ ended.final), isState]
  idle steps := by
    obtain ⟨task, last, _, isState⟩ := ended.latest steps
    have own := aside.own (hasContext_of_hasSteps steps)
    obtain ⟨later, last', moved⟩ := (Grown.of_forall₂ own).getLast? own.length_eq last
    rw [← ended.idle steps]
    refine nextStep?_congr own.length_eq.symm ?_
    rw [last, last', Option.map_some, Option.map_some, moved.state_eq (isState ▸ ended.final)]

end Ended

/-- An outcome that polls do not go beyond: any failure, and the success of everything but a deletion
in steps. -/
def Final (data : OperationData) (outcome : TaskOutcome) : Prop :=
  outcome = .failed ∨ outcome = .succeeded ∧ ¬(data.kind = .delete ∧ data.hasContext)

theorem Final.isTerminal {state : TaskState} (final : Final data state.outcome) :
    state.isTerminal := by
  refine TaskState.isTerminal_of_outcome fun incomplete => ?_
  rcases final with failed | ⟨succeeded, _⟩
  · rw [incomplete] at failed
    cases failed
  · rw [incomplete] at succeeded
    cases succeeded

/-- An operation in steps that ends well is a deploy. -/
theorem Final.isDeploy {outcome : TaskOutcome} (final : Final data outcome) (steps : hasSteps data)
    (unfailed : outcome ≠ .failed) : data.kind.isDeploy := by
  obtain ⟨context, kinds⟩ := Bool.and_eq_true_iff.mp steps
  rcases Bool.or_eq_true_iff.mp kinds with deploys | deletes
  · exact deploys
  · obtain ⟨_, other⟩ := final.resolve_left unfailed
    exact absurd ⟨of_decide_eq_true deletes, context⟩ other

variable {past : List Happening}

/-- A submission of a poll is the second thing that happens, and it was due. -/
theorem shape_of_submits (obeyed : Obeyed (StepRule offering deployment data) past)
    {before after : List Happening} {h : Happening} (split : past = before ++ h :: after)
    (submits : h.submits) : ∃ tasks c, before = [.look deployment data.contextId tasks] ∧
      h.call? = some c ∧ nextStep? offering deployment data tasks = some c := by
  cases h with
  | issued => cases submits
  | @answered k c answer =>
    have permitted : StepRule offering deployment data before ⟨k, c⟩ := by
      refine obeyed before k c answer ⟨after, ?_⟩
      rw [split, List.append_assoc]
      rfl
    obtain ⟨_, tasks, only, due⟩ := permitted submits
    exact ⟨tasks, _, only, rfl, due⟩

/-- Nothing is submitted after the step of a poll. -/
theorem quiet_after_submits (obeyed : Obeyed (StepRule offering deployment data) past)
    {first made : Happening} {after : List Happening} (split : past = first :: made :: after) :
    ∀ h ∈ after, h.submits = false := by
  intro h member
  obtain ⟨between, rest, rfl⟩ := List.append_of_mem member
  by_contra submits
  have whole : past = (first :: made :: between) ++ h :: rest := split
  obtain ⟨tasks, c, only, _⟩ := shape_of_submits obeyed whole (by simpa using submits)
  cases only

/-- What a poll finds at an end is the end of the operation. -/
theorem ended_of_found {b : Backend} (sound : b.Sound) (knows : Knows deployment data past b)
    (obeyed : Obeyed (StepRule offering deployment data) past) {task : BackendTask}
    (found : Found offering deployment data past (.ok task))
    (final : Final data task.state.outcome) :
    Ended offering deployment data task.id task.state b := by
  have terminal := final.isTerminal
  cases found with
  | only single fetched =>
    obtain ⟨isId, e, held, moved⟩ := knows.fetched _ _ fetched
    have steps (isChain : hasSteps data) : False := by
      rw [single] at isChain
      cases isChain
    refine ⟨terminal, fun _ => ⟨isId, e, held, moved.id, moved.state_eq terminal⟩, ?_, ?_⟩
    · exact fun isChain => (steps isChain).elim
    · exact fun isChain => (steps isChain).elim
  | @standing tasks _ steps seen last idle =>
    obtain ⟨before, after, split⟩ := List.append_of_mem seen
    -- Had the poll taken a step, it would have been due for the tasks that it saw.
    have quiet : ∀ h ∈ after, h.submits = false := by
      intro h member
      obtain ⟨between, rest, rfl⟩ := List.append_of_mem member
      by_contra submits
      have whole : past =
          (before ++ .look deployment data.contextId tasks :: between) ++ h :: rest := by
        simpa using split
      obtain ⟨tasks', c, only, _, due⟩ := shape_of_submits obeyed whole (by simpa using submits)
      have same : tasks' = tasks := by
        have counts := congrArg List.length only
        simp only [List.length_append, List.length_cons, List.length_nil] at counts
        obtain rfl : before = [] := List.length_eq_zero_iff.mp (by omega)
        cases only
        rfl
      rw [same, idle] at due
      cases due
    obtain ⟨grown, count⟩ := knows.looked (hasContext_of_hasSteps steps) before tasks after split quiet
    obtain ⟨later, last', moved⟩ := grown.getLast? count last
    refine ⟨terminal, fun single => ?_, fun _ => ⟨later, last', moved.id, moved.state_eq terminal⟩,
      fun _ => ?_⟩
    · rw [single] at steps
      cases steps
    · rw [← idle]
      refine nextStep?_congr count.symm ?_
      rw [last, last', Option.map_some, Option.map_some, moved.state_eq terminal]
  | @stepped tasks step made id _ steps seen due happened created fetched =>
    have context := hasContext_of_hasSteps steps
    obtain ⟨before, after, split⟩ := List.append_of_mem happened
    obtain ⟨tasks', c, rfl, isCall, due'⟩ :=
      shape_of_submits obeyed split (Happening.submits_of_created? created)
    have quiet := quiet_after_submits obeyed split
    have target := submits_of_stepAfter? (nextStep?_eq_some.mp due).2
    obtain ⟨count, latest, last, isId⟩ :=
      knows.stepped context tasks' made after step id split quiet created target
    obtain ⟨same, e, held, moved⟩ := knows.fetched _ _ fetched
    -- The task that was fetched is the one that the step added.
    obtain ⟨entry, isHeld, rfl⟩ : ∃ entry ∈ b.owned, entry.task = latest := by
      rw [Backend.tasksUnder, Backend.tasksOf_eq] at last
      obtain ⟨entry, isListed, isTask⟩ := List.mem_map.mp (List.mem_of_getLast? last)
      exact ⟨entry, (List.mem_filter.mp isListed).1, isTask⟩
    have one : entry = e := by
      refine sound.unique isHeld held ?_
      rw [isId, moved.id, same]
    subst one
    refine ⟨terminal, fun single => ?_, fun _ => ⟨_, last, moved.id, moved.state_eq terminal⟩,
      fun _ => ?_⟩
    · rw [single] at steps
      cases steps
    · by_cases failed : task.state.outcome = .failed
      · exact nextStep?_of_failed last (by rw [moved.state_eq terminal, failed])
      · refine nextStep?_of_deploy (final.isDeploy steps failed) ?_
        obtain ⟨⟨_, some, _⟩, _⟩ := nextStep?_eq_some.mp due'
        have positive : tasks'.length ≠ 0 := by
          intro empty
          rw [List.length_eq_zero_iff.mp empty] at some
          cases some
        omega

/-- What a poll sees of an operation that has come to its end. -/
structure SeesEnd (offering : Offering) (deployment : String) (data : OperationData) (id : TaskId)
    (state : TaskState) (past : List Happening) : Prop where
  fetched : hasSteps data = false → ∀ task, .answered (.getTask data.taskId) (.ok task) ∈ past →
    task.id = id ∧ task.state = state
  looked : hasSteps data → ∀ tasks, .look deployment data.contextId tasks ∈ past →
    nextStep? offering deployment data tasks = none ∧
      ∃ task, tasks.getLast? = some task ∧ task.id = id ∧ task.state = state

namespace SeesEnd

variable {id : TaskId} {state : TaskState}

/-- A poll that sees the end is not permitted to take a step. -/
theorem quiet (sees : SeesEnd offering deployment data id state past) {before : List Happening}
    (included : before ⊆ past) {c : AnyCall}
    (permitted : StepRule offering deployment data before c) : c.submits? = none := by
  by_contra submits
  obtain ⟨steps, tasks, only, due⟩ := permitted (Option.isSome_iff_ne_none.mpr submits)
  obtain ⟨idle, _⟩ := sees.looked steps tasks (included (by simp [only]))
  rw [idle] at due
  cases due

/-- So it has taken none. -/
theorem submits?_eq_none (sees : SeesEnd offering deployment data id state past)
    (obeyed : Obeyed (StepRule offering deployment data) past) {h : Happening} (member : h ∈ past) :
    h.call?.bind AnyCall.submits? = none := by
  cases h with
  | issued => rfl
  | @answered k c answer =>
    obtain ⟨before, after, split⟩ := List.append_of_mem member
    have first : before ++ [.answered c answer] <+: past := ⟨after, by simp [split]⟩
    have included : before ⊆ past := ((List.prefix_append ..).trans first).subset
    exact sees.quiet included (obeyed before k c answer first)

/-- It finds the task that the operation ended with. -/
theorem found (sees : SeesEnd offering deployment data id state past) {task : BackendTask}
    (found : Found offering deployment data past (.ok task)) : task.id = id ∧ task.state = state := by
  cases found with
  | only single fetched => exact sees.fetched single task fetched
  | @standing tasks _ steps seen last _ =>
    obtain ⟨_, latest, isLast, is⟩ := sees.looked steps tasks seen
    obtain rfl := Option.some.inj (last.symm.trans isLast)
    exact is
  | @stepped tasks _ _ _ _ steps seen due =>
    obtain ⟨idle, _⟩ := sees.looked steps tasks seen
    rw [idle] at due
    cases due

/-- At the end of an operation a poll is shown the end. -/
theorem act {s s' : Serving} {w w' : World} {made : List Submission} (sound : w.backend.Sound)
    (ended : Ended offering deployment data id state w.backend)
    (sees : SeesEnd offering deployment data id state s.past) (act : s.Act w s' w' made) :
    SeesEnd offering deployment data id state s'.past := by
  cases act with
  | quiet => exact sees
  | took =>
    refine ⟨fun single task member => ?_, fun steps tasks member => ?_⟩
    · exact sees.fetched single task (by simpa using member)
    · exact sees.looked steps tasks (by simpa [Happening.look] using member)
  | @asked k c answer rest w' made permitted course effect ids issued created answered =>
    refine ⟨fun single task member => ?_, fun steps tasks member => ?_⟩
    · rcases List.mem_append.mp member with old | new
      · exact sees.fetched single task old
      · cases List.mem_singleton.mp new
        obtain ⟨deadline, read⟩ := answered task rfl
        obtain ⟨isId, e, held, rfl⟩ := World.mem_of_getTask sound read
        obtain ⟨same, f, held', isId', isState⟩ := ended.single single
        obtain rfl := sound.unique held held' (by rw [isId, isId', same])
        exact ⟨isId', isState⟩
    · rcases List.mem_append.mp member with old | new
      · exact sees.looked steps tasks old
      · cases List.mem_singleton.mp new
        obtain ⟨deadline, read⟩ := answered tasks rfl
        rw [World.eq_of_getTasksByContext read]
        exact ⟨ended.idle steps, ended.latest steps⟩

end SeesEnd

end Lifecycle

end ServiceBroker
