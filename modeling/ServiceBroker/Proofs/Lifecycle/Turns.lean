import ServiceBroker.Proofs.Lifecycle.Tracks

/-! One request after the other. While a poll is served, nobody else submits anything, so the tasks
that it has seen are all there are, and the submissions under the context are the steps of the
operation in their order, without a gap and without a repetition. -/
namespace ServiceBroker

open Memory Lifecycle

namespace Process

/-- All requests are answered. -/
def Idle (p : Process) : Prop := ∀ s ∈ p.servings, s.response?.isSome

/-- A request is taken in only after all others have been answered. -/
def sequential (data : OperationData) (p : Process) (request : Request) : Prop :=
  p.Idle ∧ request.Genuine data

/-- At most the last request is being served, and what it has seen of the operation is what there is
of it. -/
structure InTurn (deployment : String) (data : OperationData) (p : Process) : Prop where
  alone : ∀ i s, p.servings[i]? = some s → s.response? = none → i + 1 = p.servings.length
  current : ∀ s tasks, p.servings.getLast? = some s →
    s.past = [.look deployment data.contextId tasks] →
      tasks.length = (p.under data.contextId).length
  exact : ∀ k x tasks, (p.under data.contextId)[k + 1]? = some x →
    x.past = [.look deployment data.contextId tasks] → tasks.length = k + 1
  /-- A submission that the last request knows of is the last one. -/
  latest : ∀ s, p.servings.getLast? = some s → ∀ h ∈ s.past, ∀ c id,
    h.created? = some (c, id) → c.submits? = some (deployment, data.contextId) →
      ∃ x, (p.under data.contextId).getLast? = some x ∧ x.call = c ∧ x.taskId = id

variable {config : BrokerConfig} {start : World} {deployment : String} {data : OperationData}
  {steps : List AnyCall} {p p' : Process}

/-- A request that has only looked has not submitted anything in its last step. -/
theorem Tracks.made_of_look (tracks : p.Tracks config start deployment data steps) {i : Nat}
    {s s' : Serving} {w : World} {made : List Submission} (served : p.servings[i]? = some s)
    (unanswered : s.response? = none) (act : s.Act p.world s' w made) {tasks : List BackendTask}
    (past : s'.past = [.look deployment data.contextId tasks]) :
    made.filter (·.isUnder data.contextId) = [] := by
  refine List.eq_nil_iff_forall_not_mem.mpr fun x member => ?_
  obtain ⟨isMade, isUnder⟩ := List.mem_filter.mp member
  obtain ⟨_, _, answer, grown⟩ := act.made_answered isMade
  obtain ⟨_, seen, looked, _⟩ := tracks.permits served unanswered act isMade isUnder
  rw [grown, looked] at past
  cases past

theorem InTurn.act (tracks : p.Tracks config start deployment data steps)
    (inTurn : p.InTurn deployment data) {i : Nat} {s s' : Serving} {w : World}
    {made : List Submission} (served : p.servings[i]? = some s) (unanswered : s.response? = none)
    (act : s.Act p.world s' w made) :
    InTurn deployment data ⟨w, p.servings.set i s', p.submissions ++ made⟩ := by
  have all : under data.contextId ⟨w, p.servings.set i s', p.submissions ++ made⟩ =
      p.under data.contextId ++ made.filter (·.isUnder data.contextId) := List.filter_append ..
  have last := inTurn.alone i s served unanswered
  have isLast : p.servings.getLast? = some s := by
    rw [List.getLast?_eq_getElem?, ← last]
    exact served
  have isLast' : (p.servings.set i s').getLast? = some s' := by
    rw [List.getLast?_eq_getElem?, List.length_set, ← last]
    exact List.getElem?_set_self (by omega)
  have new {x : Submission} (member : x ∈ made.filter (·.isUnder data.contextId)) :=
    tracks.permits served unanswered act (List.mem_filter.mp member).1 (List.mem_filter.mp member).2
  constructor
  · intro j t isServed isOpen
    rw [List.length_set]
    by_cases same : i = j
    · exact same ▸ last
    · rw [List.getElem?_set_ne same] at isServed
      exact inTurn.alone j t isServed isOpen
  · intro t tasks isServed past
    obtain rfl := Option.some.inj (isLast'.symm.trans isServed)
    rw [all, tracks.made_of_look served unanswered act past, List.append_nil]
    rcases act.looked past with same | ⟨_, rfl⟩
    · exact inTurn.current s tasks isLast (same.trans past)
    · rw [tracks.tasksOf_eq, List.length_map, tracks.ledger.length_eq]
  · intro k x tasks held past
    rw [all, List.getElem?_append] at held
    split at held
    · exact inTurn.exact k x tasks held past
    · rename_i outside
      have member := List.mem_of_getElem? held
      obtain ⟨_, before, _, _⟩ := act.made_spec (List.mem_filter.mp member).1
      obtain ⟨_, only, _⟩ := act.made_answered (List.mem_filter.mp member).1
      have seen := inTurn.current s tasks isLast (before ▸ past)
      have inside := (List.getElem?_eq_some_iff.mp held).1
      have atMost : (made.filter (·.isUnder data.contextId)).length ≤ 1 := by
        rw [only]
        exact List.length_filter_le ..
      omega
  · intro t isServed h member c id created submits
    obtain rfl := Option.some.inj (isLast'.symm.trans isServed)
    rw [all]
    rcases act.created member created with old | ⟨x, rfl, rfl, rfl⟩
    · cases added : made.filter (·.isUnder data.contextId) with
      | nil =>
        rw [List.append_nil]
        exact inTurn.latest s isLast h old c id created submits
      | cons x rest =>
        obtain ⟨_, tasks, past, _⟩ := new (added ▸ List.mem_cons_self)
        rw [past, List.mem_singleton] at old
        rw [old] at created
        cases created
    · have isUnder : x.isUnder data.contextId := Submission.isUnder_iff.mpr ⟨_, submits⟩
      exact ⟨x, by simp [isUnder], rfl, rfl⟩

theorem InTurn.step (tracks : p.Tracks config start deployment data steps)
    (inTurn : p.InTurn deployment data) (step : Step config (sequential data) p p') :
    p'.InTurn deployment data := by
  cases step.move tracks.faithful.sound with
  | still => exact inTurn
  | @received request admitted =>
    have isLast : (p.receive config request).servings.getLast? = some (.start config request) := by
      simp [receive]
    refine ⟨fun i s served isOpen => ?_, fun s tasks served past => ?_, inTurn.exact,
      fun s served h member => ?_⟩
    · rw [receive, List.getElem?_append] at served
      split at served
      · have answered := admitted.1 s (List.mem_of_getElem? served)
        rw [isOpen] at answered
        cases answered
      · have inside := (List.getElem?_eq_some_iff.mp served).1
        simp only [receive, List.length_append, List.length_singleton] at inside ⊢
        omega
    · obtain rfl := Option.some.inj (isLast.symm.trans served)
      cases past
    · obtain rfl := Option.some.inj (isLast.symm.trans served)
      cases member
  | drifted _ => exact ⟨inTurn.alone, inTurn.current, inTurn.exact, inTurn.latest⟩
  | acted served waiting act => exact inTurn.act tracks served waiting act

/-- What a run of one request after the other keeps. -/
theorem InTurn.run (distinct : ∀ m n, start.ids m = start.ids n → m = n)
    (tracks : p.Tracks config start deployment data steps) (inTurn : p.InTurn deployment data)
    (run : Run config (sequential data) p p') :
    p'.Tracks config start deployment data steps ∧ p'.InTurn deployment data := by
  induction run with
  | refl => exact ⟨tracks, inTurn⟩
  | tail _ step ih =>
    exact ⟨ih.1.step distinct (fun _ _ admitted => admitted.2) step, ih.2.step ih.1 step⟩

/-- Nothing has followed a request that was served alone. -/
theorem Lone.inTurn {request : Request} {s : Serving} {x : Submission} (lone : p.Lone request s)
    (faithful : p.Faithful config start) (finished : s.response?.isSome)
    (made : p.submissions = [x]) (isUnder : x.isUnder data.contextId)
    (issued : .issued data.contextId ∈ s.past) : p.InTurn deployment data := by
  have isLast : p.servings.getLast? = some s := by simp [lone.only]
  have all : p.under data.contextId = [x] := by simp [under, made, isUnder]
  constructor
  · intro i t served isOpen
    rw [lone.only] at served
    rw [List.mem_singleton.mp (List.mem_of_getElem? served)] at isOpen
    rw [isOpen] at finished
    cases finished
  · intro t tasks served past
    obtain rfl := Option.some.inj (isLast.symm.trans served)
    rw [past, List.mem_singleton] at issued
    cases issued
  · intro k y tasks held
    rw [all] at held
    cases held
  · intro t served h isPast c id created _
    obtain rfl := Option.some.inj (isLast.symm.trans served)
    obtain ⟨y, isMade, isCall⟩ :=
      (faithful.holds s (List.mem_of_getLast? served) h isPast).created c id created
    rw [made, List.mem_singleton] at isMade
    exact ⟨x, by rw [all]; rfl, isMade ▸ isCall⟩

/-- A request that has just opened an operation leaves one submission, its first step. -/
theorem tracks_of_opened (fresh : start.Fresh) {request : Request} {s : Serving} {x : Submission}
    (run : Run config nobody (alone config start request) p) (lone : p.Lone request s)
    (finished : s.response?.isSome) (made : p.submissions = [x]) (same : x.taskId = data.taskId)
    (issued : .issued data.contextId ∈ s.past)
    (submits : x.call.submits? = some (deployment, data.contextId))
    (isFirst : steps[0]? = some x.call) :
    p.Tracks config start deployment data steps ∧ p.InTurn deployment data := by
  have began : (alone config start request).Faithful config start :=
    faithful_alone config fresh.sound request
  have faithful := began.run fresh.distinct run
  have isUnder : x.isUnder data.contextId := Submission.isUnder_iff.mpr ⟨_, submits⟩
  have all : p.under data.contextId = [x] := by simp [under, made, isUnder]
  obtain ⟨n, since, _, isContext⟩ := (faithful.holds s (by simp [lone.only]) _ issued).issued _ rfl
  rw [faithful.ids] at isContext
  have unused : start.backend.under data.contextId = [] := by
    refine List.filter_eq_nil_iff.mpr fun e held => ?_
    rw [beq_iff_eq, ← isContext]
    exact fresh.unused n since e.task (Backend.mem_owned.mp held).1
  refine ⟨?_, lone.inTurn faithful finished made isUnder issued⟩
  constructor
  · rw [← isContext]
    exact fresh.proper n
  · exact faithful
  · exact (ledger_alone request unused).run fresh.distinct began run
  · exact ⟨s, by simp [lone.only], issued, finished⟩
  · intro i t positive served
    rw [lone.only] at served
    have := (List.getElem?_eq_some_iff.mp served).1
    simp only [List.length_singleton] at this
    omega
  · intro y isMade
    rw [all] at isMade
    rwa [List.mem_singleton.mp isMade]
  · exact ⟨x, by rw [all]; rfl, isFirst, same⟩
  · intro k y held
    rw [all] at held
    cases held

/-! What follows for the submissions. -/

/-- A submission of a poll was made after as many tasks as there are submissions before it. -/
theorem InTurn.seen (tracks : p.Tracks config start deployment data steps)
    (inTurn : p.InTurn deployment data) {k : Nat} {x : Submission}
    (held : (p.under data.contextId)[k + 1]? = some x) :
    ∃ tasks, x.past = [.look deployment data.contextId tasks] ∧ tasks.length = k + 1 ∧
      nextStep? config.offering deployment data tasks = some x.call := by
  obtain ⟨tasks, past, due⟩ := tracks.later k x held
  exact ⟨tasks, past, inTurn.exact k x tasks held past, due⟩

/-- Each submission is the step of its place. -/
theorem InTurn.call_eq (stepwise : Stepwise config.offering deployment data steps)
    (tracks : p.Tracks config start deployment data steps) (inTurn : p.InTurn deployment data)
    {k : Nat} {x : Submission} (held : (p.under data.contextId)[k]? = some x) :
    steps[k]? = some x.call := by
  cases k with
  | zero =>
    obtain ⟨first, isFirst, isStep, _⟩ := tracks.first
    rwa [← Option.some.inj (isFirst.symm.trans held)]
  | succ k =>
    obtain ⟨tasks, _, count, due⟩ := inTurn.seen tracks held
    rw [stepwise k, ← count]
    exact (nextStep?_eq_some.mp due).2

/-- No step is skipped, repeated or made out of order. -/
theorem InTurn.calls_prefix (stepwise : Stepwise config.offering deployment data steps)
    (tracks : p.Tracks config start deployment data steps) (inTurn : p.InTurn deployment data) :
    (p.under data.contextId).map Submission.call <+: steps := by
  rw [List.prefix_iff_getElem?]
  intro k inside
  rw [List.getElem_map]
  exact inTurn.call_eq stepwise tracks (List.getElem?_eq_getElem _)

/-- When a step after the first one was submitted, the task of the step before it was done. -/
theorem InTurn.predecessor_done (tracks : p.Tracks config start deployment data steps)
    (inTurn : p.InTurn deployment data) {k : Nat} {x : Submission}
    (held : (p.under data.contextId)[k + 1]? = some x) :
    ∃ e, (x.before.under data.contextId)[k]? = some e ∧ e.task.isDone := by
  obtain ⟨tasks, past, count, due⟩ := inTurn.seen tracks held
  obtain ⟨⟨task, last, done⟩, _⟩ := nextStep?_eq_some.mp due
  have isMade := List.mem_of_getElem? held
  have grown := tracks.faithful.seen x (List.mem_filter.mp isMade).1 _ _ _
    (past ▸ List.mem_singleton_self _)
  rw [(tracks.ledger.earlier _ x held).tasksOf_eq fun y member =>
    tracks.owned y (List.mem_of_mem_take member)] at grown
  rw [List.getLast?_eq_getElem?, count, Nat.add_sub_cancel] at last
  obtain ⟨u, isHeld, moved⟩ := grown.getElem? last
  rw [List.getElem?_map] at isHeld
  obtain ⟨e, isTask, rfl⟩ := Option.map_eq_some_iff.mp isHeld
  exact ⟨e, isTask, moved.isDone done⟩

/-- And it is still done. -/
theorem InTurn.done_before (tracks : p.Tracks config start deployment data steps)
    (inTurn : p.InTurn deployment data) {k : Nat} {e : OwnedTask}
    (held : (p.world.backend.under data.contextId)[k]? = some e)
    (more : k + 1 < (p.under data.contextId).length) : e.task.isDone := by
  have next := List.getElem?_eq_getElem more
  obtain ⟨f, isTask, done⟩ := inTurn.predecessor_done tracks next
  have isMade := (List.mem_filter.mp (List.mem_of_getElem? next)).1
  have grown := (tracks.faithful.before _ isMade).under data.contextId
  obtain ⟨g, found, moved⟩ := grown.getElem? isTask
  obtain rfl := Option.some.inj (held.symm.trans found)
  exact moved.task.isDone done

/-- Once the task of the last step is done, all tasks of the operation are done. -/
theorem InTurn.all_done (tracks : p.Tracks config start deployment data steps)
    (inTurn : p.InTurn deployment data) {last : OwnedTask}
    (isLast : (p.world.backend.under data.contextId).getLast? = some last)
    (done : last.task.isDone) : ∀ e ∈ p.world.backend.under data.contextId, e.task.isDone := by
  intro e member
  obtain ⟨k, held⟩ := List.mem_iff_getElem?.mp member
  have inside := (List.getElem?_eq_some_iff.mp held).1
  have count := tracks.ledger.length_eq
  by_cases more : k + 1 < (p.under data.contextId).length
  · exact inTurn.done_before tracks held more
  · rw [List.getLast?_eq_getElem?, show _ - 1 = k by omega, held] at isLast
    rwa [Option.some.inj isLast]

/-- A request that has seen the last task done and no step due has seen all steps. -/
theorem InTurn.complete_of_standing (stepwise : Stepwise config.offering deployment data steps)
    (tracks : p.Tracks config start deployment data steps) (inTurn : p.InTurn deployment data)
    {s : Serving} (served : s ∈ p.servings) {tasks : List BackendTask} {task : BackendTask}
    (seen : .look deployment data.contextId tasks ∈ s.past) (last : tasks.getLast? = some task)
    (done : task.isDone) (idle : nextStep? config.offering deployment data tasks = none) :
    (p.under data.contextId).length = steps.length ∧
      ∃ e, (p.world.backend.under data.contextId).getLast? = some e ∧ e.task.isDone := by
  have nothing : stepAfter? config.offering deployment data tasks.length = none := by
    simpa [nextStep?, last, done] using idle
  have some : tasks.length ≠ 0 := by
    intro empty
    rw [List.length_eq_zero_iff.mp empty] at last
    cases last
  have beyond : steps.length ≤ tasks.length := by
    obtain ⟨n, count⟩ := Nat.exists_eq_succ_of_ne_zero some
    rw [count] at nothing ⊢
    exact List.getElem?_eq_none_iff.mp ((stepwise n).trans nothing)
  have grown := (tracks.faithful.holds s served _ seen).seen _ _ _ rfl
  rw [tracks.tasksOf_eq] at grown
  have atMost := grown.length_le
  have made := (inTurn.calls_prefix stepwise tracks).length_le
  have count := tracks.ledger.length_eq
  rw [List.length_map] at atMost made
  refine ⟨by omega, ?_⟩
  obtain ⟨u, isLast, moved⟩ := grown.getLast? (by rw [List.length_map]; omega) last
  rw [List.getLast?_map] at isLast
  obtain ⟨e, isTask, rfl⟩ := Option.map_eq_some_iff.mp isLast
  exact ⟨e, isTask, moved.isDone done⟩

end Process

end ServiceBroker
