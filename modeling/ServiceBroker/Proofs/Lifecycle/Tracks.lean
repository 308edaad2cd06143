import ServiceBroker.Proofs.Process.Opening

/-! An operation with several steps, in a process that polls it. However the polls interleave, each
submission under the context is the step that was due after the tasks its poll had seen, and the
last of those tasks was done. -/
namespace ServiceBroker

open Memory Lifecycle

/-- A poll under the context of an operation brings its own operation data. Other requests do not
matter, and polls without a context are under no operation's. -/
def Request.Genuine (data : OperationData) (request : Request) : Prop :=
  ∀ token d, request.polled? = some token → OperationData.decode token = .ok d →
    d.contextId = data.contextId → d.contextId ≠ "" → d = data

/-- The steps of an operation in their order; polls take all but the first. -/
def Lifecycle.Stepwise (offering : Offering) (deployment : String) (data : OperationData)
    (steps : List AnyCall) : Prop :=
  ∀ n, steps[n + 1]? = stepAfter? offering deployment data (n + 1)

namespace Lifecycle

variable {offering : Offering} {deployment : String} {data : OperationData}
  {tasks : List BackendTask} {c : AnyCall}

theorem submits_of_stepAfter? {n : Nat} (due : stepAfter? offering deployment data n = some c) :
    c.submits? = some (deployment, data.contextId) := by
  unfold stepAfter? at due
  split at due
  · split at due
    · obtain ⟨e, _, rfl⟩ := Option.map_eq_some_iff.mp due
      rfl
    · cases due
  · split at due
    · cases due
      rfl
    · obtain ⟨e, _, rfl⟩ := Option.map_eq_some_iff.mp due
      rfl

/-- A step is due if the last task is done and it is the step after that many tasks. -/
theorem nextStep?_eq_some : nextStep? offering deployment data tasks = some c ↔
    (∃ task, tasks.getLast? = some task ∧ task.isDone) ∧
      stepAfter? offering deployment data tasks.length = some c := by
  unfold nextStep?
  cases tasks.getLast? with
  | none => simp
  | some task => cases done : task.isDone <;> simp [done]

end Lifecycle

/-- Tasks of submissions for one deployment work on that deployment. -/
theorem Paired.deployment_eq {tasks : List OwnedTask} {made : List Submission}
    {deployment contextId : String} (paired : Paired tasks made)
    (owned : ∀ x ∈ made, x.call.submits? = some (deployment, contextId)) {e : OwnedTask}
    (member : e ∈ tasks) : e.deployment = deployment := by
  obtain ⟨k, held⟩ := List.mem_iff_getElem?.mp member
  obtain ⟨x, isMade, isOf⟩ := paired.getElem?_task held
  have submits := owned x (List.mem_of_getElem? isMade)
  exact (Prod.mk.inj (Option.some.inj (isOf.2.symm.trans submits))).1

/-- If all submissions under a context are for one deployment, a look at the tasks of that
deployment under the context sees all tasks of the context. -/
theorem Paired.tasksOf_eq {b : Backend} {made : List Submission} {deployment contextId : String}
    (paired : Paired (b.under contextId) made)
    (owned : ∀ x ∈ made, x.call.submits? = some (deployment, contextId)) :
    b.tasksOf deployment (fun task => task.contextId == contextId) =
      (b.under contextId).map OwnedTask.task := by
  rw [Backend.tasksOf_eq]
  congr 1
  refine List.filter_congr fun e member => ?_
  cases same : e.task.contextId == contextId with
  | false => simp
  | true =>
    have isUnder : e ∈ b.under contextId := List.mem_filter.mpr ⟨member, same⟩
    simp [paired.deployment_eq owned isUnder]

namespace Process

/-- The process has the operation under its control: the request that opened it is answered, every
poll of it brings its data, and the submissions under its context are its steps. -/
structure Tracks (config : BrokerConfig) (start : World) (deployment : String)
    (data : OperationData) (steps : List AnyCall) (p : Process) : Prop where
  proper : data.contextId ≠ ""
  faithful : p.Faithful config start
  ledger : p.Ledger data.contextId
  holder : ∃ s, p.servings[0]? = some s ∧ .issued data.contextId ∈ s.past ∧ s.response?.isSome
  genuine : ∀ i s, 0 < i → p.servings[i]? = some s → s.request.Genuine data
  owned : ∀ x ∈ p.under data.contextId, x.call.submits? = some (deployment, data.contextId)
  first : ∃ x, (p.under data.contextId)[0]? = some x ∧ steps[0]? = some x.call ∧
    x.taskId = data.taskId
  later : ∀ k x, (p.under data.contextId)[k + 1]? = some x → ∃ tasks,
    x.past = [.look deployment data.contextId tasks] ∧
      nextStep? config.offering deployment data tasks = some x.call

variable {config : BrokerConfig} {admits : Process → Request → Prop} {start : World}
  {deployment : String} {data : OperationData} {steps : List AnyCall} {p p' : Process}

/-- The tasks of the operation work on its deployment. -/
theorem Tracks.deployment_eq (tracks : p.Tracks config start deployment data steps) {e : OwnedTask}
    (member : e ∈ p.world.backend.under data.contextId) : e.deployment = deployment :=
  tracks.ledger.paired.deployment_eq tracks.owned member

/-- So a look at them sees all of them. -/
theorem Tracks.tasksOf_eq (tracks : p.Tracks config start deployment data steps) :
    p.world.backend.tasksOf deployment (fun task => task.contextId == data.contextId) =
      (p.world.backend.under data.contextId).map OwnedTask.task :=
  tracks.ledger.paired.tasksOf_eq tracks.owned

/-- Whoever has seen a task of the operation has looked at its deployment. -/
theorem Tracks.deployment_of_seen (tracks : p.Tracks config start deployment data steps)
    {s : Serving} (served : s ∈ p.servings) {target : String} {tasks : List BackendTask}
    (seen : .look target data.contextId tasks ∈ s.past) {task : BackendTask} (member : task ∈ tasks) :
    target = deployment := by
  have grown := (tracks.faithful.holds s served _ seen).seen _ _ _ rfl
  obtain ⟨u, inside, _⟩ := grown.mem member
  rw [Backend.tasksOf_eq] at inside
  obtain ⟨e, found, rfl⟩ := List.mem_map.mp inside
  obtain ⟨held, is⟩ := List.mem_filter.mp found
  simp only [Bool.and_eq_true, beq_iff_eq] at is
  rw [← is.2]
  exact tracks.deployment_eq (List.mem_filter.mpr ⟨held, beq_iff_eq.mpr is.1⟩)

/-- Only a poll submits anything under the context, and it is the step that is due. -/
theorem Tracks.permits (tracks : p.Tracks config start deployment data steps) {i : Nat}
    {s s' : Serving} {w : World} {made : List Submission} (served : p.servings[i]? = some s)
    (unanswered : s.response? = none) (act : s.Act p.world s' w made) {x : Submission}
    (member : x ∈ made) (isUnder : x.isUnder data.contextId) :
    x.call.submits? = some (deployment, data.contextId) ∧ ∃ tasks,
      s.past = [.look deployment data.contextId tasks] ∧
        nextStep? config.offering deployment data tasks = some x.call := by
  obtain ⟨target, submits⟩ := Submission.isUnder_iff.mp isUnder
  obtain ⟨_, _, _, permitted⟩ := act.made_spec member
  have keeps := tracks.faithful.keeps s (List.mem_of_getElem? served)
  have rule := permitted keeps
  obtain ⟨holder, isFirst, isHeld, isAnswered⟩ := tracks.holder
  have notFirst : i ≠ 0 := by
    rintro rfl
    obtain rfl := Option.some.inj (served.symm.trans isFirst)
    rw [unanswered] at isAnswered
    cases isAnswered
  unfold Request.Permits at rule
  split at rule
  · obtain ⟨_, empty | issued, _⟩ := rule target data.contextId submits
    · -- the context was issued and is thus not the empty one
      exact absurd empty tracks.proper
    · exact absurd (tracks.faithful.apart i 0 s holder _ served isFirst issued isHeld) notFirst
  · rename_i token polled
    obtain ⟨d, read, step⟩ := rule (by simp [submits])
    obtain ⟨_, tasks, past, due⟩ := step (by simp [submits])
    have submits' := submits_of_stepAfter? (nextStep?_eq_some.mp due).2
    obtain ⟨rfl, sameContext⟩ := Prod.mk.inj (Option.some.inj (submits.symm.trans submits'))
    obtain rfl := tracks.genuine i s (Nat.pos_of_ne_zero notFirst) served token d polled read
      sameContext.symm (sameContext ▸ tracks.proper)
    obtain ⟨⟨task, last, _⟩, _⟩ := nextStep?_eq_some.mp due
    have same := tracks.deployment_of_seen (List.mem_of_getElem? served)
      (past ▸ List.mem_singleton_self _) (List.mem_of_getLast? last)
    rw [same] at submits past due
    exact ⟨submits, tasks, past, due⟩

theorem Tracks.act (distinct : ∀ m n, start.ids m = start.ids n → m = n)
    (tracks : p.Tracks config start deployment data steps) {i : Nat} {s s' : Serving} {w : World}
    {made : List Submission} (served : p.servings[i]? = some s) (unanswered : s.response? = none)
    (act : s.Act p.world s' w made) :
    Tracks config start deployment data steps
      ⟨w, p.servings.set i s', p.submissions ++ made⟩ := by
  have all : under data.contextId ⟨w, p.servings.set i s', p.submissions ++ made⟩ =
      p.under data.contextId ++ made.filter (·.isUnder data.contextId) := List.filter_append ..
  have new {x : Submission} (member : x ∈ made.filter (·.isUnder data.contextId)) :=
    tracks.permits served unanswered act (List.mem_filter.mp member).1 (List.mem_filter.mp member).2
  obtain ⟨holder, isFirst, isHeld, isAnswered⟩ := tracks.holder
  have notFirst : i ≠ 0 := by
    rintro rfl
    obtain rfl := Option.some.inj (served.symm.trans isFirst)
    rw [unanswered] at isAnswered
    cases isAnswered
  constructor
  · exact tracks.proper
  · exact tracks.faithful.act distinct served act
  · exact tracks.ledger.act act
  · exact ⟨holder, by rwa [List.getElem?_set_ne notFirst], isHeld, isAnswered⟩
  · intro j t positive isServed
    by_cases same : i = j
    · subst same
      obtain ⟨inside, _⟩ := List.getElem?_eq_some_iff.mp served
      rw [List.getElem?_set_self inside] at isServed
      rw [← Option.some.inj isServed, act.request_eq]
      exact tracks.genuine i s positive served
    · rw [List.getElem?_set_ne same] at isServed
      exact tracks.genuine j t positive isServed
  · intro x member
    rw [all] at member
    rcases List.mem_append.mp member with old | isNew
    · exact tracks.owned x old
    · exact (new isNew).1
  · obtain ⟨x, held, isStep⟩ := tracks.first
    exact ⟨x, by rw [all]; exact getElem?_append_of_eq_some held _, isStep⟩
  · intro k x held
    rw [all, List.getElem?_append] at held
    split at held
    · exact tracks.later k x held
    · obtain ⟨_, _, _, permitted⟩ := act.made_spec
        (List.mem_filter.mp (List.mem_of_getElem? held)).1
      obtain ⟨_, tasks, past, due⟩ := new (List.mem_of_getElem? held)
      exact ⟨tasks, by rw [‹x.past = _›, past], due⟩

/-- Every step keeps the operation under control. -/
theorem Tracks.step (distinct : ∀ m n, start.ids m = start.ids n → m = n)
    (genuine : ∀ p r, admits p r → r.Genuine data)
    (tracks : p.Tracks config start deployment data steps) (step : Step config admits p p') :
    p'.Tracks config start deployment data steps := by
  cases step.move tracks.faithful.sound with
  | still => exact tracks
  | @received request admitted =>
    refine ⟨tracks.proper, tracks.faithful.receive request,
      ⟨tracks.ledger.paired, tracks.ledger.earlier⟩, ?_, ?_, tracks.owned, tracks.first,
      tracks.later⟩
    · obtain ⟨holder, isFirst, isHeld⟩ := tracks.holder
      exact ⟨holder, getElem?_append_of_eq_some isFirst _, isHeld⟩
    · intro i s positive served
      rw [Process.receive, List.getElem?_append] at served
      split at served
      · exact tracks.genuine i s positive served
      · rw [List.mem_singleton.mp (List.mem_of_getElem? served)]
        exact genuine _ _ admitted
  | drifted drifts =>
    exact ⟨tracks.proper, tracks.faithful.drift drifts, tracks.ledger.drift drifts, tracks.holder,
      tracks.genuine, tracks.owned, tracks.first, tracks.later⟩
  | acted served waiting act => exact tracks.act distinct served waiting act

/-- So does every run. -/
theorem Tracks.run (distinct : ∀ m n, start.ids m = start.ids n → m = n)
    (genuine : ∀ p r, admits p r → r.Genuine data)
    (tracks : p.Tracks config start deployment data steps) (run : Run config admits p p') :
    p'.Tracks config start deployment data steps := by
  induction run with
  | refl => exact tracks
  | tail _ step ih => exact ih.step distinct genuine step

end Process

end ServiceBroker
