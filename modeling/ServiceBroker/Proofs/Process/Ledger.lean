import ServiceBroker.Proofs.Process.Record

/-! The tasks of a context and the submissions under it, side by side. If a context had no tasks in
the beginning, each of its tasks is that of one submission, in the order in which they were made; so
the number of tasks that were there says which submission it was. -/
namespace ServiceBroker

open Memory

/-- The submission is made under a context. -/
def Submission.isUnder (contextId : String) (x : Submission) : Bool :=
  x.call.submits?.any fun target => target.2 == contextId

theorem Submission.isUnder_iff {contextId : String} {x : Submission} :
    x.isUnder contextId ↔ ∃ deployment, x.call.submits? = some (deployment, contextId) := by
  unfold isUnder
  cases x.call.submits? with
  | none => simp
  | some target => simp [Prod.ext_iff]

/-- Tasks and submissions belong together one by one. -/
def Paired (tasks : List OwnedTask) (made : List Submission) : Prop :=
  List.Forall₂ (fun e x => x.Of e) tasks made

theorem Paired.later {tasks tasks' : List OwnedTask} {made : List Submission}
    (paired : Paired tasks made) (moved : List.Forall₂ OwnedTask.Becomes tasks tasks') :
    Paired tasks' made := by
  induction paired generalizing tasks' with
  | nil => cases moved; exact .nil
  | cons isOf _ ih =>
    cases moved with
    | cons moved rest => exact .cons (isOf.later moved) (ih rest)

theorem Paired.snoc {tasks : List OwnedTask} {made : List Submission} (paired : Paired tasks made)
    {e : OwnedTask} {x : Submission} (isOf : x.Of e) : Paired (tasks ++ [e]) (made ++ [x]) := by
  induction paired with
  | nil => exact .cons isOf .nil
  | cons first _ ih => exact .cons first ih

theorem Paired.getElem? {tasks : List OwnedTask} {made : List Submission}
    (paired : Paired tasks made) {k : Nat} {x : Submission} (held : made[k]? = some x) :
    ∃ e, tasks[k]? = some e ∧ x.Of e := by
  induction paired generalizing k with
  | nil => cases held
  | cons isOf _ ih =>
    cases k with
    | zero => cases held; exact ⟨_, rfl, isOf⟩
    | succ k => exact ih held

theorem Paired.getElem?_task {tasks : List OwnedTask} {made : List Submission}
    (paired : Paired tasks made) {k : Nat} {e : OwnedTask} (held : tasks[k]? = some e) :
    ∃ x, made[k]? = some x ∧ x.Of e := by
  induction paired generalizing k with
  | nil => cases held
  | cons isOf _ ih =>
    cases k with
    | zero => cases held; exact ⟨_, rfl, isOf⟩
    | succ k => exact ih held

namespace Serving.Act

variable {s s' : Serving} {w w' : World} {made : List Submission}

/-- A submission is for a task, and the request hears something about it. -/
theorem made_answered (act : s.Act w s' w' made) {x : Submission} (member : x ∈ made) :
    x.call.submits?.isSome ∧ made = [x] ∧
      ∃ answer, s'.past = s.past ++ [.answered x.call.call answer] := by
  cases act with
  | quiet => cases member
  | took => cases member
  | @asked k c answer rest w' id permitted course effect ids issued created answered =>
    cases effect with
    | none => cases member
    | created submits =>
      cases List.mem_singleton.mp member
      exact ⟨by simp [submits], rfl, answer, rfl⟩

/-- What a step adds to the tasks of a context it adds to the submissions under it. -/
theorem under (act : s.Act w s' w' made) (contextId : String) :
    (made.filter (·.isUnder contextId) = [] ∧
      w'.backend.under contextId = w.backend.under contextId) ∨
    ∃ x e, made.filter (·.isUnder contextId) = [x] ∧ x ∈ made ∧ x.isUnder contextId ∧ x.Of e ∧
      w'.backend.under contextId = w.backend.under contextId ++ [e] := by
  cases act with
  | quiet backend => exact .inl ⟨rfl, by rw [backend]⟩
  | took => exact .inl ⟨rfl, rfl⟩
  | @asked k c answer rest w' id permitted course effect ids issued created answered =>
    cases effect with
    | none kept => exact .inl ⟨rfl, by rw [Backend.under, kept.owned, Backend.under]⟩
    | @created deployment target task submits isNext context adds next =>
      have added : w'.backend.under contextId = w.backend.under contextId ++
          [(⟨deployment, task⟩ : OwnedTask)].filter fun e => e.task.contextId == contextId := by
        rw [Backend.under, adds.owned, List.filter_append, Backend.under]
      by_cases same : target = contextId
      · subst same
        refine .inr ⟨_, ⟨deployment, task⟩, ?_, List.mem_singleton_self _, ?_, ?_, ?_⟩
        · simp [Submission.isUnder, submits]
        · simp [Submission.isUnder, submits]
        · exact ⟨isNext, by rw [submits, context]⟩
        · rw [added]
          simp [context]
      · refine .inl ⟨?_, ?_⟩
        · simp [Submission.isUnder, submits, same]
        · rw [added]
          simp [context, same]

end Serving.Act

namespace Process

/-- The submissions under a context, the oldest first. -/
def under (contextId : String) (p : Process) : List Submission :=
  p.submissions.filter (·.isUnder contextId)

/-- The tasks of a context are those of the submissions under it, now and at each of them. -/
structure Ledger (contextId : String) (p : Process) : Prop where
  paired : Paired (p.world.backend.under contextId) (p.under contextId)
  earlier : ∀ k x, (p.under contextId)[k]? = some x →
    Paired (x.before.under contextId) ((p.under contextId).take k)

variable {config : BrokerConfig} {admits : Process → Request → Prop} {start : World}
  {p p' : Process} {contextId : String}

/-- There are as many tasks as submissions. -/
theorem Ledger.length_eq (ledger : p.Ledger contextId) :
    (p.world.backend.under contextId).length = (p.under contextId).length :=
  List.Forall₂.length_eq ledger.paired

/-- So there were before each submission. -/
theorem Ledger.length_before (ledger : p.Ledger contextId) {k : Nat} {x : Submission}
    (held : (p.under contextId)[k]? = some x) : (x.before.under contextId).length = k := by
  rw [List.Forall₂.length_eq (ledger.earlier k x held)]
  obtain ⟨inside, _⟩ := List.getElem?_eq_some_iff.mp held
  rw [List.length_take]
  omega

theorem Ledger.drift (ledger : p.Ledger contextId) {world : World}
    (drifts : p.world.Drifts world) : ({ p with world } : Process).Ledger contextId where
  paired := ledger.paired.later (drifts.tasks.under contextId)
  earlier := ledger.earlier

theorem Ledger.act (ledger : p.Ledger contextId) {i : Nat} {s s' : Serving} {w : World}
    {made : List Submission} (act : s.Act p.world s' w made) :
    Ledger contextId ⟨w, p.servings.set i s', p.submissions ++ made⟩ := by
  have all : under contextId ⟨w, p.servings.set i s', p.submissions ++ made⟩ =
      p.under contextId ++ made.filter (·.isUnder contextId) := List.filter_append ..
  rcases act.under contextId with ⟨nothing, same⟩ | ⟨x, e, only, member, _, isOf, added⟩
  · rw [nothing, List.append_nil] at all
    constructor
    · rw [all]
      exact same ▸ ledger.paired
    · rw [all]
      exact ledger.earlier
  · rw [only] at all
    constructor
    · rw [all]
      exact added ▸ ledger.paired.snoc isOf
    · intro k y held
      rw [all] at held ⊢
      rcases Nat.lt_or_ge k (p.under contextId).length with old | new
      · rw [List.getElem?_append_left old] at held
        rw [List.take_append_of_le_length (Nat.le_of_lt old)]
        exact ledger.earlier k y held
      · rw [List.getElem?_append_right new] at held
        have last : k = (p.under contextId).length := by
          obtain ⟨inside, _⟩ := List.getElem?_eq_some_iff.mp held
          simp only [List.length_singleton] at inside
          omega
        subst last
        simp only [Nat.sub_self, List.getElem?_cons_zero, Option.some.injEq] at held
        obtain ⟨_, _, before, _⟩ := act.made_spec member
        rw [← held, before, List.take_left]
        exact ledger.paired

theorem Ledger.step (faithful : p.Faithful config start) (ledger : p.Ledger contextId)
    (step : Step config admits p p') : p'.Ledger contextId := by
  cases step.move faithful.sound with
  | still => exact ledger
  | received _ => exact ⟨ledger.paired, ledger.earlier⟩
  | drifted drifts => exact ledger.drift drifts
  | acted _ _ act => exact ledger.act act

theorem Ledger.run (distinct : ∀ m n, start.ids m = start.ids n → m = n)
    (faithful : p.Faithful config start) (ledger : p.Ledger contextId)
    (run : Run config admits p p') : p'.Ledger contextId := by
  have both : p'.Faithful config start ∧ p'.Ledger contextId := by
    induction run with
    | refl => exact ⟨faithful, ledger⟩
    | tail _ step ih => exact ⟨ih.1.step distinct step, ih.2.step ih.1 step⟩
  exact both.2

/-- The ledger of a context without tasks is kept from the beginning. -/
theorem ledger_alone (request : Request) (empty : start.backend.under contextId = []) :
    (alone config start request).Ledger contextId where
  paired := by
    change Paired (start.backend.under contextId) []
    rw [empty]
    exact .nil
  earlier _ _ impossible := nomatch impossible

end Process

end ServiceBroker
