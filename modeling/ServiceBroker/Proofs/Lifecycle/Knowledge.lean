import ServiceBroker.Proofs.Broker.Reports
import ServiceBroker.Proofs.Lifecycle.Acceptance

/-! What a poll knows of the tasks of its operation while nobody but itself adds any: those that it
saw are all there are, and if it took the step that was due, the task of that step is the latest one.
The backend may have moved tasks on and others may have added tasks of their own since. -/
namespace ServiceBroker

open Memory Lifecycle

/-- The call of the happening was a submission, whether or not it was carried out. -/
def Happening.submits (h : Happening) : Bool := (h.call?.bind AnyCall.submits?).isSome

theorem Happening.submits_of_created? {h : Happening} {c : AnyCall} {id : TaskId}
    (created : h.created? = some (c, id)) : h.submits := by
  obtain ⟨isCall, isSubmission⟩ := call?_of_created? created
  rw [submits, isCall]
  exact isSubmission

namespace Memory

/-- The tasks of a deployment under a context, the oldest first. -/
def Backend.tasksUnder (b : Backend) (deployment contextId : String) : List BackendTask :=
  b.tasksOf deployment fun task => task.contextId == contextId

/-- Others have been at work. Tasks have moved on and there may be new ones, but no new one of the
deployment under the context of the operation, if it has one. -/
structure World.Aside (deployment : String) (data : OperationData) (w w' : World) : Prop where
  sound : w'.backend.Sound
  kept : ∀ e ∈ w.backend.owned, ∃ f ∈ w'.backend.owned, e.Becomes f
  own : data.hasContext → List.Forall₂ BackendTask.Becomes
    (w.backend.tasksUnder deployment data.contextId)
    (w'.backend.tasksUnder deployment data.contextId)

theorem Backend.forall₂_tasksUnder {b b' : Backend} {deployment contextId : String}
    (moved : b.Moved b') :
    List.Forall₂ BackendTask.Becomes (b.tasksUnder deployment contextId)
      (b'.tasksUnder deployment contextId) := by
  unfold tasksUnder
  rw [tasksOf_eq, tasksOf_eq, List.forall₂_map_left_iff, List.forall₂_map_right_iff]
  refine List.Forall₂.imp (fun _ _ moved => OwnedTask.Becomes.task moved) ?_
  refine List.rel_filter (R := OwnedTask.Becomes) (fun _ _ moved => ?_) moved.owned
  simp only [moved.task.context, moved.deployment]

variable {deployment : String} {data : OperationData} {w w' : World}

/-- Progress alone is such work. -/
theorem World.Drifts.aside (drifts : w.Drifts w') (sound : w.backend.Sound) :
    w.Aside deployment data w' where
  sound := sound.of_moved drifts.tasks drifts.next
  kept _ member := Grown.mem (Backend.Older.of_moved drifts.tasks) member
  own _ := Backend.forall₂_tasksUnder drifts.tasks

/-- A call that submits nothing leaves the tasks as they are. -/
theorem Backend.Effect.sameTasks {c : AnyCall} {before after : Backend} {id : Option TaskId}
    (effect : Effect c before after id) (quiet : c.submits?.isSome = false) :
    before.SameTasks after := by
  cases effect with
  | none kept _ => exact kept
  | created submits =>
    rw [submits] at quiet
    cases quiet

/-- A submission under the context adds its task behind those of the context. -/
theorem Backend.Effect.tasksUnder_concat {c : AnyCall} {before after : Backend} {id : TaskId}
    {contextId : String} (effect : Effect c before after (some id))
    (target : c.submits? = some (deployment, contextId)) :
    ∃ task, task.id = id ∧
      after.tasksUnder deployment contextId = before.tasksUnder deployment contextId ++ [task] := by
  cases effect with
  | @created owner target' task submits isNext context adds =>
    obtain ⟨rfl, rfl⟩ := Prod.mk.inj (Option.some.inj (submits.symm.trans target))
    refine ⟨task, isNext, ?_⟩
    rw [tasksUnder, tasksUnder, adds.tasksOf_eq, if_pos ⟨beq_iff_eq.mpr context, rfl⟩]

/-- Any other call leaves the tasks of the context as they are. -/
theorem Backend.Effect.tasksUnder_eq {c : AnyCall} {before after : Backend} {id : Option TaskId}
    {contextId : String} (effect : Effect c before after id)
    (elsewhere : id.isSome → c.submits? ≠ some (deployment, contextId)) :
    after.tasksUnder deployment contextId = before.tasksUnder deployment contextId := by
  cases effect with
  | none kept _ => exact kept.tasksOf_eq deployment _
  | @created owner target task submits _ context adds =>
    have other : ¬ ((task.contextId == contextId) = true ∧ owner = deployment) := by
      rintro ⟨same, rfl⟩
      refine elsewhere rfl ?_
      rw [submits, ← context, beq_iff_eq.mp same]
    rw [tasksUnder, tasksUnder, adds.tasksOf_eq, if_neg other, List.append_nil]

end Memory

/-- A step that submits nothing for the deployment under the context leaves its tasks alone. -/
theorem Serving.Act.aside {deployment : String} {data : OperationData} {s s' : Serving}
    {w w' : World} {made : List Submission} (act : s.Act w s' w' made) (sound : w.backend.Sound)
    (elsewhere : data.hasContext → ∀ x ∈ made,
      x.call.submits? ≠ some (deployment, data.contextId)) : w.Aside deployment data w' where
  sound := act.sound sound
  kept _ member := Grown.mem act.older member
  own context := by
    have same : w'.backend.tasksUnder deployment data.contextId =
        w.backend.tasksUnder deployment data.contextId := by
      cases act with
      | quiet backend => rw [backend]
      | took => rfl
      | asked _ _ effect =>
        refine effect.tasksUnder_eq fun isSome => ?_
        obtain ⟨id, rfl⟩ := Option.isSome_iff_exists.mp isSome
        exact elsewhere context _ (List.mem_singleton_self _)
    rw [same]
    exact List.forall₂_same.mpr fun task _ => BackendTask.Becomes.refl task

/-- What a poll knows of the tasks: what it saw and did, up to their progress. -/
structure Knows (deployment : String) (data : OperationData) (past : List Happening) (b : Backend) :
    Prop where
  fetched : ∀ id task, .answered (.getTask id) (.ok task) ∈ past →
    task.id = id ∧ ∃ e ∈ b.owned, task.Becomes e.task
  /-- As long as it submits nothing, there are just the tasks that it saw. -/
  looked : data.hasContext → ∀ before tasks after,
    past = before ++ .look deployment data.contextId tasks :: after →
      (∀ h ∈ after, h.submits = false) →
        Grown BackendTask.Becomes tasks (b.tasksUnder deployment data.contextId) ∧
          tasks.length = (b.tasksUnder deployment data.contextId).length
  /-- After the step that it took, there is one task more. -/
  stepped : data.hasContext → ∀ tasks made after c id,
    past = .look deployment data.contextId tasks :: made :: after →
      (∀ h ∈ after, h.submits = false) → made.created? = some (c, id) →
        c.submits? = some (deployment, data.contextId) →
          (b.tasksUnder deployment data.contextId).length = tasks.length + 1 ∧
            ∃ task, (b.tasksUnder deployment data.contextId).getLast? = some task ∧ task.id = id

namespace Knows

variable {deployment : String} {data : OperationData} {past : List Happening} {b b' : Backend}
  {w w' : World}

theorem nil (deployment : String) (data : OperationData) (b : Backend) :
    Knows deployment data [] b where
  fetched _ _ impossible := nomatch impossible
  looked _ before tasks after same := by simp at same
  stepped _ tasks made after c id same := nomatch same

/-- What others do leaves it true. -/
theorem aside (knows : Knows deployment data past w.backend) (aside : w.Aside deployment data w') :
    Knows deployment data past w'.backend where
  fetched id task member := by
    obtain ⟨same, e, held, moved⟩ := knows.fetched id task member
    obtain ⟨f, held', moved'⟩ := aside.kept e held
    exact ⟨same, f, held', moved.trans moved'.task⟩
  looked context before tasks after same quiet := by
    obtain ⟨grown, count⟩ := knows.looked context before tasks after same quiet
    have own := aside.own context
    exact ⟨Grown.trans (R := BackendTask.Becomes) BackendTask.Becomes.trans grown
      (Grown.of_forall₂ own), count.trans own.length_eq⟩
  stepped context tasks made after c id same quiet created target := by
    obtain ⟨count, task, last, isId⟩ :=
      knows.stepped context tasks made after c id same quiet created target
    have own := aside.own context
    obtain ⟨later, last', moved⟩ := (Grown.of_forall₂ own).getLast? own.length_eq last
    exact ⟨own.length_eq.symm.trans count, later, last', moved.id.trans isId⟩

/-- One more happening adds to it what it shows and does. -/
theorem snoc (knows : Knows deployment data past b) {h : Happening} (older : b.Older b')
    (fetched : ∀ id task, h = .answered (.getTask id) (.ok task) →
      task.id = id ∧ ∃ e ∈ b'.owned, task.Becomes e.task)
    (looked : ∀ tasks, h = .look deployment data.contextId tasks →
      tasks = b.tasksUnder deployment data.contextId)
    (quiet : h.submits = false → b.SameTasks b')
    (stepped : ∀ c id, h.created? = some (c, id) →
      c.submits? = some (deployment, data.contextId) → ∃ task, task.id = id ∧
        b'.tasksUnder deployment data.contextId =
          b.tasksUnder deployment data.contextId ++ [task]) :
    Knows deployment data (past ++ [h]) b' := by
  have unchanged (still : h.submits = false) : b'.tasksUnder deployment data.contextId =
      b.tasksUnder deployment data.contextId := (quiet still).tasksOf_eq deployment _
  constructor
  · intro id task member
    rcases List.mem_append.mp member with old | new
    · obtain ⟨same, e, held, moved⟩ := knows.fetched id task old
      obtain ⟨f, held', moved'⟩ := Grown.mem older held
      exact ⟨same, f, held', moved.trans moved'.task⟩
    · exact fetched id task (List.mem_singleton.mp new).symm
  · intro context before tasks after same still
    rcases List.eq_nil_or_concat after with rfl | ⟨earlier, last, rfl⟩
    · obtain ⟨rfl, isLast⟩ := List.append_inj' same rfl
      have isLook := (List.cons.inj isLast).1
      rw [unchanged (isLook ▸ rfl), ← looked tasks isLook]
      exact ⟨Grown.refl BackendTask.Becomes.refl tasks, rfl⟩
    · rw [List.concat_eq_append, ← List.cons_append, ← List.append_assoc] at same
      obtain ⟨isPast, isLast⟩ := List.append_inj' same rfl
      obtain rfl := (List.cons.inj isLast).1
      rw [unchanged (still h (by simp))]
      exact knows.looked context before tasks earlier isPast fun h member => still h (by simp [member])
  · intro context tasks made after c id same still created target
    rcases List.eq_nil_or_concat after with rfl | ⟨earlier, last, rfl⟩
    · have second : past ++ [h] = [_] ++ [made] := same
      obtain ⟨isPast, isLast⟩ := List.append_inj' second rfl
      obtain rfl := (List.cons.inj isLast).1
      obtain ⟨task, isId, added⟩ := stepped c id created target
      obtain ⟨_, count⟩ := knows.looked context [] tasks [] isPast (by simp)
      rw [added, List.length_append, ← count]
      exact ⟨rfl, task, by simp, isId⟩
    · rw [List.concat_eq_append, ← List.cons_append, ← List.cons_append] at same
      obtain ⟨isPast, isLast⟩ := List.append_inj' same rfl
      obtain rfl := (List.cons.inj isLast).1
      rw [unchanged (still h (by simp))]
      exact knows.stepped context tasks made earlier c id isPast
        (fun h member => still h (by simp [member])) created target

/-- A step of the poll keeps it true. -/
theorem act {s s' : Serving} {made : List Submission}
    (knows : Knows deployment data s.past w.backend) (act : s.Act w s' w' made)
    (sound : w.backend.Sound) : Knows deployment data s'.past w'.backend := by
  cases act with
  | quiet backend => exact backend ▸ knows
  | took =>
    refine knows.snoc (Backend.Older.refl _) ?_ ?_ (fun _ => .refl _) ?_
    · rintro _ _ ⟨⟩
    · rintro _ ⟨⟩
    · rintro _ _ ⟨⟩
  | @asked k c answer rest w' id permitted course effect ids issued created answered =>
    refine knows.snoc effect.older ?_ ?_ effect.sameTasks ?_
    · rintro id task is
      cases is
      obtain ⟨deadline, read⟩ := answered task rfl
      obtain ⟨same, e, held, rfl⟩ := World.mem_of_getTask sound read
      obtain ⟨f, held', moved⟩ := Grown.mem effect.older held
      exact ⟨same, f, held', moved.task⟩
    · rintro tasks is
      cases is
      obtain ⟨deadline, read⟩ := answered tasks rfl
      exact World.eq_of_getTasksByContext read
    · intro c' id' isCreated target
      obtain ⟨taskId, rfl, same⟩ := Option.map_eq_some_iff.mp (created _ isCreated)
      cases same
      exact effect.tasksUnder_concat target

end Knows

end ServiceBroker
