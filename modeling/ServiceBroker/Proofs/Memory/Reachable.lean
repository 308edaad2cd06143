import ServiceBroker.Proofs.Memory.Growth

/-! The states of a backend in memory. Whatever is added to it, scripted or asked of it, its tasks
stand in the order of their ids, each with its deployment, and later submissions get ids that nobody
had before. Ids are words, so this is about backends that have not run out of them. -/
namespace ServiceBroker.Memory

theorem mem_insertTask {t task : BackendTask} {tasks : List BackendTask}
    (member : t ∈ insertTask task tasks) : t = task ∨ t ∈ tasks := by
  induction tasks with
  | nil => exact .inl (List.mem_singleton.mp member)
  | cons held rest ih =>
    rw [insertTask] at member
    split at member
    · exact List.mem_cons.mp member
    · split at member
      · rcases List.mem_cons.mp member with isNew | isOld
        · exact .inl isNew
        · exact .inr (List.mem_cons_of_mem held isOld)
      · rcases List.mem_cons.mp member with isHeld | later
        · exact .inr (isHeld ▸ List.mem_cons_self)
        · exact (ih later).imp_right (List.mem_cons_of_mem held)

/-- A task is put where its id belongs. -/
theorem insertTask_sorted (task : BackendTask) {tasks : List BackendTask}
    (sorted : tasks.Pairwise fun s t => s.id < t.id) :
    (insertTask task tasks).Pairwise fun s t => s.id < t.id := by
  induction tasks with
  | nil => exact List.pairwise_singleton ..
  | cons held rest ih =>
    obtain ⟨above, restSorted⟩ := List.pairwise_cons.mp sorted
    rw [insertTask]
    split
    · rename_i first
      apply List.pairwise_cons.mpr
      refine ⟨fun t member => ?_, sorted⟩
      rcases List.mem_cons.mp member with rfl | later
      · exact first
      · exact Nat.lt_trans first (above t later)
    · rename_i notFirst
      split
      · rename_i same
        exact List.pairwise_cons.mpr ⟨fun t member => same ▸ above t member, restSorted⟩
      · rename_i other
        apply List.pairwise_cons.mpr
        refine ⟨fun t member => ?_, ih restSorted⟩
        rcases mem_insertTask member with rfl | later
        · omega
        · exact above t later

/-- As long as another id follows, it is the next number. -/
theorem nextId_eq {id : TaskId} (fits : id + 1 < Json.wordBound) : nextId id = id + 1 :=
  Nat.mod_eq_of_lt fits

namespace Backend

/-- A submission can be given an id, and another one can follow. -/
def HasIdsLeft (b : Backend) : Prop := b.nextTaskId + 1 < Json.wordBound

/-- The states that a backend can come to, from an empty one, before its ids run out. -/
inductive Reachable : Backend → Prop where
  | empty : Reachable {}
  | addDeployment {b : Backend} (reachable : Reachable b) (name manifest : String) :
      Reachable (b.addDeployment name manifest)
  | addTask {b : Backend} (reachable : Reachable b) (deployment : String) {task : BackendTask}
      (fits : task.id + 1 < Json.wordBound) : Reachable (b.addTask deployment task)
  | setTaskState {b : Backend} (reachable : Reachable b) (id : TaskId) (state : TaskState) :
      Reachable (b.setTaskState id state)
  | setFailure {b : Backend} (reachable : Reachable b) (kind : CallKind)
      (failure : Option BackendError) : Reachable (b.setFailure kind failure)
  /-- The machines of deployments, the state of new tasks and the time a deploy takes are set. -/
  | configure {b : Backend} (reachable : Reachable b) (vms : NameMap Topology)
      (submittedState : TaskState) (deployDelay : Option Millis) :
      Reachable { b with vms, submittedState, deployDelay }
  | serve {w : World} (reachable : Reachable w.backend) (deadline : Option Millis) {k : CallKind}
      (c : Call k) (left : (AnyCall.submits? ⟨k, c⟩).isSome → w.backend.HasIdsLeft) :
      Reachable (World.serveInWords deadline c w).2.backend

variable {b : Backend}

theorem Sound.addTask (sound : b.Sound) (deployment : String) {task : BackendTask}
    (fits : task.id + 1 < Json.wordBound) : (b.addTask deployment task).Sound where
  sorted := insertTask_sorted task sound.sorted
  below t member := by
    change t.id < max b.nextTaskId (nextId task.id)
    rw [nextId_eq fits]
    rcases mem_insertTask member with rfl | isOld
    · exact Nat.lt_of_lt_of_le (Nat.lt_succ_self _) (Nat.le_max_right ..)
    · exact Nat.lt_of_lt_of_le (sound.below t isOld) (Nat.le_max_left ..)
  owned t member := by
    change ∃ owner, (if t.id = task.id then some deployment else b.owners t.id) = some owner
    split
    · exact ⟨deployment, rfl⟩
    · rename_i other
      rcases mem_insertTask member with rfl | isOld
      · exact absurd rfl other
      · exact sound.owned t isOld

/-- The state of a task has nothing to do with its place. -/
theorem Sound.setTaskState (sound : b.Sound) (id : TaskId) (state : TaskState) :
    (b.setTaskState id state).Sound := by
  have same (t : BackendTask) :
      (if t.id = id then ({ t with state } : BackendTask) else t).id = t.id := by
    split <;> rfl
  constructor
  · refine List.pairwise_map.mpr (sound.sorted.imp fun {s t} ordered => ?_)
    rw [same, same]
    exact ordered
  · intro t member
    obtain ⟨s, isHeld, rfl⟩ := List.mem_map.mp member
    rw [same]
    exact sound.below s isHeld
  · intro t member
    obtain ⟨s, isHeld, rfl⟩ := List.mem_map.mp member
    rw [same]
    exact sound.owned s isHeld

/-- Nothing starts over while the next id is a word. -/
theorem wrapped_eq_self (words : b.nextTaskId < Json.wordBound) : b.wrapped = b := by
  rw [wrapped, Nat.mod_eq_of_lt words]

theorem Effect.next_le {c : AnyCall} {before after : Backend} {id : Option TaskId}
    (effect : Effect c before after id) : before.nextTaskId ≤ after.nextTaskId := by
  cases effect with
  | none _ next => exact Nat.le_of_eq next.symm
  | created _ _ _ _ next => exact next ▸ Nat.le_succ _

/-- If ids are left, the next one is still a word after a call. -/
theorem Effect.next_lt {c : AnyCall} {before after : Backend} {id : Option TaskId}
    (effect : Effect c before after id) (words : before.nextTaskId < Json.wordBound)
    (left : c.submits?.isSome → before.HasIdsLeft) : after.nextTaskId < Json.wordBound := by
  cases effect with
  | none _ next => exact next ▸ words
  | created submits _ _ _ next => exact next ▸ left (submits ▸ rfl)

end Backend

/-- While ids are left, it makes no difference that they are words. -/
theorem World.serveInWords_eq {w : World} (sound : w.backend.Sound)
    (words : w.backend.nextTaskId < Json.wordBound) (deadline : Option Millis) {k : CallKind}
    {c : Call k} (left : (AnyCall.submits? ⟨k, c⟩).isSome → w.backend.HasIdsLeft) :
    serveInWords deadline c w = serve deadline c w := by
  obtain ⟨_, effect, _⟩ := answered_serve sound deadline c
  have still : (serve deadline c w).2.backend.wrapped = (serve deadline c w).2.backend :=
    Backend.wrapped_eq_self (effect.next_lt words left)
  simp only [serveInWords, still]

namespace World

/-- The world as programs notice it, where ids of tasks are words. -/
def handlerInWords (deadline : Option Millis) : Program.Handler World :=
  { handler deadline with serve := fun _ c w => serveInWords deadline c w }

variable {α : Type}

/-- Programs use ids up. -/
theorem next_le_run (p : Program α) (deadline : Option Millis) {w : World}
    (sound : w.backend.Sound) :
    w.backend.nextTaskId ≤ (p.run (handler deadline) w).2.backend.nextTaskId := by
  induction p generalizing w with
  | done a => exact Nat.le_refl _
  | call c span next ih =>
    obtain ⟨_, effect, _⟩ := answered_serve sound deadline c
    exact Nat.le_trans effect.next_le (ih _ (effect.sound sound))
  | log event next ih => exact ih (w := w.note event) sound
  | lock kind id next ih =>
    obtain ⟨locks, frame⟩ := w.acquire_frame kind id
    have same : (w.acquire kind id).2.backend = w.backend := by rw [frame]
    have onward := ih (w.acquire kind id).1 (w := (w.acquire kind id).2) (same ▸ sound)
    rw [same] at onward
    exact onward
  | unlock kind id next ih => exact ih (w := w.release kind id) sound
  | fresh next ih => exact ih w.issue.1 (w := w.issue.2) sound

/-- A program that ids are left after runs as if there were no end of them. -/
theorem run_inWords (p : Program α) (deadline : Option Millis) {w : World}
    (sound : w.backend.Sound)
    (left : (p.run (handler deadline) w).2.backend.nextTaskId < Json.wordBound) :
    p.run (handlerInWords deadline) w = p.run (handler deadline) w := by
  induction p generalizing w with
  | done a => rfl
  | call c span next ih =>
    obtain ⟨_, effect, _⟩ := answered_serve sound deadline c
    have later := effect.sound sound
    have words : (serve deadline c w).2.backend.nextTaskId < Json.wordBound :=
      Nat.lt_of_le_of_lt (next_le_run (next (serve deadline c w).1) deadline later) left
    have same : serveInWords deadline c w = serve deadline c w := by
      simp only [serveInWords, Backend.wrapped_eq_self words]
    change (next (serveInWords deadline c w).1).run (handlerInWords deadline)
      (serveInWords deadline c w).2 = _
    rw [same]
    exact ih (serve deadline c w).1 later left
  | log event next ih => exact ih (w := w.note event) sound left
  | lock kind id next ih =>
    obtain ⟨locks, frame⟩ := w.acquire_frame kind id
    have same : (w.acquire kind id).2.backend = w.backend := by rw [frame]
    exact ih (w.acquire kind id).1 (w := (w.acquire kind id).2) (same ▸ sound) left
  | unlock kind id next ih => exact ih (w := w.release kind id) sound left
  | fresh next ih => exact ih w.issue.1 (w := w.issue.2) sound left

end World

namespace Backend

/-- What is true of the ids of a backend that has not run out of them. -/
structure Counting (b : Backend) : Prop where
  sound : b.Sound
  /-- Submitted tasks have high ids. -/
  since : firstSubmittedId ≤ b.nextTaskId
  words : b.nextTaskId < Json.wordBound

/-- It is true of every state that a backend can come to. -/
theorem Reachable.counting {b : Backend} (reachable : b.Reachable) : b.Counting := by
  induction reachable with
  | empty => exact ⟨sound_empty, Nat.le_refl _, by decide⟩
  | addTask _ deployment fits ih =>
    refine ⟨ih.sound.addTask deployment fits, Nat.le_trans ih.since (Nat.le_max_left ..), ?_⟩
    exact Nat.max_lt.mpr ⟨ih.words, nextId_eq fits ▸ fits⟩
  | setTaskState _ id state ih => exact ⟨ih.sound.setTaskState id state, ih.since, ih.words⟩
  | addDeployment _ _ _ ih => exact ⟨ih.sound.congr ⟨rfl, rfl⟩ rfl, ih.since, ih.words⟩
  | setFailure _ _ _ ih => exact ⟨ih.sound.congr ⟨rfl, rfl⟩ rfl, ih.since, ih.words⟩
  | configure _ _ _ _ ih => exact ⟨ih.sound.congr ⟨rfl, rfl⟩ rfl, ih.since, ih.words⟩
  | serve _ deadline c left ih =>
    rw [World.serveInWords_eq ih.sound ih.words deadline left]
    obtain ⟨_, effect, _⟩ := World.answered_serve ih.sound deadline c
    exact ⟨effect.sound ih.sound, Nat.le_trans ih.since effect.next_le,
      effect.next_lt ih.words left⟩

theorem Reachable.sound {b : Backend} (reachable : b.Reachable) : b.Sound :=
  reachable.counting.sound

end Backend

end ServiceBroker.Memory
