import Mathlib.Data.List.Forall2
import ServiceBroker.Memory.World
import ServiceBroker.Proofs.Broker.Quiet

/-! How the tasks of a backend change. Tasks move along the transitions of their states, submissions
add new tasks behind the others, and nothing else happens to them. What was once read of a task thus
stays true up to its progress. -/
namespace ServiceBroker

namespace TaskState

theorem canTransitionTo_refl (s : TaskState) : s.canTransitionTo s := by cases s <;> rfl

theorem canTransitionTo_trans {s t u : TaskState} (first : s.canTransitionTo t)
    (second : t.canTransitionTo u) : s.canTransitionTo u := by
  cases s <;> cases t <;> first
    | exact absurd first Bool.false_ne_true
    | cases u <;> first
      | rfl
      | exact absurd second Bool.false_ne_true

/-- A task that is done stays done. -/
theorem eq_done_of_canTransitionTo {s : TaskState} (moves : done.canTransitionTo s) : s = done := by
  cases s <;> first
    | rfl
    | exact absurd moves Bool.false_ne_true

end TaskState

/-- A task as it was read, and as it may be found later. -/
structure BackendTask.Becomes (earlier later : BackendTask) : Prop where
  id : later.id = earlier.id
  context : later.contextId = earlier.contextId
  moves : earlier.state.canTransitionTo later.state

namespace BackendTask.Becomes

variable {t u v : BackendTask}

theorem refl (t : BackendTask) : t.Becomes t := ⟨rfl, rfl, t.state.canTransitionTo_refl⟩

theorem trans (first : t.Becomes u) (second : u.Becomes v) : t.Becomes v :=
  ⟨second.id.trans first.id, second.context.trans first.context,
    TaskState.canTransitionTo_trans first.moves second.moves⟩

theorem isDone (becomes : t.Becomes u) (finished : t.isDone) : u.isDone := by
  have state : t.state = .done := by
    cases state : t.state <;> simp_all [BackendTask.isDone, TaskState.isDone]
  have moved := TaskState.eq_done_of_canTransitionTo (state ▸ becomes.moves)
  simp [BackendTask.isDone, TaskState.isDone, moved]

end BackendTask.Becomes

/-! Lists that only grow at their end, while their elements move on. -/

section

variable {α β : Type} {R : α → α → Prop}

/-- The elements of a list are still there, moved on, and more may follow them. -/
inductive Grown (R : α → α → Prop) : List α → List α → Prop where
  | nil (later : List α) : Grown R [] later
  | cons {a b : α} {earlier later : List α} (moved : R a b) (rest : Grown R earlier later) :
      Grown R (a :: earlier) (b :: later)

namespace Grown

theorem append (refl : ∀ a, R a a) (l added : List α) : Grown R l (l ++ added) := by
  induction l with
  | nil => exact .nil added
  | cons a rest ih => exact .cons (refl a) ih

theorem refl (refl : ∀ a, R a a) (l : List α) : Grown R l l := by
  simpa using append refl l []

theorem trans (trans : ∀ {a b c}, R a b → R b c → R a c) {l m n : List α} (first : Grown R l m)
    (second : Grown R m n) : Grown R l n := by
  induction first generalizing n with
  | nil => exact .nil n
  | cons moved rest ih =>
    cases second with
    | cons moves rest' => exact .cons (trans moved moves) (ih rest')

theorem length_le {l m : List α} (grown : Grown R l m) : l.length ≤ m.length := by
  induction grown with
  | nil => exact Nat.zero_le _
  | cons _ _ ih => exact Nat.succ_le_succ ih

theorem getElem? {l m : List α} (grown : Grown R l m) {n : Nat} {a : α} (held : l[n]? = some a) :
    ∃ b, m[n]? = some b ∧ R a b := by
  induction grown generalizing n with
  | nil => cases held
  | cons moved _ ih =>
    cases n with
    | zero => cases held; exact ⟨_, rfl, moved⟩
    | succ n => exact ih held

theorem mem {l m : List α} (grown : Grown R l m) {a : α} (member : a ∈ l) : ∃ b ∈ m, R a b := by
  obtain ⟨n, held⟩ := List.mem_iff_getElem?.mp member
  obtain ⟨b, found, moved⟩ := grown.getElem? held
  exact ⟨b, List.mem_of_getElem? found, moved⟩

theorem filter {l m : List α} (grown : Grown R l m) {p : α → Bool}
    (stable : ∀ {a b}, R a b → p b = p a) : Grown R (l.filter p) (m.filter p) := by
  induction grown with
  | nil => exact .nil _
  | @cons a b _ _ moved _ ih =>
    cases held : p a with
    | true =>
      rw [List.filter_cons_of_pos held, List.filter_cons_of_pos ((stable moved).trans held)]
      exact .cons moved ih
    | false =>
      have gone : ¬ p a = true := by simp [held]
      have gone' : ¬ p b = true := by simp [stable moved, held]
      rw [List.filter_cons_of_neg gone, List.filter_cons_of_neg gone']
      exact ih

theorem map {S : β → β → Prop} {f : α → β} {l m : List α} (grown : Grown R l m)
    (moves : ∀ {a b}, R a b → S (f a) (f b)) : Grown S (l.map f) (m.map f) := by
  induction grown with
  | nil => exact .nil _
  | cons moved _ ih => exact .cons (moves moved) ih

theorem of_forall₂ {l m : List α} (moved : List.Forall₂ R l m) : Grown R l m := by
  induction moved with
  | nil => exact .nil _
  | cons moved _ ih => exact .cons moved ih

/-- If nothing was added, the last element is still the last one. -/
theorem getLast? {l m : List α} (grown : Grown R l m) (same : l.length = m.length) {a : α}
    (last : l.getLast? = some a) : ∃ b, m.getLast? = some b ∧ R a b := by
  rw [List.getLast?_eq_getElem?] at last ⊢
  rw [← same]
  exact grown.getElem? last

end Grown

end

namespace Memory

/-- A task and the deployment it works on. -/
structure OwnedTask where
  deployment : String
  task : BackendTask

/-- A task that was seen with its deployment, and as it may be found later. -/
structure OwnedTask.Becomes (earlier later : OwnedTask) : Prop where
  deployment : later.deployment = earlier.deployment
  task : earlier.task.Becomes later.task

namespace OwnedTask.Becomes

variable {e f g : OwnedTask}

theorem refl (e : OwnedTask) : e.Becomes e := ⟨rfl, .refl e.task⟩

theorem trans (first : e.Becomes f) (second : f.Becomes g) : e.Becomes g :=
  ⟨second.deployment.trans first.deployment, first.task.trans second.task⟩

end OwnedTask.Becomes

namespace Backend

/-- The tasks that work on a deployment, each with its own. -/
def owned (b : Backend) : List OwnedTask :=
  b.tasks.filterMap fun task => (b.owners task.id).map (⟨·, task⟩)

/-- The tasks stand in the order of their ids, the next submission gets a higher one, and every task
works on a deployment. -/
structure Sound (b : Backend) : Prop where
  sorted : b.tasks.Pairwise fun s t => s.id < t.id
  below : ∀ t ∈ b.tasks, t.id < b.nextTaskId
  owned : ∀ t ∈ b.tasks, ∃ deployment, b.owners t.id = some deployment

/-- Two backends have the same tasks, for the same deployments. -/
structure SameTasks (before after : Backend) : Prop where
  tasks : after.tasks = before.tasks
  owners : after.owners = before.owners

theorem SameTasks.owned {a b : Backend} (same : a.SameTasks b) : b.owned = a.owned := by
  unfold Backend.owned
  rw [same.tasks, same.owners]

theorem SameTasks.refl (b : Backend) : b.SameTasks b := ⟨rfl, rfl⟩

theorem SameTasks.tasksOf_eq {a b : Backend} (same : a.SameTasks b) (deployment : String)
    (p : BackendTask → Bool) : b.tasksOf deployment p = a.tasksOf deployment p := by
  unfold tasksOf
  rw [same.tasks, same.owners]

theorem sound_empty : ({} : Backend).Sound where
  sorted := .nil
  below _ impossible := nomatch impossible
  owned _ impossible := nomatch impossible

/-- Nothing else counts but the tasks and the next id. -/
theorem Sound.congr {a b : Backend} (sound : a.Sound) (same : a.SameTasks b)
    (next : b.nextTaskId = a.nextTaskId) : b.Sound where
  sorted := same.tasks ▸ sound.sorted
  below := by
    rw [same.tasks, next]
    exact sound.below
  owned := by
    rw [same.tasks, same.owners]
    exact sound.owned

/-- The tasks of a context, of any deployment, the oldest first. -/
def under (b : Backend) (contextId : String) : List OwnedTask :=
  b.owned.filter fun e => e.task.contextId == contextId

theorem mem_owned {b : Backend} {e : OwnedTask} :
    e ∈ b.owned ↔ e.task ∈ b.tasks ∧ b.owners e.task.id = some e.deployment := by
  simp only [owned, List.mem_filterMap, Option.map_eq_some_iff]
  constructor
  · rintro ⟨task, held, deployment, found, rfl⟩
    exact ⟨held, found⟩
  · rintro ⟨held, found⟩
    exact ⟨e.task, held, e.deployment, found, rfl⟩

/-- A look at the tasks of a deployment sees those that are written down as its own. -/
theorem tasksOf_eq (b : Backend) (deployment : String) (p : BackendTask → Bool) :
    b.tasksOf deployment p =
      (b.owned.filter fun e => p e.task && e.deployment == deployment).map OwnedTask.task := by
  unfold tasksOf owned
  induction b.tasks with
  | nil => rfl
  | cons task rest ih =>
    cases found : b.owners task.id with
    | none => simp [found, ih]
    | some owner =>
      by_cases chosen : p task = true ∧ owner = deployment
      · simp [found, chosen, ih]
      · simp [found, chosen, ih]

/-- The tasks of one backend are still there in another one. -/
def Older (earlier later : Backend) : Prop := Grown OwnedTask.Becomes earlier.owned later.owned

theorem Older.refl (b : Backend) : b.Older b := Grown.refl OwnedTask.Becomes.refl b.owned

theorem Older.trans {a b c : Backend} (first : a.Older b) (second : b.Older c) : a.Older c :=
  Grown.trans (R := OwnedTask.Becomes) OwnedTask.Becomes.trans first second

theorem Older.under {a b : Backend} (older : a.Older b) (contextId : String) :
    Grown OwnedTask.Becomes (a.under contextId) (b.under contextId) :=
  older.filter fun moved => by rw [moved.task.context]

theorem Older.tasksOf {a b : Backend} (older : a.Older b) (deployment contextId : String) :
    Grown BackendTask.Becomes (a.tasksOf deployment fun task => task.contextId == contextId)
      (b.tasksOf deployment fun task => task.contextId == contextId) := by
  rw [tasksOf_eq, tasksOf_eq]
  refine Grown.map (Grown.filter older fun {e f} moved => ?_) OwnedTask.Becomes.task
  simp only [moved.task.context, moved.deployment]

/-- The tasks have moved on, each for the deployment it works on. -/
structure Moved (before after : Backend) : Prop where
  tasks : List.Forall₂ BackendTask.Becomes before.tasks after.tasks
  owners : after.owners = before.owners

theorem Moved.owned {a b : Backend} (moved : a.Moved b) :
    List.Forall₂ OwnedTask.Becomes a.owned b.owned := by
  have pairs {l m : List BackendTask} (moves : List.Forall₂ BackendTask.Becomes l m) :
      List.Forall₂ OwnedTask.Becomes
        (l.filterMap fun task => (a.owners task.id).map (⟨·, task⟩))
        (m.filterMap fun task => (a.owners task.id).map (⟨·, task⟩)) := by
    induction moves with
    | nil => exact .nil
    | @cons s t _ _ first _ ih =>
      cases found : a.owners s.id with
      | none => simpa [first.id, found] using ih
      | some deployment =>
        have isOwn : OwnedTask.Becomes ⟨deployment, s⟩ ⟨deployment, t⟩ := ⟨rfl, first⟩
        simpa [first.id, found] using And.intro isOwn ih
  rw [Backend.owned, Backend.owned, moved.owners]
  exact pairs moved.tasks

theorem Older.of_moved {a b : Backend} (moved : a.Moved b) : a.Older b :=
  Grown.of_forall₂ moved.owned

/-- Progress moves no task to another context. -/
theorem Moved.under {a b : Backend} (moved : a.Moved b) (contextId : String) :
    List.Forall₂ OwnedTask.Becomes (a.under contextId) (b.under contextId) :=
  List.rel_filter (R := OwnedTask.Becomes) (p := fun e => e.task.contextId == contextId)
    (q := fun e => e.task.contextId == contextId)
    (fun _ _ moved => by simp only [moved.task.context]) moved.owned

private theorem ids_of_forall₂ {l m : List BackendTask}
    (moved : List.Forall₂ BackendTask.Becomes l m) : m.map BackendTask.id = l.map BackendTask.id := by
  induction moved with
  | nil => rfl
  | cons first _ ih => rw [List.map_cons, List.map_cons, first.id, ih]

/-- Progress keeps the order of the ids. -/
theorem Sound.of_moved {a b : Backend} (sound : a.Sound) (moved : a.Moved b)
    (next : b.nextTaskId = a.nextTaskId) : b.Sound := by
  have ids := ids_of_forall₂ moved.tasks
  have listed {t : BackendTask} (member : t ∈ b.tasks) : ∃ s ∈ a.tasks, s.id = t.id := by
    have isId : t.id ∈ a.tasks.map BackendTask.id := ids ▸ List.mem_map_of_mem member
    exact List.mem_map.mp isId
  constructor
  · have sorted := List.pairwise_map.mpr sound.sorted
    rw [← ids] at sorted
    exact List.pairwise_map.mp sorted
  · intro t member
    obtain ⟨s, held, same⟩ := listed member
    rw [next, ← same]
    exact sound.below s held
  · intro t member
    obtain ⟨s, held, same⟩ := listed member
    rw [moved.owners, ← same]
    exact sound.owned s held

/-- Every task works on a deployment. -/
theorem Sound.exists_mem_owned {b : Backend} (sound : b.Sound) {task : BackendTask}
    (held : task ∈ b.tasks) : ∃ e ∈ b.owned, e.task = task := by
  obtain ⟨deployment, found⟩ := sound.owned task held
  exact ⟨⟨deployment, task⟩, mem_owned.mpr ⟨held, found⟩, rfl⟩

/-- So the tasks are those that are written down with their deployments. -/
theorem Sound.tasks_eq {b : Backend} (sound : b.Sound) :
    b.tasks = b.owned.map OwnedTask.task := by
  have owned (task : BackendTask) (held : task ∈ b.tasks) :
      ((b.owners task.id).map (OwnedTask.mk · task)).map OwnedTask.task = some task := by
    obtain ⟨deployment, found⟩ := sound.owned task held
    rw [found]
    rfl
  rw [Backend.owned, List.map_filterMap, List.filterMap_congr owned, List.filterMap_some]

/-- An id belongs to one task only. -/
theorem Sound.eq_of_id_eq {b : Backend} (sound : b.Sound) {s t : BackendTask} (first : s ∈ b.tasks)
    (second : t ∈ b.tasks) (same : s.id = t.id) : s = t := by
  obtain ⟨i, isHeld, rfl⟩ := List.mem_iff_getElem.mp first
  obtain ⟨j, isHeld', rfl⟩ := List.mem_iff_getElem.mp second
  have ordered := List.pairwise_iff_getElem.mp sound.sorted
  rcases Nat.lt_trichotomy i j with lower | rfl | higher
  · have := ordered i j isHeld isHeld' lower
    omega
  · rfl
  · have := ordered j i isHeld' isHeld higher
    omega

theorem Sound.unique {b : Backend} (sound : b.Sound) {e f : OwnedTask} (first : e ∈ b.owned)
    (second : f ∈ b.owned) (same : e.task.id = f.task.id) : e = f := by
  obtain ⟨held, owner⟩ := mem_owned.mp first
  obtain ⟨held', owner'⟩ := mem_owned.mp second
  obtain ⟨deployment, task⟩ := e
  obtain ⟨deployment', task'⟩ := f
  obtain rfl : task = task' := sound.eq_of_id_eq held held' same
  obtain rfl : deployment = deployment' := Option.some.inj (owner.symm.trans owner')
  rfl

/-- A new task stands behind all others. -/
theorem insertTask_last (task : BackendTask) (tasks : List BackendTask)
    (above : ∀ t ∈ tasks, t.id < task.id) : insertTask task tasks = tasks ++ [task] := by
  induction tasks with
  | nil => rfl
  | cons held rest ih =>
    have lower := above held List.mem_cons_self
    have notBefore : ¬ task.id < held.id := by omega
    have notSame : ¬ task.id = held.id := by omega
    rw [insertTask, if_neg notBefore, if_neg notSame,
      ih fun t member => above t (List.mem_cons_of_mem held member)]
    rfl

/-- One backend has a task more than the other one, behind all others, for a deployment. -/
structure Adds (before : Backend) (deployment : String) (task : BackendTask) (after : Backend) :
    Prop where
  tasks : after.tasks = before.tasks ++ [task]
  owner : after.owners task.id = some deployment
  others : ∀ id, id ≠ task.id → after.owners id = before.owners id
  above : ∀ t ∈ before.tasks, t.id < task.id

theorem Adds.owned {a b : Backend} {deployment : String} {task : BackendTask}
    (adds : a.Adds deployment task b) : b.owned = a.owned ++ [⟨deployment, task⟩] := by
  have old : a.tasks.filterMap (fun t => (b.owners t.id).map (OwnedTask.mk · t)) = a.owned := by
    refine List.filterMap_congr fun t held => ?_
    rw [adds.others t.id (Nat.ne_of_lt (adds.above t held))]
  rw [Backend.owned, adds.tasks, List.filterMap_append, old]
  simp [adds.owner]

/-- A look at the tasks of the deployment sees the new one last. -/
theorem Adds.tasksOf_eq {a b : Backend} {owner : String} {task : BackendTask}
    (adds : a.Adds owner task b) (deployment : String) (p : BackendTask → Bool) :
    b.tasksOf deployment p =
      a.tasksOf deployment p ++ if p task ∧ owner = deployment then [task] else [] := by
  rw [Backend.tasksOf_eq, Backend.tasksOf_eq, adds.owned, List.filter_append, List.map_append]
  congr 1
  by_cases chosen : p task = true ∧ owner = deployment
  · simp [chosen]
  · simp [chosen]

/-- What a call did to the tasks: nothing, or a submission got a new task behind all others. -/
inductive Effect (c : AnyCall) (before after : Backend) : Option TaskId → Prop where
  | none (kept : before.SameTasks after) (next : after.nextTaskId = before.nextTaskId) :
      Effect c before after none
  | created {deployment contextId : String} {task : BackendTask}
      (submits : c.submits? = some (deployment, contextId)) (id : task.id = before.nextTaskId)
      (context : task.contextId = contextId) (adds : before.Adds deployment task after)
      (next : after.nextTaskId = before.nextTaskId + 1) :
      Effect c before after (some before.nextTaskId)

namespace Effect

variable {c : AnyCall} {before after : Backend} {id : Option TaskId}

theorem refl (c : AnyCall) (b : Backend) : Effect c b b Option.none := .none (.refl b) rfl

theorem sound (effect : Effect c before after id) (sound : before.Sound) : after.Sound := by
  cases effect with
  | none kept next => exact sound.congr kept next
  | created _ isNext _ adds next =>
    refine ⟨?_, fun t member => ?_, fun t member => ?_⟩
    · rw [adds.tasks, List.pairwise_append]
      refine ⟨sound.sorted, List.pairwise_singleton .., fun t member u isNew => ?_⟩
      rw [List.mem_singleton.mp isNew]
      exact adds.above t member
    · rw [adds.tasks, List.mem_append, List.mem_singleton] at member
      rw [next]
      rcases member with member | rfl
      · exact Nat.lt_succ_of_lt (sound.below t member)
      · exact isNext ▸ Nat.lt_succ_self _
    · rw [adds.tasks, List.mem_append, List.mem_singleton] at member
      rcases member with member | rfl
      · rw [adds.others t.id (Nat.ne_of_lt (adds.above t member))]
        exact sound.owned t member
      · exact ⟨_, adds.owner⟩

theorem older (effect : Effect c before after id) : before.Older after := by
  cases effect with
  | none kept _ =>
    unfold Older
    rw [kept.owned]
    exact Grown.refl OwnedTask.Becomes.refl _
  | created _ _ _ adds _ =>
    unfold Older
    rw [adds.owned]
    exact Grown.append OwnedTask.Becomes.refl ..

theorem reads (same : after = before) : Effect c before after Option.none :=
  .none ⟨by rw [same], by rw [same]⟩ (by rw [same])

/-- Only tasks, their owners and the next id count. -/
theorem of_tasks {start : Backend} (effect : Effect c before after id)
    (kept : start.SameTasks before) (next : before.nextTaskId = start.nextTaskId) :
    Effect c start after id := by
  cases effect with
  | none same same' =>
    exact .none ⟨same.tasks.trans kept.tasks, same.owners.trans kept.owners⟩ (same'.trans next)
  | created submits isNext context adds added =>
    rw [next]
    refine .created submits (isNext.trans next) context ?_ (added.trans (by rw [next]))
    exact ⟨kept.tasks ▸ adds.tasks, adds.owner, kept.owners ▸ adds.others, kept.tasks ▸ adds.above⟩

end Effect

variable {b : Backend}

theorem Sound.adds_submit (sound : b.Sound) (deployment contextId description : String) :
    b.Adds deployment { id := b.nextTaskId, state := b.submittedState, description, contextId }
      (b.submit deployment contextId description).2 :=
  ⟨insertTask_last _ _ sound.below, if_pos rfl, fun _ other => if_neg other, sound.below⟩

/-- A submission gets a new task. -/
theorem Sound.effect_submit (sound : b.Sound) {c : AnyCall} {deployment contextId : String}
    (description : String) (submits : c.submits? = some (deployment, contextId)) :
    Effect c b (b.submit deployment contextId description).2
      (some (b.submit deployment contextId description).1) :=
  .created submits rfl rfl (sound.adds_submit deployment contextId description) rfl

/-- A call is carried out or fails. -/
theorem unlessFailing_cases {α : Type} (b : Backend) (kind : CallKind)
    (act : Backend → Except BackendError α × Backend) :
    b.unlessFailing kind act = act b ∨ ∃ e, b.unlessFailing kind act = (.error e, b) := by
  unfold unlessFailing
  cases b.failures kind with
  | none => exact .inl rfl
  | some e => exact .inr ⟨e, rfl⟩

/-- A call that only reads changes nothing. -/
theorem unlessFailing_reads {α : Type} (b : Backend) (kind : CallKind)
    (answer : Backend → Except BackendError α) :
    (b.unlessFailing kind fun b => (answer b, b)).2 = b := by
  obtain done | ⟨e, failed⟩ := unlessFailing_cases b kind fun b => (answer b, b)
  · rw [done]
  · rw [failed]

/-- The answer to a call and the tasks afterwards agree on the task that was created. -/
def Answered {k : CallKind} (c : Call k) (before : Backend) (r : k.Answer × Backend) : Prop :=
  ∃ id, Effect ⟨k, c⟩ before r.2 id ∧
    Happening.created? (.answered c r.1) = id.map fun id => (⟨k, c⟩, id)

theorem Sound.answered_submitErrand (sound : b.Sound) (deployment : String) (errand : Errand)
    (contextId : String) : Answered (.submitErrand deployment errand contextId) b
      (b.submitErrand deployment errand contextId) := by
  unfold submitErrand
  obtain done | ⟨e, failed⟩ := unlessFailing_cases b .submitErrand fun b =>
    (b.submit deployment contextId ("run errand " ++ errand.name)).map Except.ok id
  · rw [done]
    exact ⟨_, sound.effect_submit _ rfl, rfl⟩
  · rw [failed]
    exact ⟨none, .refl _ b, rfl⟩

theorem Sound.answered_submitDelete (sound : b.Sound) (deployment contextId : String) (force : Bool) :
    Answered (.submitDelete deployment contextId force) b (b.submitDelete deployment contextId) := by
  unfold submitDelete
  obtain done | ⟨e, failed⟩ := unlessFailing_cases b .submitDelete fun b =>
    (({ b with deployments := b.deployments.erase deployment } : Backend).submit deployment contextId
      ("delete deployment " ++ deployment)).map Except.ok id
  · rw [done]
    have same : ({ b with deployments := b.deployments.erase deployment } : Backend).Sound :=
      sound.congr ⟨rfl, rfl⟩ rfl
    exact ⟨_, (same.effect_submit _ rfl).of_tasks ⟨rfl, rfl⟩ rfl, rfl⟩
  · rw [failed]
    exact ⟨none, .refl _ b, rfl⟩

theorem Sound.answered_submitRecreate (sound : b.Sound) (deployment contextId : String) :
    Answered (.submitRecreate deployment contextId) b (b.submitRecreate deployment contextId) := by
  unfold submitRecreate
  obtain done | ⟨e, failed⟩ := unlessFailing_cases b .submitRecreate fun b =>
    (b.submit deployment contextId ("recreate deployment " ++ deployment)).map Except.ok id
  · rw [done]
    exact ⟨_, sound.effect_submit _ rfl, rfl⟩
  · rw [failed]
    exact ⟨none, .refl _ b, rfl⟩

theorem Sound.answered_deploy (sound : b.Sound) (request : DeployRequest) :
    Answered (.submitDeploy request) b (.ok (b.deploy request).1, (b.deploy request).2) := by
  have same : (b.addDeployment request.deployment (manifestOf request)).Sound :=
    sound.congr ⟨rfl, rfl⟩ rfl
  exact ⟨_, (same.effect_submit _ rfl).of_tasks ⟨rfl, rfl⟩ rfl, rfl⟩

end Backend

namespace World

/-- A deploy is carried out by the backend or fails, and nothing but the clock and the backend may
change. -/
theorem submitDeploy_cases (w : World) (deadline : Option Millis) (request : DeployRequest) :
    ∃ now, (∃ e, w.submitDeploy deadline request = (.error e, { w with now })) ∨
      w.submitDeploy deadline request = (.ok (w.backend.deploy request).1,
        { w with backend := (w.backend.deploy request).2, now }) := by
  unfold submitDeploy
  split
  · exact ⟨w.now, .inl ⟨_, rfl⟩⟩
  · simp only
    split
    · exact ⟨_, .inr rfl⟩
    · exact ⟨_, .inl ⟨_, rfl⟩⟩

/-- What a call does to the tasks of the world, and which task it creates. -/
theorem answered_serve {w : World} (sound : w.backend.Sound) (deadline : Option Millis)
    {k : CallKind} (c : Call k) :
    Backend.Answered c w.backend ((serve deadline c w).1, (serve deadline c w).2.backend) := by
  cases c with
  | submitDeploy request =>
    let asked : World := { w with calls := w.calls ++ [⟨_, .submitDeploy request⟩] }
    change Backend.Answered (.submitDeploy request) w.backend
      ((asked.submitDeploy deadline request).1, (asked.submitDeploy deadline request).2.backend)
    obtain ⟨now, ⟨e, failed⟩ | done⟩ := asked.submitDeploy_cases deadline request
    · rw [failed]
      exact ⟨none, .refl _ _, rfl⟩
    · rw [done]
      exact sound.answered_deploy request
  | submitErrand deployment errand contextId =>
    exact sound.answered_submitErrand deployment errand contextId
  | submitDelete deployment contextId force =>
    exact sound.answered_submitDelete deployment contextId force
  | submitRecreate deployment contextId => exact sound.answered_submitRecreate deployment contextId
  | getTask id =>
    have same : (w.backend.getTask id).2 = w.backend := Backend.unlessFailing_reads ..
    exact ⟨none, .reads same, rfl⟩
  | getTasksByContext deployment contextId =>
    have same : (w.backend.getTasksByContext deployment contextId).2 = w.backend :=
      Backend.unlessFailing_reads ..
    exact ⟨none, .reads same, rfl⟩
  | getTasksInProgress deployment =>
    have same : (w.backend.getTasksInProgress deployment).2 = w.backend :=
      Backend.unlessFailing_reads ..
    exact ⟨none, .reads same, rfl⟩
  | getDeployment deployment =>
    have same : (w.backend.getDeployment deployment).2 = w.backend := Backend.unlessFailing_reads ..
    exact ⟨none, .reads same, rfl⟩
  | getVms deployment =>
    have same : (w.backend.getVms deployment).2 = w.backend := Backend.unlessFailing_reads ..
    exact ⟨none, .reads same, rfl⟩
  | deleteConfigs deployment =>
    have same : w.backend.deleteConfigs.2 = w.backend := Backend.unlessFailing_reads ..
    exact ⟨none, .reads same, rfl⟩
  | _ => exact ⟨none, .refl _ _, rfl⟩

/-- Whoever tries to lock an id changes nothing but the locks. -/
theorem acquire_frame (w : World) (kind : LockKind) (id : String) :
    ∃ locks, (w.acquire kind id).2 = { w with locks } := by
  unfold acquire
  split
  · exact ⟨_, rfl⟩
  · exact ⟨w.locks, rfl⟩

/-- A call leaves the supply of ids and the locks alone. -/
theorem supply_serve (w : World) (deadline : Option Millis) {k : CallKind} (c : Call k) :
    (serve deadline c w).2.ids = w.ids ∧ (serve deadline c w).2.issued = w.issued := by
  cases c with
  | submitDeploy request =>
    let asked : World := { w with calls := w.calls ++ [⟨_, .submitDeploy request⟩] }
    change (asked.submitDeploy deadline request).2.ids = _ ∧
      (asked.submitDeploy deadline request).2.issued = _
    obtain ⟨now, ⟨e, failed⟩ | done⟩ := asked.submitDeploy_cases deadline request
    · rw [failed]
      exact ⟨rfl, rfl⟩
    · rw [done]
      exact ⟨rfl, rfl⟩
  | _ => exact ⟨rfl, rfl⟩

/-- A task that is read is held, with the deployment it works on. -/
theorem mem_of_getTask {w : World} (sound : w.backend.Sound) {deadline : Option Millis} {id : TaskId}
    {task : BackendTask} (read : (serve deadline (.getTask id) w).1 = .ok task) :
    task.id = id ∧ ∃ e ∈ w.backend.owned, e.task = task := by
  change (w.backend.getTask id).1 = .ok task at read
  unfold Backend.getTask Backend.unlessFailing at read
  split at read
  · cases read
  · simp only at read
    split at read
    · rename_i found
      cases read
      exact ⟨by simpa using List.find?_some found,
        sound.exists_mem_owned (List.mem_of_find?_eq_some found)⟩
    · cases read

/-- The tasks that are read under a context are those of the deployment. -/
theorem eq_of_getTasksByContext {w : World} {deadline : Option Millis}
    {deployment contextId : String} {tasks : List BackendTask}
    (read : (serve deadline (.getTasksByContext deployment contextId) w).1 = .ok tasks) :
    tasks = w.backend.tasksOf deployment fun task => task.contextId == contextId := by
  change (w.backend.getTasksByContext deployment contextId).1 = .ok tasks at read
  unfold Backend.getTasksByContext Backend.unlessFailing at read
  split at read
  · cases read
  · exact (Except.ok.inj read).symm

end World

end Memory

end ServiceBroker
