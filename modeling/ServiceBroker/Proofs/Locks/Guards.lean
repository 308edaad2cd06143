import Mathlib.Data.List.Nodup
import ServiceBroker.Lock.Guards

/-! Guards and their registry. The registry knows nothing of guards, and guards come and go one by
one, yet after every history the ids that are held are those of the guards that are alive, each held
by one of them. -/
namespace ServiceBroker

theorem LockRegistry.isHeld_iff {r : LockRegistry} {id : String} :
    r.isHeld id = true ↔ id ∈ r.held := List.contains_iff_mem

namespace GuardedRegistry

variable {g : GuardedRegistry} {id name : String}

/-- Where a history of requests leads. -/
def after (g : GuardedRegistry) : List GuardRequest → GuardedRegistry
  | [] => g
  | request :: rest => (g.serve request).2.after rest

/-- The answers to a longer history are those to its beginning and those to the rest from there. -/
theorem serveAll_append (g : GuardedRegistry) (first second : List GuardRequest) :
    g.serveAll (first ++ second) = g.serveAll first ++ (g.after first).serveAll second := by
  induction first generalizing g with
  | nil => rfl
  | cons request rest ih => exact congrArg (_ :: ·) (ih _)

/-! Dropping a guard. -/

/-- Without a guard of the name there is nothing to drop. -/
theorem drop_of_absent (absent : ∀ guard ∈ g.guards, guard.name ≠ name) : g.drop name = g := by
  have nobody : (g.guards.find? fun guard => guard.name == name) = none :=
    List.find?_eq_none.mpr fun guard alive => by simpa using absent guard alive
  rw [drop, nobody]

/-- No guard of the name stays alive, and all others do. -/
theorem guards_drop (g : GuardedRegistry) (name : String) :
    (g.drop name).guards = g.guards.filter fun guard => guard.name != name := by
  by_cases present : ∃ guard ∈ g.guards, guard.name = name
  · obtain ⟨guard, found⟩ : ∃ guard, (g.guards.find? fun guard => guard.name == name) = some guard :=
      Option.isSome_iff_exists.mp (by simpa using present)
    rw [drop, found]
  · push Not at present
    rw [drop_of_absent present]
    exact (List.filter_eq_self.mpr fun guard alive => by simpa using present guard alive).symm

/-- Where names are told apart, a guard stands in one place and no other guard has its name. -/
theorem split (names : (g.guards.map Guard.name).Nodup) {guard : Guard} (alive : guard ∈ g.guards) :
    ∃ before later, g.guards = before ++ guard :: later ∧
      ∀ other ∈ before ++ later, other.name ≠ guard.name := by
  obtain ⟨before, later, parts⟩ := List.append_of_mem alive
  have middle : (before ++ guard :: later).Perm (guard :: (before ++ later)) := List.perm_middle
  rw [parts, (middle.map _).nodup_iff, List.map_cons, List.nodup_cons] at names
  refine ⟨before, later, parts, fun other member same => ?_⟩
  exact names.1 (same ▸ List.mem_map_of_mem member)

/-- The registry lets go of the id of a guard that is dropped. -/
theorem registry_drop (names : (g.guards.map Guard.name).Nodup) {guard : Guard}
    (alive : guard ∈ g.guards) :
    (g.drop guard.name).registry = g.registry.release guard.id := by
  obtain ⟨before, later, parts, unlike⟩ := split names alive
  have found : (g.guards.find? fun other => other.name == guard.name) = some guard := by
    rw [parts, List.find?_append, List.find?_eq_none.mpr]
    · simp
    · intro other member
      simpa using unlike other (List.mem_append_left _ member)
  rw [drop, found]

/-- All guards stay but the one that is dropped. -/
theorem guards_drop_of_mem (names : (g.guards.map Guard.name).Nodup) {guard : Guard}
    (alive : guard ∈ g.guards) : (g.drop guard.name).guards = g.guards.erase guard := by
  obtain ⟨before, later, parts, unlike⟩ := split names alive
  have elsewhere : guard ∉ before := fun member =>
    unlike guard (List.mem_append_left _ member) rfl
  rw [guards_drop, parts, List.filter_append, List.filter_cons_of_neg (by simp),
    ← List.filter_append, List.erase_append_right _ elsewhere, List.erase_cons_head]
  exact List.filter_eq_self.mpr fun other member => by simpa using unlike other member

/-! What registry and guards have in common. -/

/-- The registry holds what the guards hold, and each guard has a name of its own. -/
structure Balanced (g : GuardedRegistry) : Prop where
  held : g.registry.held.Perm (g.guards.map Guard.id)
  names : (g.guards.map Guard.name).Nodup

namespace Balanced

/-- No two guards hold the same id, since the registry holds none twice. -/
theorem ids (balanced : g.Balanced) : (g.guards.map Guard.id).Nodup :=
  balanced.held.nodup_iff.mp g.registry.distinct

theorem mem_held_iff (balanced : g.Balanced) :
    id ∈ g.registry.held ↔ ∃ guard ∈ g.guards, guard.id = id := by
  rw [balanced.held.mem_iff, List.mem_map]

/-- An id that is held is held by one guard. -/
theorem mem_held_iff_countP (balanced : g.Balanced) :
    id ∈ g.registry.held ↔ g.guards.countP (·.id == id) = 1 := by
  have counted : g.guards.countP (·.id == id) = (g.guards.map Guard.id).count id := by
    rw [List.count, List.countP_map]
    rfl
  rw [balanced.held.mem_iff, counted, balanced.ids.count]
  by_cases held : id ∈ g.guards.map Guard.id <;> simp [held]

theorem drop (balanced : g.Balanced) (name : String) : (g.drop name).Balanced := by
  constructor
  · by_cases present : ∃ guard ∈ g.guards, guard.name = name
    · obtain ⟨guard, alive, rfl⟩ := present
      rw [registry_drop balanced.names alive, guards_drop_of_mem balanced.names alive]
      have first : g.registry.held.Perm (guard.id :: (g.guards.erase guard).map Guard.id) :=
        balanced.held.trans ((List.perm_cons_erase alive).map Guard.id)
      have erased := first.erase guard.id
      rwa [List.erase_cons_head] at erased
    · push Not at present
      rw [drop_of_absent present]
      exact balanced.held
  · rw [guards_drop]
    exact balanced.names.sublist (List.filter_sublist.map _)

/-- A guard that is dropped frees its own id and no other. -/
theorem mem_held_drop (balanced : g.Balanced) (other : String) :
    other ∈ (g.drop name).registry.held ↔
      other ∈ g.registry.held ∧ ∀ guard ∈ g.guards, guard.name = name → guard.id ≠ other := by
  by_cases present : ∃ guard ∈ g.guards, guard.name = name
  · obtain ⟨guard, alive, rfl⟩ := present
    have only (another : Guard) (member : another ∈ g.guards) (same : another.name = guard.name) :
        another = guard := List.inj_on_of_nodup_map balanced.names member alive same
    rw [registry_drop balanced.names alive, LockRegistry.release, g.registry.distinct.mem_erase_iff]
    constructor
    · rintro ⟨differs, held⟩
      refine ⟨held, fun another member same => ?_⟩
      rw [only another member same]
      exact differs.symm
    · rintro ⟨held, others⟩
      exact ⟨(others guard alive rfl).symm, held⟩
  · push Not at present
    rw [drop_of_absent present]
    exact ⟨fun held => ⟨held, fun guard alive same => absurd same (present guard alive)⟩, And.left⟩

end Balanced

/-! Taking an id for a new guard. -/

/-- The new id is held before the older guard of the name goes, and stays held when it has gone. -/
theorem held_drop_cons (balanced : g.Balanced) {r : LockRegistry} (free : id ∉ g.registry.held)
    (taken : r.held = id :: g.registry.held) :
    (drop ⟨r, g.guards⟩ name).registry.held = id :: (g.drop name).registry.held := by
  by_cases present : ∃ guard ∈ g.guards, guard.name = name
  · obtain ⟨guard, alive, rfl⟩ := present
    have differs : id ≠ guard.id := by
      rintro rfl
      exact free (balanced.mem_held_iff.mpr ⟨guard, alive, rfl⟩)
    have erased : r.held.erase guard.id = id :: g.registry.held.erase guard.id := by
      rw [taken, List.erase_cons_tail (by simpa using differs)]
    rwa [registry_drop balanced.names alive,
      registry_drop (g := ⟨r, g.guards⟩) balanced.names alive]
  · push Not at present
    rw [drop_of_absent present, drop_of_absent (g := ⟨r, g.guards⟩) present, taken]

/-- Nobody gets an id that is held, and nothing changes. -/
theorem serve_acquire_of_held (held : id ∈ g.registry.held) (name : String) :
    g.serve (.acquire id name) = (.alreadyHeld id, g) := by
  rw [serve, LockRegistry.acquire?, dif_pos held]

/-- Whoever asks for a free id gets it, for a guard in place of the older one of the name. -/
theorem serve_acquire_of_free (balanced : g.Balanced) (free : id ∉ g.registry.held) (name : String) :
    ∃ next : GuardedRegistry, g.serve (.acquire id name) = (.acquired id, next) ∧
      next.registry.held = id :: (g.drop name).registry.held ∧
      next.guards = (g.drop name).guards ++ [⟨name, id⟩] := by
  rw [serve, LockRegistry.acquire?, dif_neg free]
  refine ⟨_, rfl, held_drop_cons balanced free rfl, ?_⟩
  rw [guards_drop, guards_drop]

theorem Balanced.serve (balanced : g.Balanced) (request : GuardRequest) :
    (g.serve request).2.Balanced := by
  cases request with
  | release name => exact balanced.drop name
  | query id => exact balanced
  | acquire id name =>
    by_cases held : id ∈ g.registry.held
    · rw [serve_acquire_of_held held]
      exact balanced
    · obtain ⟨next, served, ids, guards⟩ := serve_acquire_of_free balanced held name
      rw [served]
      have dropped := balanced.drop name
      constructor
      · rw [ids, guards, List.map_append]
        exact (dropped.held.cons id).trans (List.perm_append_singleton _ _).symm
      · have unused : name ∉ (g.drop name).guards.map Guard.name := by
          simp [guards_drop]
        rw [guards, List.map_append]
        refine dropped.names.append (List.nodup_singleton name) ?_
        rw [List.map_singleton, List.disjoint_singleton]
        exact unused

/-- What a registry of locks and its guards have to do with each other. -/
structure Faithful (g : GuardedRegistry) : Prop where
  /-- As many ids are held as guards are alive. -/
  counted : g.registry.count = g.guards.length
  /-- No two guards hold the same id. -/
  apart : g.guards.Pairwise fun a b => a.id ≠ b.id
  /-- An id is held if and only if exactly one guard has it. -/
  held_iff : ∀ id, g.registry.isHeld id = true ↔ g.guards.countP (·.id == id) = 1
  /-- A question is answered accordingly, and changes nothing. -/
  queried : ∀ id, g.serve (.query id) = (.held (g.registry.isHeld id), g)
  /-- An id that no guard holds is given away. The guard that had the name before frees its own id
  and no other. -/
  acquired : ∀ id name, (∀ guard ∈ g.guards, guard.id ≠ id) →
    (g.serve (.acquire id name)).1 = .acquired id ∧
    (g.serve (.acquire id name)).2.guards =
      g.guards.filter (fun guard => guard.name != name) ++ [⟨name, id⟩] ∧
    ∀ other, (g.serve (.acquire id name)).2.registry.isHeld other = true ↔ other = id ∨
      g.registry.isHeld other = true ∧ ∀ guard ∈ g.guards, guard.name = name → guard.id ≠ other
  /-- An id that a guard holds is not given away, and nothing changes. -/
  refused : ∀ guard ∈ g.guards, ∀ name,
    g.serve (.acquire guard.id name) = (.alreadyHeld guard.id, g)
  /-- A guard that is dropped frees its own id and no other. -/
  released : ∀ guard ∈ g.guards,
    (g.serve (.release guard.name)).1 = .released true ∧
    (g.serve (.release guard.name)).2.guards = g.guards.erase guard ∧
    ∀ other, (g.serve (.release guard.name)).2.registry.isHeld other = true ↔
      other ≠ guard.id ∧ g.registry.isHeld other = true
  /-- Without a guard of the name nothing is dropped. -/
  absent : ∀ name, (∀ guard ∈ g.guards, guard.name ≠ name) →
    g.serve (.release name) = (.released false, g)

/-- A registry in balance with its guards does by them what it should. -/
theorem Balanced.faithful (balanced : g.Balanced) : g.Faithful where
  counted := by
    rw [LockRegistry.count, balanced.held.length_eq, List.length_map]
  apart := List.pairwise_map.mp balanced.ids
  held_iff id := by
    rw [LockRegistry.isHeld_iff, balanced.mem_held_iff_countP]
  queried id := rfl
  acquired id name free := by
    have unheld : id ∉ g.registry.held := fun held => by
      obtain ⟨guard, alive, same⟩ := balanced.mem_held_iff.mp held
      exact free guard alive same
    obtain ⟨next, served, ids, guards⟩ := serve_acquire_of_free balanced unheld name
    rw [served]
    refine ⟨rfl, by rw [guards, guards_drop], fun other => ?_⟩
    rw [LockRegistry.isHeld_iff, LockRegistry.isHeld_iff, ids, List.mem_cons,
      balanced.mem_held_drop]
  refused guard alive name :=
    serve_acquire_of_held (balanced.mem_held_iff.mpr ⟨guard, alive, rfl⟩) name
  released guard alive := by
    have isAlive : g.isAlive guard.name = true :=
      List.any_eq_true.mpr ⟨guard, alive, beq_self_eq_true _⟩
    refine ⟨congrArg GuardAnswer.released isAlive, guards_drop_of_mem balanced.names alive, ?_⟩
    intro other
    change (g.drop guard.name).registry.isHeld other = true ↔ _
    rw [registry_drop balanced.names alive, LockRegistry.isHeld_iff, LockRegistry.isHeld_iff]
    exact g.registry.distinct.mem_erase_iff
  absent name absent := by
    have noneAlive : g.isAlive name = false :=
      List.any_eq_false.mpr fun guard alive => by simpa using absent guard alive
    rw [GuardedRegistry.serve, drop_of_absent absent, noneAlive]

/-- After every history the registry is in balance with the guards. -/
theorem Balanced.after (balanced : g.Balanced) (requests : List GuardRequest) :
    (g.after requests).Balanced := by
  induction requests generalizing g with
  | nil => exact balanced
  | cons request rest ih => exact ih (balanced.serve request)

/-- A registry that began empty holds, whatever is asked of it, what its guards hold. Ids are given
away exactly if no guard holds them, come back exactly with their guard, and each answer comes with
the number of guards that are alive then. -/
theorem holds_what_guards_hold (history : List GuardRequest) :
    let g := ({} : GuardedRegistry).after history
    g.Faithful ∧ ∀ request, ({} : GuardedRegistry).serveAll (history ++ [request]) =
      ({} : GuardedRegistry).serveAll history ++
        [((g.serve request).1, (g.serve request).2.guards.length)] := by
  intro g
  have begun : ({} : GuardedRegistry).Balanced := ⟨.refl _, List.nodup_nil⟩
  have balanced : g.Balanced := begun.after history
  refine ⟨balanced.faithful, fun request => ?_⟩
  rw [serveAll_append, ← (balanced.serve request).faithful.counted]
  rfl

end GuardedRegistry

end ServiceBroker
