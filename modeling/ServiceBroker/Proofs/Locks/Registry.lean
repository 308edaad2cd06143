import ServiceBroker.Lock

/-! Which locks are held. Taking a lock and giving it back changes whether that lock is held and no
other: locks on different ids, and on instances and bindings, know nothing of each other. -/
namespace ServiceBroker

/-- A lock, by what it is about. -/
structure LockKey where
  kind : LockKind
  id : String
  deriving DecidableEq

namespace Locks

variable {l l' : Locks} {key other : LockKey}

def Held (l : Locks) (key : LockKey) : Prop := key.id ∈ (l.registry key.kind).held

instance : Decidable (l.Held key) := inferInstanceAs (Decidable (_ ∈ _))

theorem registry_set (l : Locks) (kind kind' : LockKind) (r : LockRegistry) :
    (l.set kind r).registry kind' = if kind' = kind then r else l.registry kind' := by
  cases kind <;> cases kind' <;> rfl

theorem acquire?_eq_none_iff : l.acquire? key.kind key.id = none ↔ l.Held key := by
  rw [acquire?, Option.map_eq_none_iff, LockRegistry.acquire?, Held]
  split <;> simp [*]

theorem held_of_acquire? (acquired : l.acquire? key.kind key.id = some l') :
    l'.Held other ↔ other = key ∨ l.Held other := by
  obtain ⟨kind, id⟩ := key
  obtain ⟨kind', id'⟩ := other
  obtain ⟨r, taken, rfl⟩ := Option.map_eq_some_iff.mp acquired
  unfold LockRegistry.acquire? at taken
  split at taken
  · cases taken
  · cases taken
    by_cases same : kind' = kind
    · subst same
      simp [Held, registry_set]
    · simp [Held, registry_set, same]

theorem held_release : (l.release key.kind key.id).Held other ↔ other ≠ key ∧ l.Held other := by
  obtain ⟨kind, id⟩ := key
  obtain ⟨kind', id'⟩ := other
  by_cases same : kind' = kind
  · subst same
    simp [Held, release, registry_set, LockRegistry.release,
      (l.registry kind').distinct.mem_erase_iff]
  · simp [Held, release, registry_set, same]

theorem not_held_empty : ¬ ({} : Locks).Held key := by
  obtain ⟨kind, id⟩ := key
  cases kind <;> exact List.not_mem_nil

/-- Where no lock is held, both registries are empty. -/
theorem eq_empty (none : ∀ key, ¬ l.Held key) : l = {} := by
  obtain ⟨⟨instances, _⟩, ⟨bindings, _⟩⟩ := l
  obtain rfl : instances = [] :=
    List.eq_nil_iff_forall_not_mem.mpr fun id => none ⟨.serviceInstance, id⟩
  obtain rfl : bindings = [] := List.eq_nil_iff_forall_not_mem.mpr fun id => none ⟨.binding, id⟩
  rfl

end Locks

end ServiceBroker
