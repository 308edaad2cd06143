import Mathlib.Algebra.BigOperators.Group.Finset.Basic
import Mathlib.Algebra.BigOperators.Group.Finset.Piecewise
import Mathlib.Algebra.Order.BigOperators.Group.Finset
import ServiceBroker.Quota

/-! How much of a resource the instances of a list of plans take. Plans are told apart by their ids:
an id that several plans of the list have counts once, with the cost of the first of them. -/
namespace ServiceBroker.Quota

/-- What one instance of the plan with an id takes of a resource. -/
def costOf (plans : List Plan) (resource id : String) : Nat :=
  ((plans.find? fun p => p.id == id).map fun p => p.cost resource).getD 0

/-- What all instances together take of a resource, given their number under each id. -/
def taken (plans : List Plan) (count : String → Nat) (resource : String) : Nat :=
  ∑ id ∈ (plans.map Plan.id).toFinset, costOf plans resource id * count id

variable {plans : List Plan} {target : Plan}

theorem mem_ids_iff {id : String} :
    id ∈ (plans.map Plan.id).toFinset ↔ ∃ p, plans.find? (fun p => p.id == id) = some p := by
  rw [List.mem_toFinset, List.mem_map, ← Option.isSome_iff_exists, List.find?_isSome]
  simp only [beq_iff_eq]

theorem costOf_of_find? {resource id : String} {p : Plan}
    (found : plans.find? (fun p => p.id == id) = some p) :
    costOf plans resource id = p.cost resource := by
  rw [costOf, found]
  rfl

/-! ### Plans with distinct ids -/

theorem distinctPlans_concat (plans : List Plan) (p : Plan) : distinctPlans (plans ++ [p]) =
    if (distinctPlans plans).any fun q => q.id == p.id then distinctPlans plans
    else distinctPlans plans ++ [p] := by
  rw [distinctPlans, List.foldl_append]
  rfl

/-- The first plan of each id is kept. -/
theorem mem_distinctPlans_iff {p : Plan} :
    p ∈ distinctPlans plans ↔ plans.find? (fun q => q.id == p.id) = some p := by
  induction plans using List.reverseRecOn generalizing p with
  | nil => simp [distinctPlans]
  | append_singleton rest last ih =>
    have known : (∃ q ∈ distinctPlans rest, q.id = last.id) ↔
        ∃ q, rest.find? (fun q => q.id == last.id) = some q := by
      constructor
      · rintro ⟨q, kept, same⟩
        exact ⟨q, same ▸ ih.mp kept⟩
      · rintro ⟨q, found⟩
        have same : q.id = last.id := by simpa using List.find?_some found
        exact ⟨q, ih.mpr (same ▸ found), same⟩
    rw [distinctPlans_concat, List.find?_append]
    by_cases seen : ∃ q ∈ distinctPlans rest, q.id = last.id
    · rw [if_pos (by simpa using seen), ih]
      obtain ⟨q, found⟩ := known.mp seen
      cases first : rest.find? fun q => q.id == p.id with
      | some _ => simp
      | none =>
        have other : last.id ≠ p.id := by
          intro same
          rw [same, first] at found
          cases found
        simp [other]
    · rw [if_neg (by simpa using seen), List.mem_append, ih, List.mem_singleton]
      cases first : rest.find? fun q => q.id == p.id with
      | some q =>
        have other : p ≠ last := by
          rintro rfl
          exact seen (known.mpr ⟨q, first⟩)
        simp [other]
      | none =>
        by_cases same : last.id = p.id
        · simp [same, eq_comm]
        · have other : p ≠ last := fun isLast => same (isLast ▸ rfl)
          simp [same, other]

theorem nodup_distinctPlans (plans : List Plan) : ((distinctPlans plans).map Plan.id).Nodup := by
  induction plans using List.reverseRecOn with
  | nil => exact List.nodup_nil
  | append_singleton rest last ih =>
    rw [distinctPlans_concat]
    split
    · exact ih
    · rename_i unseen
      rw [List.map_append, List.nodup_append]
      refine ⟨ih, List.nodup_singleton _, ?_⟩
      rintro id listed _ isLast rfl
      obtain ⟨q, kept, same⟩ := List.mem_map.mp listed
      rw [List.map_singleton, List.mem_singleton] at isLast
      exact unseen (List.any_eq_true.mpr ⟨q, kept, by simp [same, isLast]⟩)

/-- Nothing is left out of plans with distinct ids. -/
theorem distinctPlans_of_nodup (nodup : (plans.map Plan.id).Nodup) :
    distinctPlans plans = plans := by
  induction plans using List.reverseRecOn with
  | nil => rfl
  | append_singleton rest last ih =>
    rw [List.map_append, List.nodup_append] at nodup
    obtain ⟨before, _, apart⟩ := nodup
    rw [distinctPlans_concat, ih before, if_neg]
    simp only [List.any_eq_true, beq_iff_eq, not_exists, not_and]
    exact fun q member => apart _ (List.mem_map_of_mem member) _ List.mem_cons_self

/-- No id is lost. -/
theorem ids_distinctPlans (plans : List Plan) :
    ((distinctPlans plans).map Plan.id).toFinset = (plans.map Plan.id).toFinset := by
  ext id
  refine Iff.trans ?_ mem_ids_iff.symm
  rw [List.mem_toFinset, List.mem_map]
  constructor
  · rintro ⟨p, kept, rfl⟩
    exact ⟨p, mem_distinctPlans_iff.mp kept⟩
  · rintro ⟨p, found⟩
    have same : p.id = id := by simpa using List.find?_some found
    exact ⟨p, mem_distinctPlans_iff.mpr (same ▸ found), same⟩

/-- A sum over plans with distinct ids is one over ids. -/
theorem usage_distinctPlans (counts : InstanceCounts) (resource : String) (plans : List Plan) :
    usage counts resource (distinctPlans plans) = taken plans counts.of resource := by
  have perPlan : (distinctPlans plans).map (fun p => p.cost resource * counts.of p.id) =
      ((distinctPlans plans).map Plan.id).map fun id =>
        costOf plans resource id * counts.of id := by
    rw [List.map_map]
    refine List.map_congr_left fun p kept => ?_
    rw [Function.comp_apply, costOf_of_find? (mem_distinctPlans_iff.mp kept)]
  calc usage counts resource (distinctPlans plans)
      = ((distinctPlans plans).map fun p => p.cost resource * counts.of p.id).sum := rfl
    _ = ∑ id ∈ ((distinctPlans plans).map Plan.id).toFinset,
          costOf plans resource id * counts.of id := by
        rw [perPlan, List.sum_toFinset _ (nodup_distinctPlans plans)]
    _ = taken plans counts.of resource := by rw [ids_distinctPlans]; rfl

/-! ### The target among the plans -/

/-- A plan behind others counts only if none of them has its id. -/
theorem taken_concat_of_mem (known : target.id ∈ plans.map Plan.id) (count : String → Nat)
    (resource : String) :
    taken (plans ++ [target]) count resource = taken plans count resource := by
  have ids : ((plans ++ [target]).map Plan.id).toFinset = (plans.map Plan.id).toFinset := by
    ext id
    simp only [List.map_append, List.map_singleton, List.mem_toFinset, List.mem_append,
      List.mem_singleton, or_iff_left_iff_imp]
    rintro rfl
    exact known
  rw [taken, ids]
  refine Finset.sum_congr rfl fun id listed => ?_
  obtain ⟨p, found⟩ := mem_ids_iff.mp listed
  have found' : (plans ++ [target]).find? (fun p => p.id == id) = some p := by
    rw [List.find?_append, found, Option.some_or]
  rw [costOf_of_find? found, costOf_of_find? found']

/-- The target counts as well, behind all plans of the list. -/
theorem usage_costedPlans (target : Plan) (plans : List Plan) (counts : InstanceCounts)
    (resource : String) : usage counts resource (costedPlans target plans) =
      taken (plans ++ [target]) counts.of resource := by
  unfold costedPlans
  split
  · rename_i listed
    have known : target.id ∈ plans.map Plan.id := by simpa using listed
    rw [usage_distinctPlans, taken_concat_of_mem known]
  · exact usage_distinctPlans ..

/-! ### Instances that come and go -/

/-- Fewer instances take no more. -/
theorem taken_mono {count fewer : String → Nat} (atMost : ∀ id, fewer id ≤ count id)
    (resource : String) : taken plans fewer resource ≤ taken plans count resource :=
  Finset.sum_le_sum fun id _ => Nat.mul_le_mul_left _ (atMost id)

/-- One more instance of a plan takes what it costs. -/
theorem taken_add_one (known : plans.find? (fun p => p.id == target.id) = some target)
    (count : String → Nat) (resource : String) :
    taken plans (fun id => count id + if target.id = id then 1 else 0) resource =
      taken plans count resource + target.cost resource := by
  have listed : target.id ∈ (plans.map Plan.id).toFinset := mem_ids_iff.mpr ⟨target, known⟩
  simp only [taken, Nat.mul_add, mul_ite, Nat.mul_one, Nat.mul_zero, Finset.sum_add_distrib,
    Finset.sum_ite_eq, if_pos listed, costOf_of_find? known]

end ServiceBroker.Quota
