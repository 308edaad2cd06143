import Mathlib.Data.List.Pairwise
import ServiceBroker.Catalog.Validation

/-! What can be wrong with a configuration, and in which order it is looked for. The search stops at
the first defect, and a configuration without one is what a broker can work with. -/
namespace ServiceBroker

open Text (isBlankText)

/-- What is wrong with a plan that stands after plans with the ids `earlier`. -/
def Plan.defects (earlier : List String) (p : Plan) : List ConfigError :=
  (if isBlankText p.id then [.missingField "id" ("plan '" ++ p.name ++ "'")] else []) ++
    (if p.id ∈ earlier then [.duplicatePlan p.id] else []) ++
    ((p.errands.postDeploy.toList ++ p.errands.preDelete).filter fun e => isBlankText e.name).map
      fun _ => .invalidValue "lifecycle_errands" ""
        ("plan '" ++ p.id ++ "' declares an errand without a name")

/-- What is wrong with the plans of an offering, plan by plan. -/
def Offering.planDefects (o : Offering) : List ConfigError :=
  o.plans.zipIdx.flatMap fun (p, i) => p.defects ((o.plans.take i).map Plan.id)

/-- All that is wrong with a configuration, in the order in which it is looked for. -/
def BrokerConfig.defects (c : BrokerConfig) : List ConfigError :=
  (if isBlankText c.offering.id then [.missingField "id" "service_catalog"] else []) ++
    (if isBlankText c.offering.name then [.missingField "name" "service_catalog"] else []) ++
    (if c.settings.deploymentPrefix = "" then
      [.invalidValue "deployment_prefix" "" "deployment names need a non-empty prefix"] else []) ++
    c.offering.planDefects

/-- A plan whose id and errands can be named. -/
structure Plan.Usable (p : Plan) : Prop where
  id : isBlankText p.id = false
  postDeploy : ∀ e ∈ p.errands.postDeploy, isBlankText e.name = false
  preDelete : ∀ e ∈ p.errands.preDelete, isBlankText e.name = false

/-- A configuration that a broker can work with. -/
structure BrokerConfig.Usable (c : BrokerConfig) : Prop where
  serviceId : isBlankText c.offering.id = false
  serviceName : isBlankText c.offering.name = false
  deploymentPrefix : c.settings.deploymentPrefix ≠ ""
  plans : ∀ p ∈ c.offering.plans, p.Usable
  distinct : (c.offering.plans.map Plan.id).Nodup

namespace Plan

variable {earlier : List String} {p : Plan}

/-- The search through a plan stops at its first defect. -/
theorem defect?_eq_head? (seen : List String) (same : ∀ id, id ∈ seen ↔ id ∈ earlier) :
    p.defect? seen = (p.defects earlier).head? := by
  have again : seen.contains p.id = true ↔ p.id ∈ earlier := by
    rw [List.contains_iff_mem, same]
  have unnamed : (p.errands.declared.any fun e => isBlankText e.name) = true ↔
      (p.errands.declared.filter fun e => isBlankText e.name) ≠ [] := by
    rw [List.any_eq_true, ne_eq, List.filter_eq_nil_iff]
    grind
  rw [defects, ← LifecycleErrands.declared]
  unfold defect?
  by_cases blank : isBlankText p.id = true
  · simp [blank]
  · by_cases known : p.id ∈ earlier
    · rw [if_neg blank, if_pos (again.mpr known), if_neg blank, if_pos known]
      rfl
    · rw [if_neg blank, if_neg (mt again.mp known), if_neg blank, if_neg known]
      cases found : p.errands.declared.filter fun e => isBlankText e.name with
      | nil => rw [if_neg (by rw [unnamed, found]; simp)]; rfl
      | cons e rest => rw [if_pos (by rw [unnamed, found]; simp)]; rfl

theorem defects_eq_nil_iff : p.defects earlier = [] ↔ p.Usable ∧ p.id ∉ earlier := by
  unfold defects
  simp only [List.append_eq_nil_iff, List.map_eq_nil_iff, List.filter_eq_nil_iff, List.mem_append,
    Option.mem_toList, Bool.not_eq_true]
  constructor
  · rintro ⟨⟨id, fresh⟩, named⟩
    refine ⟨⟨?_, fun e declared => named e (.inl declared),
      fun e declared => named e (.inr declared)⟩, ?_⟩ <;> grind
  · rintro ⟨⟨id, postDeploy, preDelete⟩, fresh⟩
    refine ⟨⟨by simp [id], by simp [fresh]⟩, ?_⟩
    rintro e (declared | declared)
    · exact postDeploy e declared
    · exact preDelete e declared

end Plan

/-- The search through the plans stops at the first defect of the first plan that has one. -/
theorem firstPlanDefect?_eq_head? (plans before : List Plan) (seen : List String)
    (same : ∀ id, id ∈ seen ↔ id ∈ before.map Plan.id) :
    firstPlanDefect? seen plans = ((plans.zipIdx before.length).flatMap fun (p, i) =>
      p.defects (((before ++ plans).take i).map Plan.id)).head? := by
  -- The search knows of the plans before only which ids they have, not in which order they stand.
  induction plans generalizing before seen with
  | nil => rfl
  | cons p rest ih =>
    have next := ih (before ++ [p]) (p.id :: seen) fun id => by
      simp [same, or_comm]
    rw [firstPlanDefect?, List.zipIdx_cons, List.flatMap_cons, List.head?_append,
      p.defect?_eq_head? seen same]
    simp only [List.take_left]
    rw [List.length_append, List.length_singleton, List.append_assoc, List.singleton_append] at next
    cases (p.defects (before.map Plan.id)).head? with
    | none => exact next
    | some defect => rfl

namespace Offering

variable {o : Offering}

/-- Ids are distinct if each differs from the ids before it. -/
theorem nodup_ids_iff : (o.plans.map Plan.id).Nodup ↔
    ∀ p i, o.plans[i]? = some p → p.id ∉ (o.plans.take i).map Plan.id := by
  rw [List.Nodup, List.pairwise_map, List.pairwise_iff_getElem]
  constructor
  · intro apart p i held listed
    obtain ⟨q, earlier, same⟩ := List.mem_map.mp listed
    obtain ⟨j, bound, rfl⟩ := List.mem_take_iff_getElem.mp earlier
    obtain ⟨inside, rfl⟩ := List.getElem?_eq_some_iff.mp held
    exact apart j i (by omega) inside (by omega) same
  · intro fresh i j isPlan isLater before same
    refine fresh _ j (List.getElem?_eq_getElem isLater) (List.mem_map.mpr ⟨_, ?_, same⟩)
    exact List.mem_take_iff_getElem.mpr ⟨i, by omega, rfl⟩

theorem planDefects_eq_nil_iff :
    o.planDefects = [] ↔ (∀ p ∈ o.plans, p.Usable) ∧ (o.plans.map Plan.id).Nodup := by
  rw [nodup_ids_iff]
  simp only [planDefects, List.flatMap_eq_nil_iff, Plan.defects_eq_nil_iff, Prod.forall,
    List.mem_zipIdx_iff_getElem?]
  constructor
  · intro sound
    refine ⟨fun p member => ?_, fun p i held => (sound p i held).2⟩
    obtain ⟨i, held⟩ := List.mem_iff_getElem?.mp member
    exact (sound p i held).1
  · rintro ⟨usable, fresh⟩ p i held
    exact ⟨usable p (List.mem_of_getElem? held), fresh p i held⟩

end Offering

namespace BrokerConfig

variable {config : BrokerConfig}

theorem defect?_eq_head? : config.defect? = config.defects.head? := by
  have plans := firstPlanDefect?_eq_head? config.offering.plans [] [] (by simp)
  unfold defect? defects
  simp only [plans, String.isEmpty_iff]
  split
  · rfl
  · split
    · rfl
    · split <;> rfl

theorem validate_eq_error_iff {defect : ConfigError} :
    config.validate = .error defect ↔ config.defects.head? = some defect := by
  rw [validate, defect?_eq_head?]
  cases config.defects.head? <;> simp

theorem defects_eq_nil_iff : config.defects = [] ↔ config.Usable := by
  unfold defects
  simp only [List.append_eq_nil_iff, Offering.planDefects_eq_nil_iff]
  constructor
  · rintro ⟨⟨⟨serviceId, serviceName⟩, deploymentPrefix⟩, plans, distinct⟩
    exact ⟨by grind, by grind, by grind, plans, distinct⟩
  · rintro ⟨serviceId, serviceName, deploymentPrefix, plans, distinct⟩
    exact ⟨⟨⟨by simp [serviceId], by simp [serviceName]⟩, by simp [deploymentPrefix]⟩,
      plans, distinct⟩

theorem validate_eq_ok_iff : config.validate = .ok () ↔ config.Usable := by
  rw [← defects_eq_nil_iff, ← List.head?_eq_none_iff, validate, defect?_eq_head?]
  cases config.defects.head? <;> simp

end BrokerConfig

end ServiceBroker
