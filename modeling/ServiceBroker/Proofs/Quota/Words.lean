import ServiceBroker.Decimal.Power
import ServiceBroker.Proofs.Quota.Fleet

/-! The amounts that the quotas are checked with, in 64-bit words. A cost is a 32-bit word, and so is
the number of all instances together; as every plan id is counted once, what all instances take of a
resource is at most the product of the two, which leaves room in a word for one more instance. -/
namespace ServiceBroker

open Decimal

theorem Plan.cost_lt (p : Plan) (resource : String) : p.cost resource < twoTo 32 := by
  unfold Plan.cost
  cases p.quotas.costs.get? resource with
  | none => decide
  | some n => exact n.toNat_lt

namespace InstanceCounts

/-- The instances of several plans together. -/
def ofAll (counts : InstanceCounts) (planIds : List String) : Nat :=
  (planIds.map counts.of).foldr (· + ·) 0

/-- Different plans do not have more instances than there are. -/
theorem ofAll_le_total (counts : InstanceCounts) {planIds : List String}
    (distinct : planIds.Nodup) : counts.ofAll planIds ≤ counts.total := by
  have sum : counts.ofAll planIds = ∑ planId ∈ planIds.toFinset, counts.of planId :=
    (List.sum_toFinset _ distinct).symm
  rw [sum, total_eq_sum]
  apply Finset.sum_le_sum_of_ne_zero
  intro planId _ counted
  by_contra uncounted
  apply counted
  exact of_eq_zero fun listed => uncounted (List.mem_toFinset.mpr listed)

end InstanceCounts

namespace Quota

variable {target : Plan} {plans : List Plan} {counts : InstanceCounts} {global : Limits}

/-! ### How large the amounts get -/

theorem usage_cons (counts : InstanceCounts) (resource : String) (p : Plan) (rest : List Plan) :
    usage counts resource (p :: rest) =
      p.cost resource * counts.of p.id + usage counts resource rest := rfl

theorem usage_le (counts : InstanceCounts) (resource : String) (plans : List Plan) :
    usage counts resource plans ≤ (twoTo 32 - 1) * counts.ofAll (plans.map Plan.id) := by
  induction plans with
  | nil => exact Nat.zero_le _
  | cons p rest ih =>
    have cost : p.cost resource ≤ twoTo 32 - 1 := Nat.le_sub_one_of_lt (p.cost_lt resource)
    have more : counts.ofAll ((p :: rest).map Plan.id) =
        counts.of p.id + counts.ofAll (rest.map Plan.id) := rfl
    rw [usage_cons, more, Nat.mul_add]
    exact Nat.add_le_add (Nat.mul_le_mul_right _ cost) ih

theorem nodup_costedPlans (target : Plan) (plans : List Plan) :
    ((costedPlans target plans).map Plan.id).Nodup := nodup_distinctPlans _

/-- One more instance of any plan leaves the sum in a word. -/
theorem usage_add_cost_lt (fits : counts.total < twoTo 32) {group : List Plan}
    (distinct : (group.map Plan.id).Nodup) (p : Plan) (resource : String) :
    usage counts resource group + p.cost resource < twoTo 64 := by
  have most : (twoTo 32 - 1) * (twoTo 32 - 1) + (twoTo 32 - 1) < twoTo 64 := by decide
  have cost : p.cost resource ≤ twoTo 32 - 1 := Nat.le_sub_one_of_lt (p.cost_lt resource)
  have instances : counts.ofAll (group.map Plan.id) ≤ twoTo 32 - 1 :=
    Nat.le_trans (counts.ofAll_le_total distinct) (Nat.le_sub_one_of_lt fits)
  calc usage counts resource group + p.cost resource
      ≤ (twoTo 32 - 1) * counts.ofAll (group.map Plan.id) + (twoTo 32 - 1) :=
        Nat.add_le_add (usage_le ..) cost
    _ ≤ (twoTo 32 - 1) * (twoTo 32 - 1) + (twoTo 32 - 1) :=
        Nat.add_le_add_right (Nat.mul_le_mul_left _ instances) _
    _ < twoTo 64 := most

/-- The instances of a single plan are a case of this. -/
theorem cost_mul_add_lt (fits : counts.total < twoTo 32) (p : Plan) (resource : String) :
    p.cost resource * counts.of p.id + p.cost resource < twoTo 64 := by
  have alone : ([p].map Plan.id).Nodup := List.nodup_singleton _
  exact usage_add_cost_lt fits alone p resource

/-- A number that the check of the limits on resources comes to on its way. -/
inductive Amount (target : Plan) (plans : List Plan) (counts : InstanceCounts) (global : Limits) :
    Nat → Prop where
  | planUsed {resource : String} {limit : UInt32}
      (limited : (resource, limit) ∈ target.limits.resourceLimits) :
      Amount target plans counts global (target.cost resource * counts.of target.id)
  | planSum {resource : String} {limit : UInt32}
      (limited : (resource, limit) ∈ target.limits.resourceLimits) :
      Amount target plans counts global
        (target.cost resource * counts.of target.id + target.cost resource)
  /-- What the instances of one plan take. -/
  | share {resource : String} {limit : UInt32} {p : Plan}
      (limited : (resource, limit) ∈ global.resourceLimits)
      (counted : p ∈ costedPlans target plans) :
      Amount target plans counts global (p.cost resource * counts.of p.id)
  /-- What the instances of the first plans take together. -/
  | partialSum {resource : String} {limit : UInt32} {first : List Plan}
      (limited : (resource, limit) ∈ global.resourceLimits)
      (begins : first <+: costedPlans target plans) :
      Amount target plans counts global (usage counts resource first)
  | offeringSum {resource : String} {limit : UInt32}
      (limited : (resource, limit) ∈ global.resourceLimits) :
      Amount target plans counts global
        (usage counts resource (costedPlans target plans) + target.cost resource)

theorem Amount.lt {n : Nat} (amount : Amount target plans counts global n)
    (fits : counts.total < twoTo 32) : n < twoTo 64 := by
  cases amount with
  | planUsed _ => exact Nat.lt_of_le_of_lt (Nat.le_add_right ..) (cost_mul_add_lt fits _ _)
  | planSum _ => exact cost_mul_add_lt fits _ _
  | share _ _ => exact Nat.lt_of_le_of_lt (Nat.le_add_right ..) (cost_mul_add_lt fits _ _)
  | @partialSum resource _ first _ begins =>
    have distinct : (first.map Plan.id).Nodup :=
      (nodup_costedPlans target plans).sublist (begins.sublist.map _)
    exact Nat.lt_of_le_of_lt (Nat.le_add_right ..) (usage_add_cost_lt fits distinct target _)
  | offeringSum _ => exact usage_add_cost_lt fits (nodup_costedPlans target plans) _ _

/-! ### The check in words -/

/-- A number, if it is one of a 64-bit word. -/
def word? (n : Nat) : Option Nat := if n < twoTo 64 then some n else none

/-- What the instances of some plans take, plan by plan on top of a sum, without ever leaving a
word. -/
def usageInWords? (counts : InstanceCounts) (resource : String) : Nat → List Plan → Option Nat
  | sum, [] => some sum
  | sum, p :: rest => do
    let share ← word? (p.cost resource * counts.of p.id)
    usageInWords? counts resource (← word? (sum + share)) rest

/-- The limit on a resource, if what is used and what is required exceed it together. -/
def brokenInWords? (used? : String → Option Nat) (required : String → Nat)
    (name : String → Nat → Nat → Nat → QuotaViolation) :
    String × UInt32 → Option (Option QuotaViolation)
  | (resource, limit) => do
    let used ← used? resource
    let sum ← word? (used + required resource)
    return if sum > limit.toNat then some (name resource limit.toNat used (required resource))
      else none

/-- The check, given up as soon as a product or a sum does not fit a word. -/
def checkInWords? (target : Plan) (plans : List Plan) (counts : InstanceCounts) (global : Limits) :
    Option (Except (List QuotaViolation) Unit) := do
  let ofPlan ← target.limits.resourceLimits.mapM <|
    brokenInWords? (fun resource => word? (target.cost resource * counts.of target.id)) target.cost
      (.planResource target.id)
  let ofOffering ← global.resourceLimits.mapM <|
    brokenInWords? (fun resource => usageInWords? counts resource 0 (costedPlans target plans))
      target.cost .globalResource
  return match planInstances target counts ++ globalInstances global counts ++
      ofPlan.filterMap id ++ ofOffering.filterMap id with
    | [] => .ok ()
    | broken => .error broken

theorem word?_of_lt {n : Nat} (fits : n < twoTo 64) : word? n = some n := if_pos fits

/-- Where the whole sum fits a word, so does all that leads to it. -/
theorem usageInWords?_of_lt {resource : String} {sum : Nat} {group : List Plan}
    (fits : sum + usage counts resource group < twoTo 64) :
    usageInWords? counts resource sum group = some (sum + usage counts resource group) := by
  induction group generalizing sum with
  | nil => rfl
  | cons p rest ih =>
    rw [usage_cons, ← Nat.add_assoc] at fits ⊢
    have next : sum + p.cost resource * counts.of p.id < twoTo 64 :=
      Nat.lt_of_le_of_lt (Nat.le_add_right ..) fits
    have share : p.cost resource * counts.of p.id < twoTo 64 :=
      Nat.lt_of_le_of_lt (Nat.le_add_left ..) next
    simp only [usageInWords?, word?_of_lt share, word?_of_lt next, Option.bind_eq_bind,
      Option.bind_some]
    exact ih fits

/-- A layer that stays in words is the layer. -/
theorem mapM_brokenInWords? (name : String → Nat → Nat → Nat → QuotaViolation)
    {used? : String → Option Nat} {used required : String → Nat}
    (same : ∀ resource, used? resource = some (used resource))
    (fits : ∀ resource, used resource + required resource < twoTo 64) (limits : Limits) :
    ∃ found, limits.resourceLimits.mapM (brokenInWords? used? required name) = some found ∧
      found.filterMap id = resourceLayer limits used required name := by
  rw [resourceLayer]
  induction limits.resourceLimits with
  | nil => exact ⟨[], rfl, rfl⟩
  | cons entry rest ih =>
    obtain ⟨resource, limit⟩ := entry
    obtain ⟨found, read, isLayer⟩ := ih
    have first : brokenInWords? used? required name (resource, limit) =
        some (if used resource + required resource > limit.toNat then
          some (name resource limit.toNat (used resource) (required resource)) else none) := by
      simp only [brokenInWords?, same, word?_of_lt (fits resource), Option.bind_eq_bind,
        Option.bind_some, Option.pure_def]
    refine ⟨_ :: found, by simp only [List.mapM_cons, first, read]; rfl, ?_⟩
    rw [List.filterMap_cons, List.filterMap_cons, isLayer]
    rfl

/-- No amount of the check leaves a 64-bit word, and the check in words is the check, as long as the
number of all instances is a 32-bit word. -/
theorem amounts_fit_words (target : Plan) (plans : List Plan) (counts : InstanceCounts)
    (global : Limits) (fits : counts.total < twoTo 32) :
    (∀ n, Amount target plans counts global n → n < twoTo 64) ∧
      checkInWords? target plans counts global = some (check target plans counts global) := by
  refine ⟨fun n amount => amount.lt fits, ?_⟩
  have offering (resource : String) :
      usageInWords? counts resource 0 (costedPlans target plans) =
        some (usage counts resource (costedPlans target plans)) := by
    have sum := usage_add_cost_lt fits (nodup_costedPlans target plans) target resource
    rw [usageInWords?_of_lt (by omega), Nat.zero_add]
  have plan (resource : String) : word? (target.cost resource * counts.of target.id) =
      some (target.cost resource * counts.of target.id) :=
    word?_of_lt (Nat.lt_of_le_of_lt (Nat.le_add_right ..) (cost_mul_add_lt fits target resource))
  obtain ⟨ofPlan, planRead, isPlan⟩ := mapM_brokenInWords? (.planResource target.id) plan
    (cost_mul_add_lt fits target) target.limits
  obtain ⟨ofOffering, offeringRead, isOffering⟩ := mapM_brokenInWords? .globalResource offering
    (usage_add_cost_lt fits (nodup_costedPlans target plans) target) global
  simp only [checkInWords?, planRead, offeringRead, isPlan, isOffering, Option.bind_eq_bind,
    Option.bind_some, Option.pure_def]
  rfl

/-- A plan of which an instance takes as much as a 32-bit word can say. -/
def hugePlan (id : String) : Plan :=
  { id, name := id
    quotas := { resources := .singleton "disk" { limit := some 1, cost := some 4294967295 } } }

/-- All but one of the instances that a 32-bit word can count are of one plan, and the plan is listed
twice. -/
def hugeCounts : InstanceCounts := (NameMap.singleton "p" 4294967294).insert "q" 1

theorem amounts_fit_words_huge : hugeCounts.total < twoTo 32 ∧
    (18446744069414584320 : Nat) < twoTo 64 ∧
    checkInWords? (hugePlan "q") [hugePlan "p", hugePlan "p"] hugeCounts
        { resources := .singleton "disk" 1 } =
      some (.error [.planResource "q" "disk" 1 4294967295 4294967295,
        .globalResource "disk" 1 18446744065119617025 4294967295]) := by
  have fits : hugeCounts.total < twoTo 32 := by decide
  have limited : ("disk", 1) ∈
      ({ resources := .singleton "disk" 1 } : Limits).resourceLimits := by decide
  obtain ⟨amounts, inWords⟩ := amounts_fit_words (hugePlan "q") [hugePlan "p", hugePlan "p"]
    hugeCounts { resources := .singleton "disk" 1 } fits
  refine ⟨fits, amounts _ (.offeringSum limited), ?_⟩
  rw [inWords]
  rfl

end Quota

end ServiceBroker
