import Mathlib.Data.List.Sort
import ServiceBroker.Proofs.Catalog.Entries
import ServiceBroker.Proofs.Quota.Usage

/-! What the quotas demand of one more instance, layer by layer and without regard to how they are
checked. The check lets an instance in exactly if there is room for it, and otherwise names every
limit in its way, once and in order. -/
namespace ServiceBroker

namespace Limits

variable {limits : Limits}

theorem instanceLimit?_eq_some_iff {limit : UInt32} :
    limits.instanceLimit? = some limit ↔ limits.instances = some limit ∧ 0 < limit := by
  simp [instanceLimit?, Option.filter_eq_some_iff]

theorem mem_resourceLimits_iff {resource : String} {limit : UInt32} :
    (resource, limit) ∈ limits.resourceLimits ↔
      limits.resources.get? resource = some limit ∧ 0 < limit := by
  simp [resourceLimits, NameMap.get?_eq_some_iff]

/-- The limits permit so many instances, and so much of each resource. A limit of zero is none. -/
structure Permit (limits : Limits) (instances : Nat) (used : String → Nat) : Prop where
  instances : ∀ limit, limits.instances = some limit → 0 < limit → instances ≤ limit.toNat
  resources : ∀ resource limit, limits.resources.get? resource = some limit → 0 < limit →
    used resource ≤ limit.toNat

variable {instances instances' : Nat} {used used' : String → Nat}

/-- What is permitted is so if there is less of everything. -/
theorem Permit.mono (permit : limits.Permit instances used) (fewer : instances' ≤ instances)
    (less : ∀ resource, used' resource ≤ used resource) : limits.Permit instances' used' where
  instances limit stated positive := fewer.trans (permit.instances limit stated positive)
  resources resource limit stated positive :=
    (less resource).trans (permit.resources resource limit stated positive)

/-- Where no limit is in force, everything is permitted. -/
theorem permit_of_unlimited (unlimited : limits.isLimited = false) :
    limits.Permit instances used := by
  simp only [isLimited, Bool.or_eq_false_iff, Option.isSome_eq_false_iff, Option.isNone_iff_eq_none,
    Bool.not_eq_false', List.isEmpty_iff] at unlimited
  constructor
  · intro limit stated positive
    have inForce := instanceLimit?_eq_some_iff.mpr ⟨stated, positive⟩
    rw [unlimited.1] at inForce
    cases inForce
  · intro resource limit stated positive
    have inForce := mem_resourceLimits_iff.mpr ⟨stated, positive⟩
    rw [unlimited.2] at inForce
    cases inForce

end Limits

namespace QuotaViolation

/-- The place of the layer among the four. -/
def layer : QuotaViolation → Nat
  | planInstances .. => 0
  | globalInstances .. => 1
  | planResource .. => 2
  | globalResource .. => 3

/-- The resource that is short; none where instances are counted. -/
def resource : QuotaViolation → String
  | planInstances .. | globalInstances .. => ""
  | planResource _ resource .. | globalResource resource .. => resource

/-- One violation stands before another: by layer, and within a layer by resource. -/
def Precedes (v w : QuotaViolation) : Prop :=
  v.layer < w.layer ∨ v.layer = w.layer ∧ v.resource < w.resource

instance : Std.Irrefl Precedes where
  irrefl v := by
    rintro (lower | ⟨_, less⟩)
    · exact Nat.lt_irrefl _ lower
    · exact String.lt_irrefl _ less

theorem Precedes.asymm {v w : QuotaViolation} (first : v.Precedes w) : ¬ w.Precedes v := by
  rintro (back | ⟨same', back⟩)
  · rcases first with lower | ⟨same, _⟩ <;> omega
  · rcases first with lower | ⟨_, less⟩
    · omega
    · exact String.lt_irrefl _ (String.lt_trans less back)

instance : Std.Antisymm Precedes where
  antisymm _ _ first second := absurd second first.asymm

end QuotaViolation

namespace Quota

variable (target : Plan) (plans : List Plan) (count : String → Nat) (total : Nat) (global : Limits)

/-- There is room for one more instance of the target: the limits of the plan and those of the
offering permit it, given the number of instances under each plan id and in total. -/
structure Room : Prop where
  plan : target.limits.Permit (count target.id + 1) fun resource =>
    target.cost resource * (count target.id + 1)
  offering : global.Permit (total + 1) fun resource =>
    taken (plans ++ [target]) count resource + target.cost resource

/-- A limit that one more instance of the target would break, with the amounts that say so. -/
inductive Broken : QuotaViolation → Prop where
  | planInstances {limit : UInt32} (stated : target.quotas.instanceLimit = some limit)
      (positive : 0 < limit) (reached : limit.toNat ≤ count target.id) :
      Broken (.planInstances target.id limit.toNat (count target.id))
  | globalInstances {limit : UInt32} (stated : global.instances = some limit)
      (positive : 0 < limit) (reached : limit.toNat ≤ total) :
      Broken (.globalInstances limit.toNat total)
  | planResource {resource : String} {limit : UInt32}
      (stated : target.limits.resources.get? resource = some limit) (positive : 0 < limit)
      (exceeded : limit.toNat < target.cost resource * (count target.id + 1)) :
      Broken (.planResource target.id resource limit.toNat
        (target.cost resource * count target.id) (target.cost resource))
  | globalResource {resource : String} {limit : UInt32}
      (stated : global.resources.get? resource = some limit) (positive : 0 < limit)
      (exceeded : limit.toNat < taken (plans ++ [target]) count resource + target.cost resource) :
      Broken (.globalResource resource limit.toNat (taken (plans ++ [target]) count resource)
        (target.cost resource))

variable {target : Plan} {plans : List Plan} {count : String → Nat} {total : Nat} {global : Limits}
  {counts : InstanceCounts} {v : QuotaViolation}

/-- There is room exactly if no limit is broken. -/
theorem room_iff : Room target plans count total global ↔
    ∀ v, ¬ Broken target plans count total global v := by
  constructor
  · intro room v broken
    cases broken with
    | planInstances stated positive reached =>
      exact absurd (room.plan.instances _ stated positive) (Nat.not_lt.mpr reached)
    | globalInstances stated positive reached =>
      exact absurd (room.offering.instances _ stated positive) (Nat.not_lt.mpr reached)
    | planResource stated positive exceeded =>
      exact absurd (room.plan.resources _ _ stated positive) (Nat.not_le.mpr exceeded)
    | globalResource stated positive exceeded =>
      exact absurd (room.offering.resources _ _ stated positive) (Nat.not_le.mpr exceeded)
  · intro whole
    constructor
    · constructor
      · intro limit stated positive
        by_contra reached
        exact whole _ (.planInstances stated positive (Nat.not_lt.mp reached))
      · intro resource limit stated positive
        by_contra exceeded
        exact whole _ (.planResource stated positive (Nat.not_le.mp exceeded))
    · constructor
      · intro limit stated positive
        by_contra reached
        exact whole _ (.globalInstances stated positive (Nat.not_lt.mp reached))
      · intro resource limit stated positive
        by_contra exceeded
        exact whole _ (.globalResource stated positive (Nat.not_le.mp exceeded))

/-! ### The layers of the check

Two layers count instances and two measure resources. They differ in whose limits they look at, in
what is used already and in how they name a broken limit. -/

/-- The limit on a number of instances, if that number has reached it. -/
def instanceLayer (limits : Limits) (current : Nat) (name : Nat → Nat → QuotaViolation) :
    List QuotaViolation :=
  match limits.instanceLimit? with
  | some limit => if current ≥ limit.toNat then [name limit.toNat current] else []
  | none => []

/-- The limits on resources that what is used and what is required exceed together. -/
def resourceLayer (limits : Limits) (used required : String → Nat)
    (name : String → Nat → Nat → Nat → QuotaViolation) : List QuotaViolation :=
  limits.resourceLimits.filterMap fun (resource, limit) =>
    if used resource + required resource > limit.toNat then
      some (name resource limit.toNat (used resource) (required resource))
    else none

theorem violations_eq (target : Plan) (plans : List Plan) (counts : InstanceCounts)
    (global : Limits) : violations target plans counts global =
      instanceLayer target.limits (counts.of target.id) (.planInstances target.id) ++
      instanceLayer global counts.total .globalInstances ++
      resourceLayer target.limits (fun resource => target.cost resource * counts.of target.id)
        target.cost (.planResource target.id) ++
      resourceLayer global (taken (plans ++ [target]) counts.of) target.cost .globalResource := by
  rw [violations, globalResources]
  simp only [usage_costedPlans]
  rfl

/-- An ordered part of one layer. -/
structure InLayer (n : Nat) (violations : List QuotaViolation) : Prop where
  ordered : violations.Pairwise QuotaViolation.Precedes
  layer : ∀ v ∈ violations, v.layer = n

theorem InLayer.before {m n : Nat} {first second : List QuotaViolation} (low : InLayer m first)
    (high : InLayer n second) (lower : m < n) : ∀ v ∈ first, ∀ w ∈ second, v.Precedes w := by
  intro v isFirst w isSecond
  left
  rw [low.layer v isFirst, high.layer w isSecond]
  exact lower

section Layers

variable {limits : Limits} {current : Nat} {used required : String → Nat} {n : Nat}

theorem mem_instanceLayer_iff {name : Nat → Nat → QuotaViolation} :
    v ∈ instanceLayer limits current name ↔ ∃ limit, limits.instances = some limit ∧ 0 < limit ∧
      limit.toNat ≤ current ∧ v = name limit.toNat current := by
  unfold instanceLayer
  split
  · rename_i limit inForce
    obtain ⟨stated, positive⟩ := Limits.instanceLimit?_eq_some_iff.mp inForce
    by_cases reached : limit.toNat ≤ current
    · simp [reached, stated, positive]
    · simp [reached, stated]
  · rename_i unlimited
    simp only [List.not_mem_nil, false_iff]
    rintro ⟨limit, stated, positive, _⟩
    rw [Limits.instanceLimit?_eq_some_iff.mpr ⟨stated, positive⟩] at unlimited
    cases unlimited

theorem mem_resourceLayer_iff {name : String → Nat → Nat → Nat → QuotaViolation} :
    v ∈ resourceLayer limits used required name ↔ ∃ resource limit,
      limits.resources.get? resource = some limit ∧ 0 < limit ∧
        limit.toNat < used resource + required resource ∧
        v = name resource limit.toNat (used resource) (required resource) := by
  rw [resourceLayer, List.mem_filterMap]
  constructor
  · rintro ⟨⟨resource, limit⟩, member, named⟩
    obtain ⟨stated, positive⟩ := Limits.mem_resourceLimits_iff.mp member
    obtain ⟨exceeded, same⟩ := Option.ite_none_right_eq_some.mp named
    exact ⟨resource, limit, stated, positive, exceeded, (Option.some.inj same).symm⟩
  · rintro ⟨resource, limit, stated, positive, exceeded, rfl⟩
    exact ⟨_, Limits.mem_resourceLimits_iff.mpr ⟨stated, positive⟩, if_pos exceeded⟩

theorem inLayer_instanceLayer {name : Nat → Nat → QuotaViolation}
    (layer : ∀ limit current, (name limit current).layer = n) :
    InLayer n (instanceLayer limits current name) := by
  constructor
  · unfold instanceLayer
    split
    · split
      · exact List.pairwise_singleton ..
      · exact .nil
    · exact .nil
  · intro v member
    obtain ⟨_, _, _, _, rfl⟩ := mem_instanceLayer_iff.mp member
    exact layer ..

/-- Limits on resources are looked at in the order of the resources. -/
theorem inLayer_resourceLayer {name : String → Nat → Nat → Nat → QuotaViolation}
    (layer : ∀ resource limit used required, (name resource limit used required).layer = n)
    (named : ∀ resource limit used required,
      (name resource limit used required).resource = resource) :
    InLayer n (resourceLayer limits used required name) := by
  constructor
  · have ordered : limits.resourceLimits.Pairwise fun a b => a.1 < b.1 :=
      limits.resources.ordered.filter _
    refine List.Pairwise.filterMap _ (fun a b below v isFirst w isSecond => ?_) ordered
    obtain ⟨_, isFirst⟩ := Option.ite_none_right_eq_some.mp isFirst
    obtain ⟨_, isSecond⟩ := Option.ite_none_right_eq_some.mp isSecond
    right
    rw [← Option.some.inj isFirst, ← Option.some.inj isSecond, layer, layer, named, named]
    exact ⟨rfl, below⟩
  · intro v member
    obtain ⟨_, _, _, _, _, rfl⟩ := mem_resourceLayer_iff.mp member
    exact layer ..

end Layers

/-- What the check names are the broken limits. -/
theorem mem_violations_iff : v ∈ violations target plans counts global ↔
    Broken target plans counts.of counts.total global v := by
  simp only [violations_eq, List.mem_append, mem_instanceLayer_iff, mem_resourceLayer_iff]
  constructor
  · rintro (((⟨_, stated, positive, reached, rfl⟩ | ⟨_, stated, positive, reached, rfl⟩) |
      ⟨_, _, stated, positive, exceeded, rfl⟩) | ⟨_, _, stated, positive, exceeded, rfl⟩)
    · exact .planInstances stated positive reached
    · exact .globalInstances stated positive reached
    · exact .planResource stated positive (Nat.mul_succ .. ▸ exceeded)
    · exact .globalResource stated positive exceeded
  · intro broken
    cases broken with
    | planInstances stated positive reached =>
      exact .inl (.inl (.inl ⟨_, stated, positive, reached, rfl⟩))
    | globalInstances stated positive reached =>
      exact .inl (.inl (.inr ⟨_, stated, positive, reached, rfl⟩))
    | planResource stated positive exceeded =>
      exact .inl (.inr ⟨_, _, stated, positive, Nat.mul_succ .. ▸ exceeded, rfl⟩)
    | globalResource stated positive exceeded =>
      exact .inr ⟨_, _, stated, positive, exceeded, rfl⟩

/-- They are named layer by layer, and within a layer by resource. -/
theorem ordered_violations (target : Plan) (plans : List Plan) (counts : InstanceCounts)
    (global : Limits) :
    (violations target plans counts global).Pairwise QuotaViolation.Precedes := by
  have planInstances : InLayer 0
      (instanceLayer target.limits (counts.of target.id) (.planInstances target.id)) :=
    inLayer_instanceLayer fun _ _ => rfl
  have globalInstances : InLayer 1 (instanceLayer global counts.total .globalInstances) :=
    inLayer_instanceLayer fun _ _ => rfl
  have planResources : InLayer 2 (resourceLayer target.limits
      (fun resource => target.cost resource * counts.of target.id) target.cost
      (.planResource target.id)) :=
    inLayer_resourceLayer (fun _ _ _ _ => rfl) fun _ _ _ _ => rfl
  have globalResources : InLayer 3 (resourceLayer global (taken (plans ++ [target]) counts.of)
      target.cost .globalResource) :=
    inLayer_resourceLayer (fun _ _ _ _ => rfl) fun _ _ _ _ => rfl
  simp only [violations_eq, List.pairwise_append, List.mem_append]
  refine ⟨⟨⟨planInstances.ordered, globalInstances.ordered, ?_⟩, planResources.ordered, ?_⟩,
    globalResources.ordered, ?_⟩
  · exact planInstances.before globalInstances (by decide)
  · rintro v (first | first)
    · exact planInstances.before planResources (by decide) v first
    · exact globalInstances.before planResources (by decide) v first
  · rintro v ((first | first) | first)
    · exact planInstances.before globalResources (by decide) v first
    · exact globalInstances.before globalResources (by decide) v first
    · exact planResources.before globalResources (by decide) v first

/-! ### The check -/

theorem check_eq_ok_iff_violations :
    check target plans counts global = .ok () ↔ violations target plans counts global = [] := by
  unfold check
  split
  · simp [*]
  · rename_i broken
    simp only [reduceCtorEq, false_iff]
    exact broken

theorem check_eq_error_iff_violations {broken : List QuotaViolation} :
    check target plans counts global = .error broken ↔
      broken ≠ [] ∧ violations target plans counts global = broken := by
  unfold check
  split
  · rename_i whole
    simp [whole, eq_comm]
  · rename_i short
    constructor
    · intro named
      cases named
      exact ⟨short, rfl⟩
    · rintro ⟨_, rfl⟩
      rfl

/-- The check names a limit on all instances together exactly if it is exceeded, with the amounts
that say so. -/
theorem names_globalResource_iff {resource : String} {limit : UInt32} {used required : Nat}
    (stated : global.resources.get? resource = some limit) (positive : 0 < limit) :
    (∃ broken, check target plans counts global = .error broken ∧
        .globalResource resource limit.toNat used required ∈ broken) ↔
      used = taken (plans ++ [target]) counts.of resource ∧ required = target.cost resource ∧
        limit.toNat < used + required := by
  constructor
  · rintro ⟨broken, named, member⟩
    obtain ⟨_, rfl⟩ := check_eq_error_iff_violations.mp named
    generalize is : QuotaViolation.globalResource resource limit.toNat used required = v at member
    cases mem_violations_iff.mp member with
    | globalResource _ _ exceeded =>
      obtain ⟨rfl, same, rfl, rfl⟩ := QuotaViolation.globalResource.inj is
      exact ⟨rfl, rfl, same ▸ exceeded⟩
    | _ => cases is
  · rintro ⟨rfl, rfl, exceeded⟩
    have member := mem_violations_iff.mpr (.globalResource stated positive exceeded)
    exact ⟨_, check_eq_error_iff_violations.mpr ⟨List.ne_nil_of_mem member, rfl⟩, member⟩

/-- The check lets an instance in exactly if there is room for it. -/
theorem check_eq_ok_iff : check target plans counts global = .ok () ↔
    Room target plans counts.of counts.total global := by
  rw [check_eq_ok_iff_violations, List.eq_nil_iff_forall_not_mem, room_iff]
  simp only [mem_violations_iff]

/-- The check lets an instance in if there is room for it, and otherwise names the broken limits,
each once: by layer, and within a layer by resource. -/
theorem check_names_broken_limits (target : Plan) (plans : List Plan) (counts : InstanceCounts)
    (global : Limits) :
    (check target plans counts global = .ok () ↔ Room target plans counts.of counts.total global) ∧
      ∀ named, check target plans counts global = .error named ↔
        named ≠ [] ∧ named.Pairwise QuotaViolation.Precedes ∧
          ∀ v, v ∈ named ↔ Broken target plans counts.of counts.total global v := by
  refine ⟨check_eq_ok_iff, fun named => ?_⟩
  rw [check_eq_error_iff_violations]
  refine and_congr_right fun _ => ⟨?_, ?_⟩
  · rintro rfl
    exact ⟨ordered_violations .., fun v => mem_violations_iff⟩
  · rintro ⟨ordered, names⟩
    exact (ordered_violations ..).eq_of_mem_iff ordered fun v =>
      mem_violations_iff.trans (names v).symm

example : check
    { id := "p", name := "p"
      quotas := { resources := .singleton "disk" { limit := some 2, cost := some 3 } } }
    [] .empty { resources := .singleton "disk" 1 } =
    .error [.planResource "p" "disk" 2 0 3, .globalResource "disk" 1 0 3] := rfl

end Quota

end ServiceBroker
