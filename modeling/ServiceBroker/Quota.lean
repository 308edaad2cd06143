import ServiceBroker.Catalog.Plan

/-! Quotas: whether one more instance of a plan stays within the limits of the plan and of the
offering as a whole. There are four layers, the number of instances and the resources for each of
the two, and every limit that would be broken is named. -/
namespace ServiceBroker

/-- The number of instances of each plan. A plan without an entry has none. -/
abbrev InstanceCounts := NameMap UInt32

namespace InstanceCounts

def of (counts : InstanceCounts) (planId : String) : Nat :=
  ((counts.get? planId).map UInt32.toNat).getD 0

/-- The number of instances of all plans together. -/
def total (counts : InstanceCounts) : Nat := (counts.values.map UInt32.toNat).foldr (· + ·) 0

end InstanceCounts

/-- A limit that one more instance would break. -/
inductive QuotaViolation where
  | planInstances (planId : String) (limit current : Nat)
  | globalInstances (limit current : Nat)
  | planResource (planId resource : String) (limit used required : Nat)
  | globalResource (resource : String) (limit used required : Nat)
  deriving DecidableEq, Inhabited

namespace QuotaViolation

/-- The amounts of a resource limit that would be broken. -/
def amounts (resource : String) (limit used required : Nat) : String :=
  resource ++ " (limit " ++ limit.repr ++ ", used " ++ used.repr ++ ", requires " ++
    required.repr ++ ")"

def message : QuotaViolation → String
  | planInstances planId _ current =>
    "plan instance limit exceeded for plan ID: " ++ planId ++ ". Total instances: " ++ current.repr
  | globalInstances _ current =>
    "global instance limit exceeded. Total instances: " ++ current.repr
  | planResource planId resource limit used required =>
    "plan resource limit exceeded for plan ID: " ++ planId ++ ": " ++
      amounts resource limit used required
  | globalResource resource limit used required =>
    "global resource limit exceeded: " ++ amounts resource limit used required

def messages (violations : List QuotaViolation) : String :=
  ", ".intercalate (violations.map message)

end QuotaViolation

namespace Quota

/-- The plans with distinct ids; of several with one id the first. -/
def distinctPlans (plans : List Plan) : List Plan :=
  plans.foldl (fun kept p => if kept.any fun q => q.id == p.id then kept else kept ++ [p]) []

/-- The plans that take resources of the offering: those of the list, and the target if the list
does not have its id. -/
def costedPlans (target : Plan) (plans : List Plan) : List Plan :=
  distinctPlans (if plans.any fun p => p.id == target.id then plans else plans ++ [target])

/-- How much of a resource the instances of some plans take. -/
def usage (counts : InstanceCounts) (resource : String) (plans : List Plan) : Nat :=
  (plans.map fun p => p.cost resource * counts.of p.id).foldr (· + ·) 0

/-- The limit on the instances of the plan. -/
def planInstances (target : Plan) (counts : InstanceCounts) : List QuotaViolation :=
  match target.limits.instanceLimit? with
  | some limit =>
    let current := counts.of target.id
    if current ≥ limit.toNat then [.planInstances target.id limit.toNat current] else []
  | none => []

/-- The limit on the instances of the offering. -/
def globalInstances (global : Limits) (counts : InstanceCounts) : List QuotaViolation :=
  match global.instanceLimit? with
  | some limit =>
    let current := counts.total
    if current ≥ limit.toNat then [.globalInstances limit.toNat current] else []
  | none => []

/-- The limits on the resources of the plan's instances. -/
def planResources (target : Plan) (counts : InstanceCounts) : List QuotaViolation :=
  target.limits.resourceLimits.filterMap fun (resource, limit) =>
    let required := target.cost resource
    let used := required * counts.of target.id
    if used + required > limit.toNat then
      some (.planResource target.id resource limit.toNat used required)
    else none

/-- The limits on the resources of the offering's instances. -/
def globalResources (target : Plan) (plans : List Plan) (counts : InstanceCounts)
    (global : Limits) : List QuotaViolation :=
  global.resourceLimits.filterMap fun (resource, limit) =>
    let used := usage counts resource (costedPlans target plans)
    let required := target.cost resource
    if used + required > limit.toNat then
      some (.globalResource resource limit.toNat used required)
    else none

/-- Every limit that one more instance of the target would break. -/
def violations (target : Plan) (plans : List Plan) (counts : InstanceCounts) (global : Limits) :
    List QuotaViolation :=
  planInstances target counts ++ globalInstances global counts ++ planResources target counts ++
    globalResources target plans counts global

/-- Admits one more instance of the target, or names the limits in its way. -/
def check (target : Plan) (plans : List Plan) (counts : InstanceCounts) (global : Limits) :
    Except (List QuotaViolation) Unit :=
  match violations target plans counts global with
  | [] => .ok ()
  | broken => .error broken

end Quota

end ServiceBroker
