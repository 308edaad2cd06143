import Mathlib.Data.List.Find
import Mathlib.Data.List.Forall2
import ServiceBroker.Proofs.Quota.Fleet

/-! Quotas that grow tighter. What is in the way of one more instance stays in its way when there
are more instances, when a limit is lowered and when one is set where there was none. A limit of
zero is none, so to set a limit to zero is not to lower it. The order of the plans makes no
difference. -/
namespace ServiceBroker

namespace Limits

/-- Other limits are as tight: for every limit in force they have one in force that is no larger. -/
structure Tightens (limits limits' : Limits) : Prop where
  instances : ∀ limit, limits.instances = some limit → 0 < limit →
    ∃ limit', limits'.instances = some limit' ∧ 0 < limit' ∧ limit' ≤ limit
  resources : ∀ resource limit, limits.resources.get? resource = some limit → 0 < limit →
    ∃ limit', limits'.resources.get? resource = some limit' ∧ 0 < limit' ∧ limit' ≤ limit

/-- One limit is lowered, or set where none was in force. -/
inductive Lowers (limits : Limits) : Limits → Prop where
  | instances {limit : UInt32} (positive : 0 < limit)
      (lower : ∀ old, limits.instances = some old → 0 < old → limit ≤ old) :
      Lowers limits { limits with instances := some limit }
  | resource {kind : String} {limit : UInt32} (positive : 0 < limit)
      (lower : ∀ old, limits.resources.get? kind = some old → 0 < old → limit ≤ old) :
      Lowers limits { limits with resources := limits.resources.insert kind limit }

variable {limits limits' : Limits}

theorem Tightens.refl (limits : Limits) : limits.Tightens limits where
  instances limit stated positive := ⟨limit, stated, positive, UInt32.le_refl limit⟩
  resources _ limit stated positive := ⟨limit, stated, positive, UInt32.le_refl limit⟩

theorem Lowers.tightens (lowers : limits.Lowers limits') : limits.Tightens limits' := by
  have kept := Tightens.refl limits
  cases lowers with
  | instances positive lower =>
    exact ⟨fun old stated inForce => ⟨_, rfl, positive, lower old stated inForce⟩, kept.resources⟩
  | @resource kind limit positive lower =>
    refine ⟨kept.instances, fun resource old stated inForce => ?_⟩
    rw [NameMap.get?_insert]
    by_cases same : resource = kind
    · subst same
      exact ⟨limit, if_pos rfl, positive, lower old stated inForce⟩
    · rw [if_neg same]
      exact kept.resources resource old stated inForce

end Limits

/-- A plan goes by the same id, and its instances take the same. -/
def Plan.SameCosts (p p' : Plan) : Prop := p'.id = p.id ∧ p'.cost = p.cost

/-- More instances of each plan are more instances in total. -/
theorem InstanceCounts.total_mono {counts counts' : InstanceCounts}
    (more : ∀ planId, counts.of planId ≤ counts'.of planId) : counts.total ≤ counts'.total := by
  rw [total_eq_sum_union counts counts', total_eq_sum_union counts' counts, Finset.union_comm]
  exact Finset.sum_le_sum fun planId _ => more planId

namespace Quota

variable {target target' : Plan} {plans plans' : List Plan} {count count' : String → Nat}
  {total total' : Nat} {global global' : Limits} {v : QuotaViolation}

/-- Only the ids of plans and what their instances take matter. -/
theorem taken_congr (same : List.Forall₂ Plan.SameCosts plans plans') (count : String → Nat)
    (resource : String) : taken plans' count resource = taken plans count resource := by
  have both : plans'.map Plan.id = plans.map Plan.id ∧
      ∀ id, costOf plans' resource id = costOf plans resource id := by
    induction same with
    | nil => exact ⟨rfl, fun _ => rfl⟩
    | @cons p p' rest rest' first _ ih =>
      obtain ⟨sameId, sameCost⟩ := first
      refine ⟨by rw [List.map_cons, List.map_cons, sameId, ih.1], fun id => ?_⟩
      have later := ih.2 id
      simp only [costOf, List.find?_cons, sameId] at later ⊢
      split
      · simp [sameCost]
      · exact later
  rw [taken, taken, both.1]
  exact Finset.sum_congr rfl fun id _ => by rw [both.2]

/-- The order of plans with distinct ids makes no difference. -/
theorem taken_perm (order : plans.Perm plans') (distinct : (plans.map Plan.id).Nodup)
    (target : Plan) (count : String → Nat) (resource : String) :
    taken (plans ++ [target]) count resource = taken (plans' ++ [target]) count resource := by
  have ids : ((plans ++ [target]).map Plan.id).toFinset =
      ((plans' ++ [target]).map Plan.id).toFinset :=
    List.toFinset_eq_of_perm _ _ ((order.append_right _).map _)
  have first (id : String) :
      plans.find? (fun p => p.id == id) = plans'.find? fun p => p.id == id := by
    refine List.find?_eq_find?_of_perm order ?_
    rintro p ⟨listed, isId⟩ q ⟨listed', isId'⟩
    have sameId : p.id = q.id := (beq_iff_eq.mp isId).trans (beq_iff_eq.mp isId').symm
    exact List.inj_on_of_nodup_map distinct listed listed' sameId
  have cost (id : String) :
      costOf (plans ++ [target]) resource id = costOf (plans' ++ [target]) resource id := by
    rw [costOf, costOf, List.find?_append, List.find?_append, first]
  rw [taken, taken, ids]
  exact Finset.sum_congr rfl fun id _ => by rw [cost]

/-- A limit that is broken stays broken, or a tighter one is broken in its place. -/
theorem Broken.tighter (more : ∀ id, count id ≤ count' id) (moreInTotal : total ≤ total')
    (same : target.SameCosts target') (listed : List.Forall₂ Plan.SameCosts plans plans')
    (plan : target.limits.Tightens target'.limits) (offering : global.Tightens global')
    (broken : Broken target plans count total global v) :
    ∃ v', Broken target' plans' count' total' global' v' ∧ v'.layer = v.layer ∧
      v'.resource = v.resource := by
  obtain ⟨sameId, sameCost⟩ := same
  have ofTarget : count target.id ≤ count' target'.id := sameId ▸ more target.id
  cases broken with
  | planInstances stated positive reached =>
    obtain ⟨limit', stated', positive', lower⟩ := plan.instances _ stated positive
    have reached' : limit'.toNat ≤ count' target'.id := lower.trans (reached.trans ofTarget)
    exact ⟨_, .planInstances stated' positive' reached', rfl, rfl⟩
  | globalInstances stated positive reached =>
    obtain ⟨limit', stated', positive', lower⟩ := offering.instances _ stated positive
    have reached' : limit'.toNat ≤ total' := lower.trans (reached.trans moreInTotal)
    exact ⟨_, .globalInstances stated' positive' reached', rfl, rfl⟩
  | @planResource resource limit stated positive exceeded =>
    obtain ⟨limit', stated', positive', lower⟩ := plan.resources _ _ stated positive
    have exceeded' : limit'.toNat < target'.cost resource * (count' target'.id + 1) := calc
      limit'.toNat ≤ limit.toNat := lower
      _ < target.cost resource * (count target.id + 1) := exceeded
      _ ≤ target'.cost resource * (count' target'.id + 1) := by
        rw [sameCost]
        exact Nat.mul_le_mul_left _ (Nat.succ_le_succ ofTarget)
    exact ⟨_, .planResource stated' positive' exceeded', rfl, rfl⟩
  | @globalResource resource limit stated positive exceeded =>
    obtain ⟨limit', stated', positive', lower⟩ := offering.resources _ _ stated positive
    have together : List.Forall₂ Plan.SameCosts (plans ++ [target]) (plans' ++ [target']) :=
      List.rel_append listed (.cons ⟨sameId, sameCost⟩ .nil)
    have exceeded' : limit'.toNat <
        taken (plans' ++ [target']) count' resource + target'.cost resource := calc
      limit'.toNat ≤ limit.toNat := lower
      _ < taken (plans ++ [target]) count resource + target.cost resource := exceeded
      _ ≤ taken (plans' ++ [target']) count' resource + target'.cost resource := by
        rw [taken_congr together, sameCost]
        exact Nat.add_le_add_right (taken_mono more resource) _
    exact ⟨_, .globalResource stated' positive' exceeded', rfl, rfl⟩

/-- Whatever limit one check names, the other one names a limit of the same layer on the same
resource. -/
def StillNamed (before after : Except (List QuotaViolation) Unit) : Prop :=
  ∀ named, before = .error named → ∃ named', after = .error named' ∧
    ∀ v ∈ named, ∃ v' ∈ named', v'.layer = v.layer ∧ v'.resource = v.resource

theorem stillNamed_tighter {counts counts' : InstanceCounts}
    (more : ∀ planId, counts.of planId ≤ counts'.of planId) (same : target.SameCosts target')
    (listed : List.Forall₂ Plan.SameCosts plans plans')
    (plan : target.limits.Tightens target'.limits) (offering : global.Tightens global') :
    StillNamed (check target plans counts global) (check target' plans' counts' global') := by
  intro named refused
  obtain ⟨some, rfl⟩ := check_eq_error_iff_violations.mp refused
  have still (v : QuotaViolation) (broken : v ∈ violations target plans counts global) :
      ∃ v' ∈ violations target' plans' counts' global', v'.layer = v.layer ∧
        v'.resource = v.resource := by
    obtain ⟨v', broken', alike⟩ := (mem_violations_iff.mp broken).tighter more
      (InstanceCounts.total_mono more) same listed plan offering
    exact ⟨v', mem_violations_iff.mpr broken', alike⟩
  obtain ⟨v, broken⟩ := List.exists_mem_of_ne_nil _ some
  obtain ⟨v', broken', _⟩ := still v broken
  exact ⟨_, check_eq_error_iff_violations.mpr ⟨List.ne_nil_of_mem broken', rfl⟩, still⟩

theorem check_perm (order : plans.Perm plans') (distinct : (plans.map Plan.id).Nodup)
    (target : Plan) (counts : InstanceCounts) (global : Limits) :
    check target plans counts global = check target plans' counts global := by
  have same : taken (plans ++ [target]) counts.of = taken (plans' ++ [target]) counts.of :=
    funext (taken_perm order distinct target counts.of)
  rw [check, check, violations_eq, violations_eq, same]

/-- More instances and tighter limits take nothing out of the way of one more instance, and plans
with distinct ids may be listed in any order. -/
theorem check_monotone (target : Plan) (plans : List Plan) (counts : InstanceCounts)
    (global : Limits) :
    (∀ counts' : InstanceCounts, (∀ planId, counts.of planId ≤ counts'.of planId) →
      StillNamed (check target plans counts global) (check target plans counts' global)) ∧
    (∀ target' plans' global', target.SameCosts target' →
      List.Forall₂ Plan.SameCosts plans plans' → target.limits.Tightens target'.limits →
      global.Tightens global' →
      StillNamed (check target plans counts global) (check target' plans' counts global')) ∧
    ∀ plans', plans.Perm plans' → (plans.map Plan.id).Nodup →
      check target plans counts global = check target plans' counts global := by
  refine ⟨fun counts' more => ?_, fun target' plans' global' same listed plan offering => ?_,
    fun plans' order distinct => check_perm order distinct target counts global⟩
  · have itself : List.Forall₂ Plan.SameCosts plans plans :=
      List.forall₂_same.mpr fun _ _ => ⟨rfl, rfl⟩
    exact stillNamed_tighter more ⟨rfl, rfl⟩ itself (.refl _) (.refl _)
  · exact stillNamed_tighter (fun _ => Nat.le_refl _) same listed plan offering

/-- A plan with a limit on a resource, of which an instance takes three. -/
def diskPlan (id : String) (limit : UInt32) : Plan :=
  { id, name := id
    quotas := { resources := .singleton "disk" { limit := some limit, cost := some 3 } } }

/-- The check names the limit of the plan on the resource. -/
def NamesDisk (result : Except (List QuotaViolation) Unit) : Prop :=
  ∃ named, result = .error named ∧ ∃ v ∈ named, v.layer = 2 ∧ v.resource = "disk"

/-- A second instance is in the way of the limit of five, and so it is with two instances already,
with a limit of four and one for all plans, and with the plans in another order. -/
theorem check_monotone_disk :
    NamesDisk (check (diskPlan "p" 5) [diskPlan "p" 5, diskPlan "q" 5] (.singleton "p" 2) {}) ∧
      NamesDisk (check (diskPlan "p" 4) [diskPlan "p" 4, diskPlan "q" 5] (.singleton "p" 1)
        { instances := some 9 }) ∧
      check (diskPlan "p" 5) [diskPlan "q" 5, diskPlan "p" 5] (.singleton "p" 1) {} =
        .error [.planResource "p" "disk" 5 3 3] := by
  obtain ⟨counts, limits, order⟩ :=
    check_monotone (diskPlan "p" 5) [diskPlan "p" 5, diskPlan "q" 5] (.singleton "p" 1) {}
  have refused : check (diskPlan "p" 5) [diskPlan "p" 5, diskPlan "q" 5] (.singleton "p" 1) {} =
      .error [.planResource "p" "disk" 5 3 3] := rfl
  have persists {after : Except (List QuotaViolation) Unit} (still : StillNamed
      (check (diskPlan "p" 5) [diskPlan "p" 5, diskPlan "q" 5] (.singleton "p" 1) {}) after) :
      NamesDisk after := by
    obtain ⟨named, isAfter, alike⟩ := still _ refused
    exact ⟨named, isAfter, alike _ List.mem_cons_self⟩
  refine ⟨persists (counts _ fun planId => ?_), persists (limits _ _ _ ⟨rfl, rfl⟩ ?_ ?_ ?_), ?_⟩
  · by_cases same : planId = "p"
    · subst same
      decide
    · simp [InstanceCounts.of, NameMap.singleton, NameMap.get?_insert, same]
  · exact .cons ⟨rfl, rfl⟩ (.cons ⟨rfl, rfl⟩ .nil)
  · have lower : (diskPlan "p" 5).limits.Lowers
        { (diskPlan "p" 5).limits with
          resources := (diskPlan "p" 5).limits.resources.insert "disk" 4 } :=
      .resource (by decide) fun old stated _ => by
        cases stated
        decide
    exact lower.tightens
  · have set : Limits.Lowers {} { instances := some 9 } :=
      .instances (by decide) fun _ stated _ => by cases stated
    exact set.tightens
  · rw [← order _ (.swap _ _ _) (by decide), refused]

end Quota

end ServiceBroker
