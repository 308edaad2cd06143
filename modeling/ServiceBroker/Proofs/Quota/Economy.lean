import ServiceBroker.Proofs.Quota.Respected

/-! How little has to be counted. A limit that is not in force asks for no count, and the limits of a
plan ask for the count of that plan alone. What the broker decides on the counts that it fetches is
therefore what it would decide on the counts of all plans. -/
namespace ServiceBroker

namespace Limits

variable {limits : Limits}

/-- Some limit is stated that is more than zero. -/
inductive InForce (limits : Limits) : Prop where
  | instances {limit : UInt32} (stated : limits.instances = some limit) (positive : 0 < limit)
  | resource {resource : String} {limit : UInt32}
      (stated : limits.resources.get? resource = some limit) (positive : 0 < limit)

theorem isLimited_iff : limits.isLimited ↔ limits.InForce := by
  constructor
  · intro limited
    rcases Bool.or_eq_true_iff.mp limited with some | some
    · obtain ⟨limit, found⟩ := Option.isSome_iff_exists.mp some
      obtain ⟨stated, positive⟩ := instanceLimit?_eq_some_iff.mp found
      exact .instances stated positive
    · obtain ⟨⟨resource, limit⟩, member⟩ := List.exists_mem_of_ne_nil limits.resourceLimits
        (by simpa using some)
      obtain ⟨stated, positive⟩ := mem_resourceLimits_iff.mp member
      exact .resource stated positive
  · rintro (⟨stated, positive⟩ | ⟨stated, positive⟩)
    · rw [isLimited, instanceLimit?_eq_some_iff.mpr ⟨stated, positive⟩]
      rfl
    · have member := mem_resourceLimits_iff.mpr ⟨stated, positive⟩
      have listed : limits.resourceLimits.isEmpty = false :=
        List.isEmpty_eq_false_iff.mpr (List.ne_nil_of_mem member)
      rw [isLimited, listed]
      exact Bool.or_true _

instance : Decidable limits.InForce := decidable_of_iff _ isLimited_iff

end Limits

namespace InstanceCounts

/-- Counts that agree on every plan agree on the total. -/
theorem total_congr {counts counts' : InstanceCounts} (same : counts.of = counts'.of) :
    counts.total = counts'.total := by
  rw [total_eq_sum_union counts counts', total_eq_sum_union counts' counts, same,
    Finset.union_comm]

end InstanceCounts

namespace Quota

variable {target : Plan} {plans : List Plan} {counts counts' : InstanceCounts}
  {limits global : Limits}

theorem instanceLayer_eq_nil (idle : ¬ limits.InForce) (current : Nat)
    (name : Nat → Nat → QuotaViolation) : instanceLayer limits current name = [] := by
  refine List.eq_nil_iff_forall_not_mem.mpr fun v member => ?_
  obtain ⟨limit, stated, positive, _⟩ := mem_instanceLayer_iff.mp member
  exact idle (.instances stated positive)

theorem resourceLayer_eq_nil (idle : ¬ limits.InForce) (used required : String → Nat)
    (name : String → Nat → Nat → Nat → QuotaViolation) :
    resourceLayer limits used required name = [] := by
  refine List.eq_nil_iff_forall_not_mem.mpr fun v member => ?_
  obtain ⟨resource, limit, stated, positive, _⟩ := mem_resourceLayer_iff.mp member
  exact idle (.resource stated positive)

/-- Only the counts that some limit in force asks for matter: all of them for the offering, and that
of the target for its plan. -/
theorem violations_congr (offering : global.InForce → counts.of = counts'.of)
    (plan : target.limits.InForce → counts.of target.id = counts'.of target.id) :
    violations target plans counts global = violations target plans counts' global := by
  have instances : instanceLayer target.limits (counts.of target.id) (.planInstances target.id) =
      instanceLayer target.limits (counts'.of target.id) (.planInstances target.id) := by
    by_cases limited : target.limits.InForce
    · rw [plan limited]
    · rw [instanceLayer_eq_nil limited, instanceLayer_eq_nil limited]
  have resources : resourceLayer target.limits
        (fun resource => target.cost resource * counts.of target.id) target.cost
        (.planResource target.id) =
      resourceLayer target.limits
        (fun resource => target.cost resource * counts'.of target.id) target.cost
        (.planResource target.id) := by
    by_cases limited : target.limits.InForce
    · rw [plan limited]
    · rw [resourceLayer_eq_nil limited, resourceLayer_eq_nil limited]
  rw [violations_eq, violations_eq, instances, resources]
  by_cases limited : global.InForce
  · rw [offering limited, InstanceCounts.total_congr (offering limited)]
  · simp only [instanceLayer_eq_nil limited, resourceLayer_eq_nil limited]

theorem check_congr (offering : global.InForce → counts.of = counts'.of)
    (plan : target.limits.InForce → counts.of target.id = counts'.of target.id) :
    check target plans counts global = check target plans counts' global := by
  rw [check, check, violations_congr offering plan]

/-- Where no limit is in force, nothing is in the way of another instance. -/
theorem check_of_idle (offering : ¬ global.InForce) (plan : ¬ target.limits.InForce) :
    check target plans counts global = .ok () := by
  rw [check_eq_ok_iff_violations, violations_eq]
  simp only [instanceLayer_eq_nil offering, instanceLayer_eq_nil plan,
    resourceLayer_eq_nil offering, resourceLayer_eq_nil plan, List.append_nil]

end Quota

/-- A counter that, as things stand, would answer with the truth. It may leave out plans without
instances. -/
structure Program.Handler.CountsTruly {σ : Type} (h : Program.Handler σ) (s : σ)
    (counts : InstanceCounts) : Prop where
  plan : ∀ span planId, ∃ n : UInt32, (h.serve span (.countPlan planId) s).1 = .ok n ∧
    n.toNat = counts.of planId
  offering : ∀ span, ∃ all : InstanceCounts, (h.serve span .countOffering s).1 = .ok all ∧
    all.of = counts.of

/-- The counter in memory does so unless it is made to fail. -/
theorem Memory.World.countsTruly {w : World} (sound : w.counter.failure = none)
    (deadline : Option Millis) : (handler deadline).CountsTruly w w.counter.counts where
  plan span planId := by
    refine ⟨(w.counter.counts.get? planId).getD 0, ?_, ?_⟩
    · change unlessFailed w.counter.failure _ = _
      rw [sound]
      rfl
    · unfold InstanceCounts.of
      cases w.counter.counts.get? planId <;> rfl
  offering span := by
    refine ⟨w.counter.counts, ?_, rfl⟩
    change unlessFailed w.counter.failure _ = _
    rw [sound]
    rfl

namespace Steps

open Procedure

/-- The counts that the limits in force ask for. -/
def neededCounts (config : BrokerConfig) (plan : Plan) : List AnyCall :=
  if config.offering.globalLimits.InForce then [⟨_, .countOffering⟩]
  else if plan.limits.InForce then [⟨_, .countPlan plan.id⟩]
  else []

/-- What the counts that were fetched say about one more instance; where none were, nothing is in its
way. -/
def decision (config : BrokerConfig) (plan : Plan) (fetched : Option InstanceCounts) :
    Except (List QuotaViolation) Unit :=
  match fetched with
  | none => .ok ()
  | some counts => Quota.check plan config.offering.plans counts config.offering.globalLimits

variable {σ : Type} {h : Program.Handler σ} {s : σ} {counts : InstanceCounts}

/-- A truthful counter is asked for what is needed, and that decides as all counts would. -/
theorem countInstances_of_truth (truth : h.CountsTruly s counts) (config : BrokerConfig)
    (about : Correlation) (plan : Plan) :
    ∃ fetched, ((countInstances config about plan).run.run h s).1 = .ok fetched ∧
      ((countInstances config about plan).run.transcript h s).filterMap Happening.call? =
        neededCounts config plan ∧
      decision config plan fetched =
        Quota.check plan config.offering.plans counts config.offering.globalLimits := by
  unfold countInstances neededCounts
  simp only [Limits.isLimited_iff]
  split
  · obtain ⟨all, answered, same⟩ := truth.offering none
    refine ⟨some all, ?_, ?_, Quota.check_congr (fun _ => same) fun _ => congrFun same _⟩
    · exact congrArg Prod.fst (run_ask_bind answered _ _)
    · exact congrArg (List.filterMap _) (transcript_ask_bind answered _ _)
  · rename_i idle
    split
    · obtain ⟨n, answered, same⟩ := truth.plan none plan.id
      refine ⟨some (.singleton plan.id n), ?_, ?_, Quota.check_congr (absurd · idle) fun _ => ?_⟩
      · exact congrArg Prod.fst (run_ask_bind answered _ _)
      · exact congrArg (List.filterMap _) (transcript_ask_bind answered _ _)
      · exact (InstanceCounts.of_singleton plan.id n).trans same
    · rename_i free
      exact ⟨none, rfl, rfl, (Quota.check_of_idle idle free).symm⟩

/-- The broker decides about the quotas of a plan as it would on the counts of all plans, with the
same limits in the way, and asks for no more than the limits in force ask for. -/
theorem requireQuota_of_truth (truth : h.CountsTruly s counts) (config : BrokerConfig)
    (about : Correlation) (plan : Plan) :
    (∃ fetched, ((countInstances config about plan).run.run h s).1 = .ok fetched ∧
      decision config plan fetched =
        Quota.check plan config.offering.plans counts config.offering.globalLimits) ∧
    ((requireQuota config about plan).run.run h s).1 =
      (Quota.check plan config.offering.plans counts config.offering.globalLimits).mapError
        (fun violations => (Refusal.ofQuota about violations).error) ∧
    ((requireQuota config about plan).run.transcript h s).filterMap Happening.call? =
      neededCounts config plan := by
  obtain ⟨fetched, heard, asked, decided⟩ := countInstances_of_truth truth config about plan
  refine ⟨⟨fetched, heard, decided⟩, ?_, ?_⟩
  · rw [← decided, requireQuota, run_bind_procedure, Program.run_bind, heard]
    cases fetched with
    | none => rfl
    | some fetched =>
      simp only [decision]
      split
      · rename_i passed
        rw [passed]
        rfl
      · rename_i broken
        rw [broken]
        rfl
  · rw [← asked, requireQuota, run_bind_procedure, Program.transcript_bind, heard]
    cases fetched with
    | none => simp [Program.transcript]
    | some fetched =>
      dsimp only
      split <;> simp [refuse, Program.transcript]

/-- A large plan of which there may be one instance, next to a small one without limits. -/
def samplePlan : Plan :=
  { id := "large", name := "large"
    quotas :=
      { instanceLimit := some 1
        resources := .singleton "disk" { limit := some 5, cost := some 3 } } }

def sampleConfig : BrokerConfig :=
  { offering :=
      { id := "s", name := "n", plans := [{ id := "small", name := "small" }, samplePlan] } }

def sampleCorrelation : Correlation := { service := "n", instanceId := "i", requestId := "r" }

/-- The check of another large instance. -/
def sampleCheck : Program (Except BrokerError Unit) :=
  (requireQuota sampleConfig sampleCorrelation samplePlan).run

/-- There is one instance of each plan. -/
def sampleWorld : Memory.World := Fleet.sampleWorld [] Fleet.oneOfEach

/-- A second large instance would break two limits, and to know that it is enough to count the large
ones. -/
theorem requireQuota_of_truth_sample :
    (sampleCheck.run (Memory.World.handler none) sampleWorld).1 =
        .error (Refusal.ofQuota sampleCorrelation
          [.planInstances "large" 1 1, .planResource "large" "disk" 5 3 3]).error ∧
      (sampleCheck.transcript (Memory.World.handler none) sampleWorld).filterMap Happening.call? =
        [⟨_, .countPlan "large"⟩] := by
  have truth := Memory.World.countsTruly (w := sampleWorld) rfl none
  obtain ⟨_, refused, asked⟩ := requireQuota_of_truth truth sampleConfig sampleCorrelation samplePlan
  exact ⟨refused, asked⟩

end Steps

end ServiceBroker
