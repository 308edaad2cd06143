import ServiceBroker.Proofs.Memory.Account
import ServiceBroker.Proofs.Quota.Admission
import ServiceBroker.Proofs.Quota.Room

/-! The instances there are, and counters that tell the truth about them. What the broker counts is
never more than it needs, and still a plan that it admits has room among all instances there are. -/
namespace ServiceBroker

/-- The instances there are, each by the id of its plan. -/
abbrev Fleet := List String

/-- The counts are right, those of plans that the catalog does not have included. -/
def InstanceCounts.Tell (counts : InstanceCounts) (fleet : Fleet) : Prop :=
  ∀ planId, counts.of planId = fleet.count planId

/-- Whatever the instance counter answered is right. -/
structure TrueCounts (fleet : Fleet) (past : List Happening) : Prop where
  plan : ∀ planId (n : UInt32), .answered (.countPlan planId) (.ok n) ∈ past →
    n.toNat = fleet.count planId
  offering : ∀ counts : InstanceCounts, .answered .countOffering (.ok counts) ∈ past →
    counts.Tell fleet

namespace InstanceCounts

variable {counts : InstanceCounts} {fleet : Fleet}

theorem of_singleton (planId : String) (n : UInt32) :
    of (.singleton planId n) planId = n.toNat := by
  rw [of, NameMap.get?_singleton]
  rfl

/-- The plans that are counted. -/
def plans (counts : InstanceCounts) : List String := counts.entries.map Prod.fst

theorem of_eq_zero {planId : String} (uncounted : planId ∉ counts.plans) :
    counts.of planId = 0 := by
  rw [of, NameMap.get?_eq_none_iff.mpr uncounted]
  rfl

/-- Counts are right if they are right about the plans they list and no other plan has an instance. -/
theorem tell_iff : counts.Tell fleet ↔ (∀ planId ∈ counts.plans, counts.of planId =
    fleet.count planId) ∧ ∀ planId ∈ fleet, planId ∈ counts.plans := by
  constructor
  · refine fun tell => ⟨fun planId _ => tell planId, fun planId member => ?_⟩
    by_contra uncounted
    have some := List.count_pos_iff.mpr member
    exact some.ne' ((tell planId).symm.trans (of_eq_zero uncounted))
  · rintro ⟨right, complete⟩ planId
    by_cases counted : planId ∈ counts.plans
    · exact right planId counted
    · rw [of_eq_zero counted, List.count_eq_zero.mpr fun member => counted (complete planId member)]

instance : Decidable (counts.Tell fleet) := decidable_of_iff _ tell_iff.symm

/-- The total is a sum over plan ids. -/
theorem total_eq_sum (counts : InstanceCounts) :
    counts.total = ∑ planId ∈ counts.plans.toFinset, counts.of planId := by
  have perEntry : counts.values.map UInt32.toNat = counts.plans.map counts.of := by
    rw [NameMap.values, plans, List.map_map, List.map_map]
    refine List.map_congr_left fun e listed => ?_
    rw [Function.comp_apply, Function.comp_apply, of, NameMap.get?_eq_some_iff.mpr listed]
    rfl
  calc counts.total = (counts.plans.map counts.of).sum := by rw [← perEntry]; rfl
    _ = _ := (List.sum_toFinset _ counts.nodup_names).symm

/-- The sum may go over the plans of other counts as well. -/
theorem total_eq_sum_union (counts counts' : InstanceCounts) : counts.total =
    ∑ planId ∈ counts.plans.toFinset ∪ counts'.plans.toFinset, counts.of planId := by
  rw [total_eq_sum]
  refine Finset.sum_subset Finset.subset_union_left fun planId _ uncounted => ?_
  exact of_eq_zero fun counted => uncounted (List.mem_toFinset.mpr counted)

/-- Right counts sum up to the number of instances. -/
theorem Tell.total (tell : counts.Tell fleet) : counts.total = fleet.length := by
  have counted : ∀ planId ∈ (fleet : Multiset String), planId ∈ counts.plans.toFinset :=
    fun planId member =>
      List.mem_toFinset.mpr ((tell_iff.mp tell).2 planId (Multiset.mem_coe.mp member))
  calc counts.total
      = ∑ planId ∈ counts.plans.toFinset, (fleet : Multiset String).count planId := by
        rw [total_eq_sum]
        exact Finset.sum_congr rfl fun planId _ => by rw [tell planId, Multiset.coe_count]
    _ = fleet.length := Multiset.sum_count_eq_card counted

end InstanceCounts

variable {config : BrokerConfig} {plan : Plan} {fleet : Fleet} {past : List Happening}

namespace Quota

variable {plans : List Plan} {global : Limits} {counts : InstanceCounts}

/-- With right counts the check decides whether there is room. -/
theorem check_eq_ok_iff_of_tell (tell : counts.Tell fleet) :
    check plan plans counts global = .ok () ↔
      Room plan plans (fleet.count ·) fleet.length global := by
  have same : counts.of = (fleet.count ·) := funext tell
  rw [check_eq_ok_iff, same, tell.total]

end Quota

/-- Where the counter told the truth, an admitted plan has room, although other plans may not have
been counted. -/
theorem Admitted.room (admitted : Admitted config plan past) (truth : TrueCounts fleet past) :
    Quota.Room plan config.offering.plans (fleet.count ·) fleet.length
      config.offering.globalLimits := by
  obtain ⟨counted, known, passed⟩ := admitted
  cases known with
  | offering heard =>
    exact (Quota.check_eq_ok_iff_of_tell (truth.offering _ heard)).mp (passed _ rfl)
  | @plan n heard unlimited =>
    have room := Quota.check_eq_ok_iff.mp (passed _ rfl)
    have told : InstanceCounts.of (.singleton plan.id n) plan.id = fleet.count plan.id :=
      (InstanceCounts.of_singleton plan.id n).trans (truth.plan _ _ heard)
    exact ⟨told ▸ room.plan, Limits.permit_of_unlimited unlimited⟩
  | nothing unlimited free =>
    exact ⟨Limits.permit_of_unlimited free, Limits.permit_of_unlimited unlimited⟩

/-! ### The counter in memory -/

/-- One more answer of the counter that is right. -/
theorem TrueCounts.snoc {k : CallKind} {c : Call k} {answer : k.Answer}
    (truth : TrueCounts fleet past) (last : TrueCounts fleet [.answered c answer]) :
    TrueCounts fleet (past ++ [.answered c answer]) := by
  constructor
  · intro planId n member
    rcases List.mem_append.mp member with before | now
    · exact truth.plan planId n before
    · exact last.plan planId n now
  · intro counts member
    rcases List.mem_append.mp member with before | now
    · exact truth.offering counts before
    · exact last.offering counts now

namespace Memory

theorem eq_of_unlessFailed {ε α : Type} {failure : Option ε} {value a : α}
    (answered : unlessFailed failure value = .ok a) : value = a := by
  cases failure with
  | none => exact Except.ok.inj answered
  | some e => cases answered

namespace World

/-- A counter in memory answers with its counts. -/
theorem trueCounts_serve {w : World} (tell : w.counter.counts.Tell fleet)
    (deadline : Option Millis) {k : CallKind} (c : Call k) :
    TrueCounts fleet [.answered c (serve deadline c w).1] := by
  cases c with
  | countPlan planId =>
    constructor
    · intro planId' n member
      injection List.mem_singleton.mp member with _ same heard
      cases same
      rw [← eq_of_unlessFailed heard.symm, ← tell planId]
      unfold InstanceCounts.of
      cases w.counter.counts.get? planId <;> rfl
    · exact fun counts member => nomatch List.mem_singleton.mp member
  | countOffering =>
    constructor
    · exact fun planId n member => nomatch List.mem_singleton.mp member
    · intro counts member
      injection List.mem_singleton.mp member with _ _ heard
      exact eq_of_unlessFailed heard.symm ▸ tell
  | _ =>
    exact ⟨fun planId n member => (nomatch List.mem_singleton.mp member),
      fun counts member => (nomatch List.mem_singleton.mp member)⟩

theorem keeps_trueCounts (fleet : Fleet) (deadline : Option Millis) : (handler deadline).Keeps
    fun past w => w.counter.counts.Tell fleet ∧ TrueCounts fleet past where
  serves {past w k} c span holds := by
    obtain ⟨_, _, frame⟩ := serve_frame w deadline c
    refine ⟨?_, holds.2.snoc (trueCounts_serve holds.1 deadline c)⟩
    change (serve deadline c w).2.counter.counts.Tell fleet
    rw [frame]
    exact holds.1
  notes event holds := holds
  acquires {past w} kind id holds := by
    simp only [handler, acquire]
    cases w.locks.acquire? kind id <;> exact holds
  releases kind id holds := holds
  issues {past w} holds := by
    obtain ⟨tell, truth⟩ := holds
    refine ⟨tell, ?_, ?_⟩
    · intro planId n member
      exact truth.plan planId n (by simpa using member)
    · intro counts member
      exact truth.offering counts (by simpa using member)

/-- A program that runs against a counter in memory hears nothing but the truth. -/
theorem trueCounts_transcript {α : Type} {w : World} (tell : w.counter.counts.Tell fleet)
    (deadline : Option Millis) (p : Program α) :
    TrueCounts fleet (p.transcript (handler deadline) w) := by
  have begun : TrueCounts fleet [] :=
    ⟨fun _ _ impossible => (nomatch impossible), fun _ impossible => (nomatch impossible)⟩
  exact ((keeps_trueCounts fleet deadline).transcript p ⟨tell, begun⟩).2

end World

end Memory

end ServiceBroker
