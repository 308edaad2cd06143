import Mathlib.Logic.Relation
import ServiceBroker.Proofs.Catalog.Plans
import ServiceBroker.Proofs.Quota.Fleet

/-! Quotas over time. New instances are provisioned one after the other and old ones go away, in any
order and in any number. Each check looks one instance ahead, and that is enough to keep every limit
for good. -/
namespace ServiceBroker

/-- The instances there are stay within every limit in force, of each plan and of the offering. -/
structure Offering.Respected (offering : Offering) (fleet : Fleet) : Prop where
  plans : ∀ p ∈ offering.plans, p.limits.Permit (fleet.count p.id) fun resource =>
    p.cost resource * fleet.count p.id
  offering : offering.globalLimits.Permit fleet.length fun resource =>
    Quota.taken offering.plans (fleet.count ·) resource

namespace Fleet

/-- The instances there are after a request for one more was answered. -/
def after (fleet : Fleet) (planId : String) (r : Response) : Fleet :=
  if r.token?.isSome then planId :: fleet else fleet

/-- One step of an offering: somebody asks for a new instance, with collaborators of any kind in any
state whose counts are right, or an instance goes away. -/
inductive Step (config : BrokerConfig) : Fleet → Fleet → Prop where
  | provision {fleet : Fleet} {request : Request} {instanceId planId : String}
      (asked : request.deploys? = some (.create, instanceId, planId)) {σ : Type}
      (h : Program.Handler σ) (s : σ)
      (truth : TrueCounts fleet ((request.program config).transcript h s)) :
      Step config fleet (fleet.after planId ((request.program config).run h s).1)
  | remove (fleet : Fleet) (planId : String) : Step config fleet (fleet.erase planId)

/-- Any number of steps. -/
abbrev Run (config : BrokerConfig) : Fleet → Fleet → Prop := Relation.ReflTransGen (Step config)

end Fleet

namespace Offering.Respected

variable {config : BrokerConfig} {fleet fleet' : Fleet} {plan : Plan}

/-- No instances are within all limits. -/
theorem nil (offering : Offering) : offering.Respected [] where
  plans _ _ := ⟨fun _ _ _ => Nat.zero_le _, fun _ _ _ _ => Nat.zero_le _⟩
  offering := ⟨fun _ _ _ => Nat.zero_le _, fun _ _ _ _ => by simp [Quota.taken]⟩

/-- Fewer instances are within the limits as well. -/
theorem sublist (respected : config.offering.Respected fleet) (fewer : fleet'.Sublist fleet) :
    config.offering.Respected fleet' := by
  constructor
  · intro p listed
    have atMost := fewer.count_le p.id
    exact (respected.plans p listed).mono atMost fun resource => Nat.mul_le_mul_left _ atMost
  · exact respected.offering.mono fewer.length_le (Quota.taken_mono fun id => fewer.count_le id)

/-- Where there is room for one more instance of a plan, one more may come. -/
theorem cons (valid : config.validate = .ok ()) (respected : config.offering.Respected fleet)
    {planId : String} (found : config.offering.findPlan? planId = some plan)
    (room : Quota.Room plan config.offering.plans (fleet.count ·) fleet.length
      config.offering.globalLimits) : config.offering.Respected (planId :: fleet) := by
  obtain ⟨listed, rfl⟩ := Offering.findPlan?_eq_some found
  constructor
  · intro p isListed
    by_cases same : p.id = plan.id
    · -- there is no other plan with that id
      obtain rfl := BrokerConfig.plan_eq_of_id_eq valid isListed listed same
      rw [List.count_cons_self]
      exact room.plan
    · rw [List.count_cons_of_ne (Ne.symm same)]
      exact respected.plans p isListed
  · refine room.offering.mono (List.length_cons ▸ Nat.le_refl _) fun resource => ?_
    have known : plan.id ∈ config.offering.plans.map Plan.id := List.mem_map_of_mem listed
    rw [Quota.taken_concat_of_mem known, ← Quota.taken_add_one found]
    simp only [List.count_cons, beq_iff_eq, Nat.le_refl]

/-- Every step keeps every limit. -/
theorem step (valid : config.validate = .ok ()) (respected : config.offering.Respected fleet)
    (step : Fleet.Step config fleet fleet') : config.offering.Respected fleet' := by
  cases step with
  | @provision request instanceId planId asked _ h s truth =>
    unfold Fleet.after
    split
    · rename_i accepted
      have heeds : request.heedsQuotas := Request.heedsQuotas_of_create asked
      obtain ⟨plan, found, admitted⟩ :=
        (Request.meets_admitted asked heeds).transcript h s accepted
      exact respected.cons valid found (admitted.room truth)
    · exact respected
  | remove planId => exact respected.sublist List.erase_sublist

end Offering.Respected

namespace Fleet

/-- Limits that are respected at the beginning are respected at any time, however many instances are
asked for and removed. -/
theorem respected_run {config : BrokerConfig} (valid : config.validate = .ok ())
    {start fleet : Fleet} (run : Run config start fleet)
    (respected : config.offering.Respected start) : config.offering.Respected fleet := by
  induction run with
  | refl => exact respected
  | tail _ step ih => exact ih.step valid step

/-- Three instances and seven disks in all; one instance may be a large one, of three disks. -/
def sampleConfig : BrokerConfig :=
  { settings := { deploymentPrefix := "d-" }
    offering :=
      { id := "s", name := "n"
        globalQuotas :=
          { instanceLimit := some 3, resources := .singleton "disk" { limit := some 7 } }
        plans :=
          [{ id := "small", name := "small"
             quotas := { resources := .singleton "disk" { cost := some 1 } } },
           { id := "large", name := "large"
             quotas :=
               { instanceLimit := some 1
                 resources := .singleton "disk" { limit := some 5, cost := some 3 } } }] } }

def sampleProvision (instanceId planId : String) : Request :=
  .provision "r" instanceId { serviceId := "s", planId } true

/-- A world with some deployments, whose counter has some counts. -/
def sampleWorld (deployments : List String) (counts : InstanceCounts) : Memory.World :=
  { backend := deployments.foldl (fun b name => b.addDeployment name "") {}
    counter := { counts }
    ids := fun _ => "c" }

/-- Whether a request is accepted in such a world. -/
def sampleAccepts (request : Request) (deployments : List String) (counts : InstanceCounts) :
    Bool :=
  ((request.program sampleConfig).run (Memory.World.handler none)
    (sampleWorld deployments counts)).1.token?.isSome

theorem step_sample (planId : String) {fleet : Fleet} {counts : InstanceCounts}
    (tell : counts.Tell fleet) : Step sampleConfig fleet
      (if sampleAccepts (sampleProvision "i" planId) [] counts then planId :: fleet else fleet) :=
  .provision rfl (Memory.World.handler none) (sampleWorld [] counts)
    (Memory.World.trueCounts_transcript tell none _)

def oneSmall : InstanceCounts := .singleton "small" 1

def oneOfEach : InstanceCounts := .ofList [("large", 1), ("small", 1)]

/-- A small and a large instance are provisioned, a second large one is refused, and the small one
goes away. -/
theorem run_sample : Run sampleConfig [] ["large"] := by
  have small := step_sample "small" (show InstanceCounts.Tell .empty [] by decide)
  have large := step_sample "large" (show oneSmall.Tell ["small"] by decide)
  have another := step_sample "large" (show oneOfEach.Tell ["large", "small"] by decide)
  rw [if_pos (show sampleAccepts (sampleProvision "i" "small") [] .empty from rfl)] at small
  rw [if_pos (show sampleAccepts (sampleProvision "i" "large") [] oneSmall from rfl)] at large
  rw [show sampleAccepts (sampleProvision "i" "large") [] oneOfEach = false from rfl] at another
  exact .tail (.tail (.tail (.single small) large) another) (.remove ["large", "small"] "small")

theorem respected_run_sample : sampleConfig.offering.Respected ["large"] :=
  respected_run rfl run_sample (Offering.Respected.nil sampleConfig.offering)

end Fleet

end ServiceBroker
