import ServiceBroker.Proofs.Quota.Respected

/-! Instances that change their plan. The broker does not remember onto which plan an instance was
deployed, so it takes an update for a switch of plans if the request says so. What it then accepts has
passed the quotas; a switch that the request does not own up to has not. -/
namespace ServiceBroker

/-- The check lets one more instance of a plan in, with the true counts. -/
def Passes (config : BrokerConfig) (planId : String) (fleet : Fleet) : Prop :=
  ∃ plan, config.offering.findPlan? planId = some plan ∧
    ∀ counts : InstanceCounts, counts.Tell fleet →
      Quota.check plan config.offering.plans counts config.offering.globalLimits = .ok ()

/-- A deploy that was accepted. -/
structure Deploy where
  request : Request
  /-- The instances there were just before, each with the plan that it was last deployed onto. -/
  before : NameMap String

/-- The instances of an offering, each with the plan that it was last deployed onto, and the deploys
that were accepted, the latest first. -/
structure Estate where
  instances : NameMap String := .empty
  deploys : List Deploy := []

namespace Estate

/-- A deploy of an instance onto a plan was accepted. -/
def deployed (e : Estate) (request : Request) (instanceId planId : String) : Estate where
  instances := e.instances.insert instanceId planId
  deploys := ⟨request, e.instances⟩ :: e.deploys

/-- The instances there are after a request was answered. -/
def after (e : Estate) (request : Request) (r : Response) : Estate :=
  match request.deploys? with
  | some (_, instanceId, planId) =>
    if r.token?.isSome then e.deployed request instanceId planId else e
  | none => e

/-- One step of an offering: any request is served, by collaborators of any kind in any state whose
counts are right, or an instance goes away. -/
inductive Step (config : BrokerConfig) : Estate → Estate → Prop where
  | serve {e : Estate} (request : Request) {σ : Type} (h : Program.Handler σ) (s : σ)
      (truth : TrueCounts e.instances.values ((request.program config).transcript h s)) :
      Step config e (e.after request ((request.program config).run h s).1)
  | remove (e : Estate) (instanceId : String) :
      Step config e { e with instances := e.instances.erase instanceId }

/-- Any number of steps. -/
abbrev Run (config : BrokerConfig) : Estate → Estate → Prop :=
  Relation.ReflTransGen (Step config)

/-- Every accepted deploy that the quotas apply to has passed them. -/
def Checked (config : BrokerConfig) (e : Estate) : Prop :=
  ∀ d ∈ e.deploys, d.request.heedsQuotas → ∀ kind instanceId planId,
    d.request.deploys? = some (kind, instanceId, planId) →
      Passes config planId d.before.values

variable {config : BrokerConfig} {start e e' : Estate}

theorem after_of_accepted {request : Request} {r : Response} {kind : OperationKind}
    {instanceId planId : String} (asked : request.deploys? = some (kind, instanceId, planId))
    (accepted : r.token?.isSome) : e.after request r = e.deployed request instanceId planId := by
  simp only [after, asked, accepted, if_true]

theorem Checked.step (checked : e.Checked config) (step : Step config e e') :
    e'.Checked config := by
  cases step with
  | serve request h s truth =>
    unfold after
    split
    · rename_i kind instanceId planId asked
      split
      · rename_i accepted
        intro d member heeds kind' instanceId' planId' asked'
        rcases List.mem_cons.mp member with rfl | earlier
        · obtain ⟨plan, found, admitted⟩ :=
            (Request.meets_admitted asked' heeds).transcript h s accepted
          have room := admitted.room truth
          exact ⟨plan, found, fun counts tell => (Quota.check_eq_ok_iff_of_tell tell).mpr room⟩
        · exact checked d earlier heeds kind' instanceId' planId' asked'
      · exact checked
    · exact checked
  | remove instanceId => exact checked

theorem Checked.run (checked : start.Checked config) (run : Run config start e) :
    e.Checked config := by
  induction run with
  | refl => exact checked
  | tail _ step ih => exact ih.step step

/-- An update that was accepted at any time, and that says itself that it switches plans, has passed
the quotas of the plan that it asks for. -/
theorem declared_switch_passed (fresh : start.deploys = []) (run : Run config start e) {d : Deploy}
    (accepted : d ∈ e.deploys) {requestId instanceId : String} {details : UpdateDetails}
    {asyncAllowed : Bool} (asked : d.request = .update requestId instanceId details asyncAllowed)
    (declared : details.isPlanChange) : Passes config details.planId d.before.values := by
  have unchecked : start.Checked config := by
    intro d member
    rw [fresh] at member
    cases member
  have switch : d.request.deploys? = some (.update, instanceId, details.planId) := by
    rw [asked]
    rfl
  exact unchecked.run run d accepted (asked ▸ declared) _ _ _ switch

/-- A request to make an instance a large one, with the plan that the client says it leaves. -/
def sampleSwitch (previousPlanId : String) : Request :=
  .update "r" "i" { serviceId := "s", planId := "large", previousPlanId } true

theorem step_sample {request : Request} {kind : OperationKind} {instanceId planId : String}
    (asked : request.deploys? = some (kind, instanceId, planId)) {deployments : List String}
    {counts : InstanceCounts} (tell : counts.Tell e.instances.values)
    (accepted : Fleet.sampleAccepts request deployments counts) :
    Step Fleet.sampleConfig e (e.deployed request instanceId planId) := by
  rw [← after_of_accepted asked accepted]
  exact .serve request _ _ (Memory.World.trueCounts_transcript tell none _)

/-- A small instance is provisioned. -/
def smallProvisioned : Estate :=
  ({} : Estate).deployed (Fleet.sampleProvision "i" "small") "i" "small"

/-- A large one is provisioned next to it, the only one that is allowed. -/
def largeProvisioned : Estate :=
  smallProvisioned.deployed (Fleet.sampleProvision "j" "large") "j" "large"

theorem tell_oneSmall : Fleet.oneSmall.Tell smallProvisioned.instances.values := by decide

theorem run_smallProvisioned : Run Fleet.sampleConfig {} smallProvisioned := by
  have tell : InstanceCounts.Tell .empty ({} : Estate).instances.values := by decide
  have accepted : Fleet.sampleAccepts (Fleet.sampleProvision "i" "small") [] .empty := rfl
  exact .single (step_sample rfl tell accepted)

theorem run_largeProvisioned : Run Fleet.sampleConfig {} largeProvisioned := by
  have accepted : Fleet.sampleAccepts (Fleet.sampleProvision "j" "large") ["d-i"] Fleet.oneSmall :=
    rfl
  exact run_smallProvisioned.tail (step_sample rfl tell_oneSmall accepted)

theorem declared_switch_passed_sample : Passes Fleet.sampleConfig "large" ["small"] := by
  have accepted : Fleet.sampleAccepts (sampleSwitch "small") ["d-i"] Fleet.oneSmall := rfl
  have switch := step_sample rfl tell_oneSmall accepted
  exact declared_switch_passed rfl (run_smallProvisioned.tail switch) List.mem_cons_self rfl
    (by decide)

/-- At some time, in an offering that began without instances, an update is accepted that puts an
instance on another plan, and that plan has not passed the quotas. -/
def Escapes (config : BrokerConfig) (request : Request) : Prop :=
  ∃ e d instanceId planId previous, Run config {} e ∧ d ∈ e.deploys ∧ d.request = request ∧
    request.deploys? = some (.update, instanceId, planId) ∧
    d.before.get? instanceId = some previous ∧ previous ≠ planId ∧
    ¬ Passes config planId d.before.values

theorem tell_oneOfEach : Fleet.oneOfEach.Tell largeProvisioned.instances.values := by decide

theorem not_passes_largeProvisioned :
    ¬ Passes Fleet.sampleConfig "large" largeProvisioned.instances.values := by
  rintro ⟨plan, found, passes⟩
  obtain rfl := Option.some.inj found
  nomatch passes Fleet.oneOfEach tell_oneOfEach

theorem escapes_of_accepted {previousPlanId : String}
    (accepted : Fleet.sampleAccepts (sampleSwitch previousPlanId) ["d-i", "d-j"]
      Fleet.oneOfEach) :
    Escapes Fleet.sampleConfig (sampleSwitch previousPlanId) := by
  have switch := step_sample rfl tell_oneOfEach accepted
  have wasSmall : largeProvisioned.instances.get? "i" = some "small" := rfl
  exact ⟨_, _, "i", "large", "small", run_largeProvisioned.tail switch, List.mem_cons_self, rfl, rfl,
    wasSmall, by decide, not_passes_largeProvisioned⟩

/-- An update that names no plan that the instance leaves, or names the one that it asks for. -/
theorem undeclared_switch_escapes : Fleet.sampleConfig.validate = .ok () ∧
    Escapes Fleet.sampleConfig (sampleSwitch "") ∧
    Escapes Fleet.sampleConfig (sampleSwitch "large") :=
  ⟨rfl, escapes_of_accepted rfl, escapes_of_accepted rfl⟩

end Estate

end ServiceBroker
