import ServiceBroker.Proofs.Catalog.Plans
import ServiceBroker.Proofs.Lifecycle.OnlyErrand

/-! What a configuration without a defect is good for: its plans are found by their ids, and no
errand of theirs is lost on the way through a token. -/
namespace ServiceBroker

/-- Operation data name the errands before a deletion: in the list, or the only one on its own as
tokens of old did. -/
inductive OperationData.Carries (d : OperationData) (errands : List Errand) : Prop where
  | listed (list : d.preDeleteErrands = errands) (noOther : d.legacyErrand = none)
  | single {e : Errand} (only : errands = [e]) (unlisted : d.preDeleteErrands = [])
      (named : d.legacyErrand = some e)

/-- The operation data of a deletion carry the errands of the plan. -/
theorem Opens.carries {config : BrokerConfig} {past : List Happening} {request : Request}
    {d : OperationData} {first : AnyCall} (opens : Opens config past request d first)
    {instanceId : String} {details : DeprovisionDetails} {plan : Plan}
    (asked : request.deletes? = some (instanceId, details)) (gentle : details.force = false)
    (found : config.offering.findPlan? details.planId = some plan) :
    d.Carries plan.preDeleteErrands := by
  cases opens with
  | deploy deploys =>
    cases request with
    | deprovision => cases deploys
    | _ => cases asked
  | force again forced =>
    cases asked.symm.trans again
    cases gentle.symm.trans forced
  | delete again _ known direct =>
    cases asked.symm.trans again
    cases found.symm.trans known
    exact .listed direct.symm rfl
  | chain again _ known =>
    cases asked.symm.trans again
    cases found.symm.trans known
    exact .listed rfl rfl

/-- No errand of a usable plan is lost in a token. -/
theorem Plan.Usable.effectiveErrands {p : Plan} (usable : p.Usable) {d : OperationData}
    (carries : d.Carries p.preDeleteErrands) : d.effectiveErrands = p.preDeleteErrands := by
  cases carries with
  | listed list noOther =>
    rw [OperationData.effectiveErrands, noOther, list]
    cases p.preDeleteErrands <;> rfl
  | @single e only unlisted named =>
    have member : e ∈ p.errands.preDelete := by
      rw [show p.errands.preDelete = [e] from only]
      exact List.mem_singleton_self e
    have nonempty : e.name ≠ "" := by
      intro empty
      have filled := usable.preDelete e member
      rw [empty] at filled
      cases filled
    rw [OperationData.effectiveErrands_named named unlisted nonempty, only]

namespace BrokerConfig

/-- The configurations that are accepted are those a broker can work with, and of any other the
first defect is reported. In an accepted one every plan is found by its id and by no other, and the
errands of the plan are the errands of all tokens that carry them, as those of its deletions do. -/
theorem validate_tells_first_defect (config : BrokerConfig) :
    (config.validate = .ok () ↔ config.Usable) ∧
      (∀ defect, config.validate = .error defect ↔ config.defects.head? = some defect) ∧
      (config.validate = .ok () → ∀ p : Plan,
        (∀ id, config.offering.findPlan? id = some p ↔ p ∈ config.offering.plans ∧ p.id = id) ∧
        (∀ past request d first, Opens config past request d first →
          ∀ instanceId details, request.deletes? = some (instanceId, details) →
            details.force = false → config.offering.findPlan? details.planId = some p →
              d.Carries p.preDeleteErrands) ∧
        (p ∈ config.offering.plans → ∀ d : OperationData, d.Carries p.preDeleteErrands →
          d.effectiveErrands = p.preDeleteErrands ∧
            (0 < d.taskId → d.taskId < Json.wordBound → ∃ e, OperationData.decode d.encode = .ok e ∧
              e.effectiveErrands = p.preDeleteErrands))) := by
  refine ⟨validate_eq_ok_iff, fun _ => validate_eq_error_iff, fun accepted p => ⟨?_, ?_, ?_⟩⟩
  · exact fun id => Offering.findPlan?_eq_some_iff (validate_eq_ok_iff.mp accepted).distinct
  · exact fun _ _ _ _ opens _ _ asked gentle found => opens.carries asked gentle found
  · intro member d carries
    have usable := (validate_eq_ok_iff.mp accepted).plans p member
    refine ⟨usable.effectiveErrands carries, fun positive fits => ?_⟩
    refine ⟨d, ?_, usable.effectiveErrands carries⟩
    have numbered : ¬(d.taskId == 0) = true := by simpa using Nat.pos_iff_ne_zero.mp positive
    rw [OperationData.decode_encode, if_pos fits, if_neg numbered]

/-- A plan with a single errand before deletions. -/
def drainingPlan : Plan :=
  { id := "small", name := "s", errands := { preDelete := [{ name := "drain" }] } }

/-- A plan with an errand after deploys and two before deletions. -/
def guardedPlan : Plan where
  id := "large"
  name := "l"
  errands :=
    { postDeploy := some { name := "smoke-tests" }
      preDelete := [{ name := "drain" }, { name := "backup", instances := ["redis/0"] }] }

/-- A catalog with both plans. -/
def drainingConfig : BrokerConfig where
  offering := { id := "svc", name := "redis", plans := [drainingPlan, guardedPlan] }

/-- The deletion of an instance of the plan, begun when a token named one errand on its own. -/
def drainingData : OperationData :=
  { kind := .delete, taskId := 7, contextId := "c", legacyErrand := some { name := "drain" } }

theorem validate_tells_first_defect_draining : drainingConfig.validate = .ok () ∧
    drainingConfig.offering.findPlan? "small" = some drainingPlan ∧
    drainingData.effectiveErrands = [{ name := "drain" }] := by
  have accepted : drainingConfig.validate = .ok () := by decide
  have listed : drainingPlan ∈ drainingConfig.offering.plans := List.mem_cons_self
  obtain ⟨finds, _, errands⟩ :=
    (validate_tells_first_defect drainingConfig).2.2 accepted drainingPlan
  exact ⟨accepted, (finds "small").mpr ⟨listed, rfl⟩,
    (errands listed drainingData (.single rfl rfl rfl)).1⟩

end BrokerConfig

end ServiceBroker
