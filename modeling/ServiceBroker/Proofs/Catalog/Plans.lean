import Mathlib.Data.List.Nodup
import ServiceBroker.Proofs.Catalog.Defects

/-! What a validated catalog says about its plans: no two of them have the same id, so the id of a
plan leads back to it. -/
namespace ServiceBroker

namespace Offering

variable {o : Offering}

theorem findPlan?_eq_some {planId : String} {plan : Plan}
    (found : o.findPlan? planId = some plan) : plan ∈ o.plans ∧ plan.id = planId :=
  ⟨List.mem_of_find?_eq_some found, by simpa using List.find?_some found⟩

/-- In an offering with distinct ids, a plan is found by its id. -/
theorem findPlan?_eq_some_iff (distinct : (o.plans.map Plan.id).Nodup) {id : String} {p : Plan} :
    o.findPlan? id = some p ↔ p ∈ o.plans ∧ p.id = id := by
  refine ⟨findPlan?_eq_some, ?_⟩
  rintro ⟨member, rfl⟩
  cases found : o.findPlan? p.id with
  | none => simpa using List.find?_eq_none.mp found p member
  | some q =>
    obtain ⟨listed, same⟩ := findPlan?_eq_some found
    rw [List.inj_on_of_nodup_map distinct listed member same]

end Offering

namespace BrokerConfig

variable {config : BrokerConfig}

theorem nodup_plans (valid : config.validate = .ok ()) :
    (config.offering.plans.map Plan.id).Nodup := (validate_eq_ok_iff.mp valid).distinct

/-- Plans with the same id are the same. -/
theorem plan_eq_of_id_eq (valid : config.validate = .ok ()) {p q : Plan}
    (first : p ∈ config.offering.plans) (second : q ∈ config.offering.plans) (same : p.id = q.id) :
    p = q := List.inj_on_of_nodup_map (nodup_plans valid) first second same

end BrokerConfig

end ServiceBroker
