import ServiceBroker.Proofs.Broker.Openings
import ServiceBroker.Proofs.Broker.Transcript

/-! How requests come past the quotas. The broker counts no more than it has to, so what a plan was
admitted by may be the count of all plans, that of the plan alone, or nothing. A deploy is accepted
only after its plan was admitted, unless the request is one that the quotas do not apply to. -/
namespace ServiceBroker

/-- The counts that decide about a plan, by what was heard from the instance counter. -/
inductive Counted (config : BrokerConfig) (plan : Plan) (past : List Happening) :
    Option InstanceCounts → Prop where
  /-- The instances of all plans were counted. -/
  | offering {counts : InstanceCounts} (heard : .answered .countOffering (.ok counts) ∈ past) :
      Counted config plan past (some counts)
  /-- Those of the plan were counted, as there is no limit on all plans together. -/
  | plan {n : UInt32} (heard : .answered (.countPlan plan.id) (.ok n) ∈ past)
      (unlimited : config.offering.globalLimits.isLimited = false) :
      Counted config plan past (some (.singleton plan.id n))
  /-- Nothing was counted, as there is no limit at all. -/
  | nothing (unlimited : config.offering.globalLimits.isLimited = false)
      (free : plan.limits.isLimited = false) : Counted config plan past none

/-- The counts that were heard, if any, let one more instance of the plan in. -/
def Admitted (config : BrokerConfig) (plan : Plan) (past : List Happening) : Prop :=
  ∃ counted, Counted config plan past counted ∧ ∀ counts, counted = some counts →
    Quota.check plan config.offering.plans counts config.offering.globalLimits = .ok ()

/-- The plan with an id was admitted. -/
def AdmittedTo (config : BrokerConfig) (planId : String) (past : List Happening) : Prop :=
  ∃ plan, config.offering.findPlan? planId = some plan ∧ Admitted config plan past

namespace Request

/-- Whether the quotas apply to what the request asks for: not to a recreation, and to an update
only if it says itself that the instance changes its plan. -/
def heedsQuotas : Request → Bool
  | update _ _ details _ => details.isPlanChange
  | recreate .. => false
  | _ => true

theorem heedsQuotas_of_create {request : Request} {instanceId planId : String}
    (asked : request.deploys? = some (.create, instanceId, planId)) : request.heedsQuotas := by
  cases request with
  | provision => rfl
  | _ => cases asked

end Request

variable {config : BrokerConfig} {plan : Plan} {planId : String} {past later : List Happening}

theorem Counted.mono {counted : Option InstanceCounts} (known : Counted config plan past counted)
    (before : past <+: later) : Counted config plan later counted := by
  cases known with
  | offering heard => exact .offering (before.subset heard)
  | plan heard unlimited => exact .plan (before.subset heard) unlimited
  | nothing unlimited free => exact .nothing unlimited free

theorem AdmittedTo.mono (admitted : AdmittedTo config planId past) (before : past <+: later) :
    AdmittedTo config planId later := by
  obtain ⟨plan, found, counted, known, passed⟩ := admitted
  exact ⟨plan, found, counted, known.mono before, passed⟩

namespace Procedure

variable {α β : Type}

/-- The procedure succeeds only if the plan was admitted. -/
def Admits (config : BrokerConfig) (planId : String) (body : Procedure BrokerError α) : Prop :=
  ∀ past, body.run.Meets (fun _ _ => True)
    (fun later result => ∀ a, result = .ok a → AdmittedTo config planId later) past

theorem admits_refuse (r : Refusal) :
    (refuse r : Procedure BrokerError α).Admits config planId :=
  fun _ _ impossible => nomatch impossible

/-- What was admitted stays admitted. -/
theorem Admits.then {body : Procedure BrokerError α} (admits : body.Admits config planId)
    (next : α → Procedure BrokerError β) : (body >>= next).Admits config planId := by
  intro past
  rw [run_bind_procedure, Program.meets_bind]
  refine (admits past).mono (fun _ _ _ _ => trivial) ?_
  rintro later (e | a) _ admitted
  · exact fun _ impossible => nomatch impossible
  · exact (Program.meets_extends _ _).mono (fun _ _ _ _ => trivial)
      fun _ _ _ before _ _ => (admitted a rfl).mono before

/-- It does not matter what comes before. -/
theorem Admits.after (body : Procedure BrokerError α) {next : α → Procedure BrokerError β}
    (admits : ∀ a, (next a).Admits config planId) : (body >>= next).Admits config planId := by
  intro past
  rw [run_bind_procedure, Program.meets_bind]
  refine (Program.meets_extends _ _).mono (fun _ _ _ _ => trivial) ?_
  rintro later (e | a) _ _
  · exact fun _ impossible => nomatch impossible
  · exact admits a later

theorem Admits.within {body : Procedure BrokerError α} (admits : body.Admits config planId)
    (span : Log.Span) : (within span body).Admits config planId :=
  fun past => (meets_within_procedure span body).mpr (admits past)

theorem Admits.holding {body : Procedure BrokerError α} (admits : body.Admits config planId)
    (about : Correlation) (kind : LockKind) (id : String) :
    (holding about kind id body).Admits config planId :=
  fun past => (meets_holding about kind id body).mpr
    ⟨admits past, fun _ impossible => nomatch impossible⟩

end Procedure

namespace Steps

open Procedure

/-- What may follow once the plan was found. -/
theorem admits_findPlan_bind (about : Correlation) {β : Type}
    {next : Plan → Procedure BrokerError β}
    (admits : ∀ plan, config.offering.findPlan? planId = some plan →
      (next plan).Admits config planId) :
    (findPlan config about planId >>= next).Admits config planId := by
  unfold findPlan
  split
  · rename_i plan found
    exact admits plan found
  · exact (admits_refuse _).then _

theorem meets_countInstances (about : Correlation) (plan : Plan) (past : List Happening) :
    (countInstances config about plan).run.Meets (fun _ _ => True)
      (fun later result => ∀ counted, result = .ok counted → Counted config plan later counted)
      past := by
  have snoc (h : Happening) : h ∈ past ++ [h] := List.mem_append_right _ (List.mem_singleton_self h)
  unfold countInstances
  split
  · refine meets_ask_bind .countOffering _ _ trivial (fun counts => ?_)
      fun e _ impossible => nomatch impossible
    rintro _ ⟨⟩
    exact .offering (snoc _)
  · rename_i unlimited
    rw [Bool.not_eq_true] at unlimited
    split
    · refine meets_ask_bind (.countPlan plan.id) _ _ trivial (fun n => ?_)
        fun e _ impossible => nomatch impossible
      rintro _ ⟨⟩
      exact .plan (snoc _) unlimited
    · rename_i free
      rintro _ ⟨⟩
      exact .nothing unlimited (Bool.not_eq_true _ ▸ free)

/-- The check passes only what the counts let in. -/
theorem admits_requireQuota (about : Correlation)
    (found : config.offering.findPlan? planId = some plan) :
    (requireQuota config about plan).Admits config planId := by
  intro past
  rw [requireQuota, run_bind_procedure, Program.meets_bind]
  refine (meets_countInstances about plan past).mono (fun _ _ _ _ => trivial) ?_
  rintro later (e | counted) _ known
  · exact fun _ impossible => nomatch impossible
  · rcases counted with _ | counts
    · exact fun _ _ => ⟨plan, found, none, known _ rfl, fun _ impossible => nomatch impossible⟩
    · dsimp only
      split
      · rename_i passed
        refine fun _ _ => ⟨plan, found, some counts, known _ rfl, ?_⟩
        rintro _ ⟨⟩
        exact passed
      · exact fun _ impossible => nomatch impossible

end Steps

namespace Broker

open Procedure Steps

theorem admits_provisionLocked (about : Correlation) (details : ProvisionDetails) :
    (provisionLocked config about details).Admits config details.planId := by
  refine admits_findPlan_bind about fun plan found => ?_
  refine Admits.after _ fun deployment => ?_
  split
  · exact admits_refuse _
  · exact (admits_requireQuota about found).then _

theorem admits_redeploy {way : Redeploy} {details : UpdateDetails}
    (checks : way.checksQuota details) (requestId instanceId : String) :
    (redeploy config way requestId instanceId details).Admits config details.planId := by
  refine Admits.holding ?_ _ _ _
  refine admits_findPlan_bind _ fun plan found => ?_
  refine Admits.after _ fun deployment => ?_
  simp only [checks, if_true]
  split
  · exact admits_refuse _
  · refine Admits.after _ fun _ => ?_
    exact (admits_requireQuota _ found).then _

end Broker

namespace Request

open Procedure

/-- A deploy that the quotas apply to is accepted only if its plan was admitted. -/
theorem meets_admitted {request : Request} {kind : OperationKind} {instanceId : String}
    (asked : request.deploys? = some (kind, instanceId, planId)) (heeds : request.heedsQuotas) :
    (request.program config).Meets (fun _ _ => True)
      (fun later r => r.token?.isSome → AdmittedTo config planId later) [] := by
  have respond {α : Type} {answer : α → Response} {body : Procedure BrokerError α}
      (admits : body.Admits config planId) : (body.respond answer).Meets (fun _ _ => True)
        (fun later r => r.token?.isSome → AdmittedTo config planId later) [] := by
    refine (meets_respond answer body).mpr ((admits []).mono (fun _ _ _ _ => trivial) ?_)
    rintro later (e | a) _ admitted accepted
    · cases accepted
    · exact admitted a rfl
  cases request with
  | provision requestId instanceId details asyncAllowed =>
    cases asked
    refine respond (Admits.within ?_ _)
    split
    · exact (Broker.admits_provisionLocked _ details).holding _ _ _
    · exact admits_refuse _
  | update requestId instanceId details asyncAllowed =>
    cases asked
    refine respond (Admits.within ?_ _)
    split
    · have changes : Broker.Redeploy.update.checksQuota details := heeds
      exact (Broker.admits_redeploy changes requestId instanceId).then _
    · exact admits_refuse _
  | upgrade requestId instanceId details =>
    cases asked
    have always : Broker.Redeploy.upgrade.checksQuota details := rfl
    exact respond ((Broker.admits_redeploy always requestId instanceId).within _)
  | recreate => cases heeds
  | deprovision | bind | unbind | lastOperation => cases asked

end Request

end ServiceBroker
