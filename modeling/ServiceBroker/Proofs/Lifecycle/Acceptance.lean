import ServiceBroker.Proofs.Broker.Commitments
import ServiceBroker.Proofs.Lifecycle.Deletion
import ServiceBroker.Proofs.Memory.Account
import ServiceBroker.Proofs.Memory.Reachable
import ServiceBroker.Proofs.Secrecy.Requests

/-! What a request that opens an operation leaves in its world. Turned down, it leaves the backend
as it was. Accepted, it leaves one task more, which its token names. Its locks are free again in any
case. -/
namespace ServiceBroker

open Memory

/-- The submissions are the calls that give a task a deployment and a context. -/
theorem AnyCall.isSubmission_eq (c : AnyCall) : c.kind.isSubmission = c.submits?.isSome := by
  obtain ⟨kind, call⟩ := c
  cases call <;> rfl

/-- What created a task was a call. -/
theorem call?_of_created? {h : Happening} {c : AnyCall} {id : TaskId}
    (created : h.created? = some (c, id)) : h.call? = some c ∧ c.submits?.isSome := by
  cases h with
  | issued => cases created
  | @answered k c answer =>
    cases answer with
    | error e => rw [created?_error] at created; cases created
    | ok value =>
      cases c with
      | submitDeploy | submitErrand | submitDelete | submitRecreate =>
        cases created
        exact ⟨rfl, rfl⟩
      | _ => cases created

/-- Among preliminaries there is neither a task nor a submission. -/
theorem nothing_of_preliminary {past : List Happening} (preliminary : ∀ h ∈ past, h.isPreliminary) :
    past.filterMap Happening.created? = [] ∧
      (past.filterMap Happening.call?).filter (fun c => c.kind.isSubmission) = [] := by
  constructor
  · exact List.filterMap_eq_nil_iff.mpr fun h member =>
      created?_of_preliminary (preliminary h member)
  · refine List.filter_eq_nil_iff.mpr fun c member => ?_
    obtain ⟨h, isPast, called⟩ := List.mem_filterMap.mp member
    have quiet := preliminary h isPast
    cases h with
    | issued => cases called
    | answered call answer =>
      cases called
      simp only [Happening.isPreliminary, AnyCall.isPreliminary, Bool.and_eq_true] at quiet
      rw [AnyCall.isSubmission_eq, Option.isNone_iff_eq_none.mp quiet.1]
      exact Bool.false_ne_true

/-- The one submission that was made is that of the one task. -/
theorem CreatedOnce.single {past : List Happening} (once : CreatedOnce past) {made : Happening}
    {first : AnyCall} {id : TaskId} (member : made ∈ past)
    (created : made.created? = some (first, id)) :
    past.filterMap Happening.created? = [(first, id)] ∧
      (past.filterMap Happening.call?).filter (fun c => c.kind.isSubmission) = [first] := by
  obtain ⟨before, only, after, rfl, preliminary, _⟩ := once
  have isOnly : made = only := by
    by_contra other
    have beside : made ∈ before ++ after := by
      simpa [other] using member
    rw [created?_of_preliminary (preliminary made beside)] at created
    cases created
  subst isOnly
  obtain ⟨called, submits⟩ := call?_of_created? created
  obtain ⟨noTask, noCall⟩ := nothing_of_preliminary fun h held =>
    preliminary h (List.mem_append_left after held)
  obtain ⟨noTask', noCall'⟩ := nothing_of_preliminary fun h held =>
    preliminary h (List.mem_append_right before held)
  constructor
  · simp [noTask, noTask', created]
  · have isSubmission : first.kind.isSubmission := first.isSubmission_eq.trans submits
    simp [noCall, noCall', called, isSubmission]

namespace Request

/-- A request opens nothing but what it asks for. -/
theorem polled?_of_opens {request : Request} (opens : request.opens) : request.polled? = none := by
  cases request <;> first
    | rfl
    | cases opens

/-- The operation that a request asks for has errands to run: after a deploy onto its plan, or
before the deletion unless that is forced. -/
inductive RunsErrands (config : BrokerConfig) (request : Request) : Prop where
  | afterDeploy {kind : OperationKind} {instanceId planId : String} {plan : Plan} {errand : Errand}
      (asked : request.deploys? = some (kind, instanceId, planId))
      (found : config.offering.findPlan? planId = some plan)
      (planned : plan.errands.postDeploy = some errand) (named : errand.name ≠ "")
  | beforeDeletion {instanceId : String} {details : DeprovisionDetails} {plan : Plan}
      (asked : request.deletes? = some (instanceId, details)) (gentle : details.force = false)
      (found : config.offering.findPlan? details.planId = some plan)
      (planned : plan.errands.preDelete ≠ [])

/-- A request asks for one thing. -/
theorem deletes?_of_deploys? {request : Request} {asked : OperationKind × String × String}
    (deploys : request.deploys? = some asked) : request.deletes? = none := by
  cases request <;> first
    | rfl
    | cases deploys

end Request

theorem Plan.postDeployErrand?_isSome_iff (plan : Plan) : plan.postDeployErrand?.isSome ↔
    ∃ errand, plan.errands.postDeploy = some errand ∧ errand.name ≠ "" := by
  cases planned : plan.errands.postDeploy with
  | none => simp [Plan.postDeployErrand?, planned]
  | some errand => simp [Plan.postDeployErrand?, planned, Errand.isEmpty]

/-- An operation has a context exactly if it has errands to run. -/
theorem Opens.runsErrands_iff {config : BrokerConfig} {past : List Happening} {request : Request}
    {data : OperationData} {first : AnyCall} (opening : Opens config past request data first)
    (proper : ∀ id, .issued id ∈ past → id ≠ "") :
    data.contextId ≠ "" ↔ request.RunsErrands config := by
  cases opening with
  | @deploy kind instanceId planId contextId plan taskId first asked found context deploys target =>
    rw [Steps.deployData_contextId]
    by_cases runs : plan.postDeployErrand?.isSome
    · rw [if_pos runs] at context
      obtain ⟨errand, planned, named⟩ := plan.postDeployErrand?_isSome_iff.mp runs
      exact ⟨fun _ => .afterDeploy asked found planned named, fun _ => proper _ context⟩
    · rw [if_neg runs] at context
      refine ⟨fun nonempty => absurd context nonempty, fun errands => ?_⟩
      cases errands with
      | afterDeploy asked' found' planned named =>
        cases asked.symm.trans asked'
        cases found.symm.trans found'
        exact absurd (plan.postDeployErrand?_isSome_iff.mpr ⟨_, planned, named⟩) runs
      | beforeDeletion asked' =>
        rw [Request.deletes?_of_deploys? asked] at asked'
        cases asked'
  | force asked forced =>
    refine ⟨fun nonempty => absurd rfl nonempty, fun errands => ?_⟩
    cases errands with
    | afterDeploy asked' =>
      rw [Request.deletes?_of_deploys? asked'] at asked
      cases asked
    | beforeDeletion asked' gentle =>
      cases asked.symm.trans asked'
      rw [forced] at gentle
      cases gentle
  | delete asked gentle found direct =>
    refine ⟨fun nonempty => absurd rfl nonempty, fun errands => ?_⟩
    cases errands with
    | afterDeploy asked' =>
      rw [Request.deletes?_of_deploys? asked'] at asked
      cases asked
    | beforeDeletion asked' _ found' planned =>
      cases asked.symm.trans asked'
      cases found.symm.trans found'
      exact absurd direct planned
  | @chain instanceId contextId details plan taskId first rest asked gentle found errands context =>
    have planned : plan.errands.preDelete ≠ [] := by
      have listed : plan.errands.preDelete = first :: rest := errands
      rw [listed]
      exact List.cons_ne_nil first rest
    exact ⟨fun _ => .beforeDeletion asked gentle found planned, fun _ => proper _ context⟩

/-- The response carries operation data, as they are or in a token. -/
def Response.Carries (data : OperationData) : Response → Prop
  | .started d => d = data
  | r => r.token? = some data.encode

theorem Response.carries_of_token {r : Response} {data : OperationData}
    (yields : r.token? = some data.encode) : r.Carries data := by
  cases r with
  | started d => exact OperationData.encode_injective (Option.some.inj yields)
  | _ => exact yields

namespace Request

/-- What a request that was accepted with operation data did to a world. -/
structure Accepted (config : BrokerConfig) (request : Request) (data : OperationData)
    (w w' : World) : Prop where
  /-- It made one submission. -/
  submission : ∃ made first, w'.calls = w.calls ++ made ∧
    made.filter (fun c => c.kind.isSubmission) = [first]
  /-- One task is new, which belongs to the deployment of the instance and which the data name. -/
  task : ∃ task, w'.backend.tasks = w.backend.tasks ++ [task] ∧
    w'.backend.owners task.id = some (config.deploymentName request.instanceId) ∧
    (∀ older ∈ w.backend.tasks, older.id ≠ task.id ∧
      w'.backend.owners older.id = w.backend.owners older.id) ∧
    task.id = data.taskId ∧ task.contextId = data.contextId
  context : data.contextId ≠ "" ↔ request.RunsErrands config

/-- Requests for deploys and deletions are all or nothing. Whatever fails, a refusal leaves the
backend as it was; and if there is a token, there is the one task that it names. Either way the
locks are as they were. -/
theorem all_or_nothing (config : BrokerConfig) {request : Request} (opens : request.opens)
    (deadline : Option Millis) {w : World} (reachable : w.backend.Reachable)
    (proper : ∀ n, w.ids n ≠ "") {r : Response} {w' : World}
    (served : (request.program config).run (World.handler deadline) w = (r, w')) :
    w'.locks = w.locks ∧ ((∃ e, r = .refused e ∧ w'.backend = w.backend) ∨
      ∃ data, r.Carries data ∧ request.Accepted config data w w') := by
  have locks :=
    (World.locks_run deadline CallKind.SameButText.refl (request.inStep_program config) w).2
  obtain ⟨past, ⟨yields, settles⟩, accounts⟩ :=
    ((request.meets_program config).and (meets_settles config opens)).run
      (World.keeps_accounts w deadline) (World.accounts_nil reachable.sound)
  rw [served] at locks yields settles accounts
  refine ⟨locks, ?_⟩
  rcases settles with ⟨e, refused, nothing⟩ | ⟨accepted, once⟩
  · exact .inl ⟨e, refused, accounts.untouched nothing⟩
  · obtain ⟨token, isToken⟩ := Option.isSome_iff_exists.mp accepted
    rw [Yields, polled?_of_opens opens] at yields
    obtain ⟨data, first, made, rfl, opening, happened, created⟩ := yields token isToken
    obtain ⟨tasks, calls⟩ := once.single happened created
    refine .inr ⟨data, Response.carries_of_token isToken, ?_, ?_, ?_⟩
    · exact ⟨_, first, accounts.calls, calls⟩
    · obtain ⟨added, all, paired⟩ := accounts.tasks
      rw [tasks] at paired
      cases paired with
      | @cons e _ _ _ same rest =>
        cases rest
        obtain ⟨deployment, task⟩ := e
        obtain ⟨isTask, target⟩ := same
        have named := target.symm.trans opening.submits_eq
        simp only [Option.some.injEq, Prod.mk.injEq] at named
        obtain ⟨rfl, context⟩ := named
        have grown : w'.backend.tasks = w.backend.tasks ++ [task] := by
          rw [accounts.sound.tasks_eq, all, List.map_append, ← reachable.sound.tasks_eq]
          rfl
        have owner {e : OwnedTask} (held : e ∈ w'.backend.owned) :
            w'.backend.owners e.task.id = some e.deployment := (Backend.mem_owned.mp held).2
        refine ⟨task, grown, owner (all ▸ List.mem_append_right _ (List.mem_singleton_self _)),
          fun older held => ⟨?_, ?_⟩, isTask.symm, context⟩
        · have sorted := accounts.sound.sorted
          rw [grown, List.pairwise_append] at sorted
          exact Nat.ne_of_lt (sorted.2.2 older held _ (List.mem_singleton_self _))
        · obtain ⟨e, listed, rfl⟩ := reachable.sound.exists_mem_owned held
          rw [owner (all ▸ List.mem_append_left _ listed), (Backend.mem_owned.mp listed).2]
    · refine opening.runsErrands_iff fun id issued => ?_
      obtain ⟨n, rfl⟩ := accounts.issued id issued
      exact proper n

/-- The deletion of an instance with errands is accepted. -/
theorem all_or_nothing_deletion :
    ∃ data, ((Process.sampleDeletion.program Process.sampleConfig).run (World.handler none)
      sampleWorld).1.Carries data ∧
        Process.sampleDeletion.Accepted Process.sampleConfig data sampleWorld
          ((Process.sampleDeletion.program Process.sampleConfig).run (World.handler none)
            sampleWorld).2 := by
  have reachable : sampleWorld.backend.Reachable := .addDeployment .empty "d-i" ""
  have opens : Process.sampleDeletion.opens := rfl
  obtain ⟨_, ⟨e, refused, _⟩ | accepted⟩ :=
    all_or_nothing Process.sampleConfig opens none reachable fresh_sampleWorld.proper rfl
  · cases refused
  · exact accepted

end Request

end ServiceBroker
