import ServiceBroker.Proofs.Lifecycle.Deletion

/-! Deploys with an errand after them. The errand runs once, after the deploy is done, and a poll
reports success when both are. -/
namespace ServiceBroker

open Memory Lifecycle

theorem Request.isDeploy_of_deploys? {request : Request} {kind : OperationKind}
    {instanceId planId : String} (asked : request.deploys? = some (kind, instanceId, planId)) :
    kind.isDeploy := by
  cases request <;> cases asked <;> rfl

/-- The errand of a plan has a name. -/
theorem Plan.not_isEmpty_of_postDeployErrand? {plan : Plan} {errand : Errand}
    (runs : plan.postDeployErrand? = some errand) : errand.isEmpty = false := by
  obtain ⟨_, named⟩ := Option.filter_eq_some_iff.mp runs
  simpa using named

/-- The data of a deploy with a context bring the errand of the plan. -/
theorem deployData_spec (offering : Offering) (kind : OperationKind) (taskId : TaskId)
    {contextId : String} {plan : Plan} {errand : Errand} (proper : contextId ≠ "")
    (runs : plan.postDeployErrand? = some errand) :
    (Steps.deployData kind taskId contextId plan).contextId = contextId ∧
      (Steps.deployData kind taskId contextId plan).kind = kind ∧
      errandAfterDeploy? offering (Steps.deployData kind taskId contextId plan) = some errand := by
  have named := Plan.not_isEmpty_of_postDeployErrand? runs
  have some : contextId.isEmpty = false := by simpa using proper
  simp [Steps.deployData, some, errandAfterDeploy?, runs, named]

/-- A deploy that is followed by an errand. -/
def deployOf (deployment : String) (data : OperationData) (deploy : AnyCall) (errand : Errand) :
    List AnyCall := [deploy, ⟨_, .submitErrand deployment errand data.contextId⟩]

theorem stepwise_deployOf (offering : Offering) (deployment : String) {data : OperationData}
    (deploy : AnyCall) {errand : Errand} (deploys : data.kind.isDeploy)
    (runs : errandAfterDeploy? offering data = some errand) :
    Stepwise offering deployment data (deployOf deployment data deploy errand) := by
  intro n
  rw [stepAfter?, deploys, runs]
  cases n <;> rfl

/-- After the deploy comes the errand. -/
theorem step_eq_errand {offering : Offering} {deployment : String} {data : OperationData}
    {deploy c : AnyCall} {errand : Errand} {tasks : List BackendTask}
    (stepwise : Stepwise offering deployment data (deployOf deployment data deploy errand))
    (seen : tasks ≠ []) (due : stepAfter? offering deployment data tasks.length = some c) :
    c = ⟨_, .submitErrand deployment errand data.contextId⟩ := by
  obtain ⟨first, rest, rfl⟩ := List.exists_cons_of_ne_nil seen
  rw [List.length_cons, ← stepwise rest.length] at due
  cases rest with
  | nil => exact (Option.some.inj due).symm
  | cons second rest => cases due

/-- The errand is the second step. -/
theorem eq_one_of_errand {deployment : String} {data : OperationData} {deploy : AnyCall}
    {errand : Errand} {k : Nat} (isDeploy : deploy.isDeploy)
    (isStep : (deployOf deployment data deploy errand)[k]? =
      some ⟨_, .submitErrand deployment errand data.contextId⟩) : k = 1 := by
  match k with
  | 0 =>
    cases isStep
    cases isDeploy
  | 1 => rfl
  | k + 2 => cases isStep

namespace Process

variable {config : BrokerConfig} {start : World} {deployment : String} {data : OperationData}
  {steps : List AnyCall} {p p' : Process}

/-- No id that was issued is the empty text. -/
theorem Faithful.proper_of_issued (fresh : start.Fresh) (faithful : p.Faithful config start)
    {s : Serving} (served : s ∈ p.servings) {id : String} (issued : .issued id ∈ s.past) :
    id ≠ "" := by
  obtain ⟨n, _, _, same⟩ := (faithful.holds s served _ issued).issued _ rfl
  rw [← same, faithful.ids]
  exact fresh.proper n

/-- A poll that reports success has seen both tasks of a deploy done. -/
theorem all_done_of_found {deploy : AnyCall} {errand : Errand} (deploys : data.kind.isDeploy)
    (isDeploy : deploy.isDeploy)
    (stepwise : Stepwise config.offering deployment data (deployOf deployment data deploy errand))
    (tracks : p.Tracks config start deployment data (deployOf deployment data deploy errand))
    (inTurn : p.InTurn deployment data) {s : Serving} (served : s ∈ p.servings) {task : BackendTask}
    (found : Found config.offering (config.deploymentName s.request.instanceId) data s.past
      (.ok task)) (done : task.isDone) :
    (p.world.backend.under data.contextId).length = 2 ∧
      ∀ e ∈ p.world.backend.under data.contextId, e.task.isDone := by
  have proper := tracks.proper
  have count := tracks.ledger.length_eq
  cases found with
  | only single => simp [hasSteps, OperationData.hasContext, deploys, proper] at single
  | @standing tasks _ steps seen last idle =>
    have same := tracks.deployment_of_seen served seen (List.mem_of_getLast? last)
    rw [same] at seen idle
    obtain ⟨all, e, isLast, isDone⟩ :=
      inTurn.complete_of_standing stepwise tracks served seen last done idle
    exact ⟨count.trans all, inTurn.all_done tracks isLast isDone⟩
  | @stepped tasks step made id _ steps seen due happened created fetched =>
    obtain ⟨⟨latest, last, _⟩, due⟩ := nextStep?_eq_some.mp due
    rw [tracks.deployment_of_seen served seen (List.mem_of_getLast? last)] at due
    have isErrand := step_eq_errand stepwise (List.ne_nil_of_mem (List.mem_of_getLast? last)) due
    obtain ⟨x, isMade, isCall, isTask⟩ :=
      (tracks.faithful.holds s served _ happened).created _ _ created
    rw [isErrand] at isCall
    have isUnder : x.isUnder data.contextId :=
      Submission.isUnder_iff.mpr ⟨deployment, by rw [isCall]; rfl⟩
    have member : x ∈ p.under data.contextId := List.mem_filter.mpr ⟨isMade, isUnder⟩
    obtain ⟨k, held⟩ := List.mem_iff_getElem?.mp member
    obtain rfl := eq_one_of_errand isDeploy (isCall ▸ inTurn.call_eq stepwise tracks held)
    obtain ⟨e, isHeld, isOf, isDone⟩ :=
      tracks.faithful.done_of_fetched served fetched done isMade isTask
    obtain ⟨f, found, isOf'⟩ := tracks.ledger.paired.getElem? held
    have inside := (List.getElem?_eq_some_iff.mp held).1
    have atMost := (inTurn.calls_prefix stepwise tracks).length_le
    simp only [List.length_map, deployOf, List.length_cons, List.length_nil] at atMost
    have two : (p.world.backend.under data.contextId).length = 2 := by omega
    have isLast : (p.world.backend.under data.contextId).getLast? = some e := by
      have equal : e = f := tracks.faithful.sound.unique isHeld
        (List.mem_filter.mp (List.mem_of_getElem? found)).1 (isOf.1.trans isOf'.1.symm)
      rw [List.getLast?_eq_getElem?, two, found, equal]
    exact ⟨two, inTurn.all_done tracks isLast isDone⟩

/-- There are never more tasks than steps to see. -/
theorem length_le_two_of_seen {deploy : AnyCall} {errand : Errand}
    (stepwise : Stepwise config.offering deployment data (deployOf deployment data deploy errand))
    (tracks : p.Tracks config start deployment data (deployOf deployment data deploy errand))
    (inTurn : p.InTurn deployment data) {s : Serving} (served : s ∈ p.servings) {target : String}
    {tasks : List BackendTask} (seen : .look target data.contextId tasks ∈ s.past) :
    tasks.length ≤ 2 := by
  rcases tasks with _ | ⟨first, rest⟩
  · exact Nat.zero_le 2
  · rw [tracks.deployment_of_seen served seen List.mem_cons_self] at seen
    have grown := (tracks.faithful.holds s served _ seen).seen _ _ _ rfl
    rw [tracks.tasksOf_eq] at grown
    have atMost := grown.length_le
    have made := (inTurn.calls_prefix stepwise tracks).length_le
    have count := tracks.ledger.length_eq
    simp only [List.length_map, deployOf, List.length_cons, List.length_nil] at atMost made ⊢
    omega

/-- So the lifecycle step of a poll never comes out at too many of them. -/
theorem not_unexpected {deploy : AnyCall} {errand : Errand}
    (stepwise : Stepwise config.offering deployment data (deployOf deployment data deploy errand))
    (tracks : p.Tracks config start deployment data (deployOf deployment data deploy errand))
    (inTurn : p.InTurn deployment data) {s : Serving} (served : s ∈ p.servings) {f : LifecycleError}
    (finds : s.Finds config data (.error f)) {contextId : String} {ids : List TaskId} :
    f ≠ .unexpectedTasks contextId ids := by
  rintro rfl
  cases finds.found with
  | unexpected _ seen many =>
    have := length_le_two_of_seen stepwise tracks inTurn served seen
    omega

/-- The tasks of a deploy onto a plan with an errand are the deploy and, once it is done, the errand
of the plan, whatever polls and other requests follow one after the other, however calls fail and
however the backend gets on. A poll reports success only when both are done. No poll ever sees more
tasks than there should be: its lifecycle step never comes out at that error, and the error of that
step is what a poll is refused with if its token could be read. -/
theorem deploy_errand_once (fresh : start.Fresh) {request : Request} {kind : OperationKind}
    {instanceId planId : String} {plan : Plan} {errand : Errand}
    (asked : request.deploys? = some (kind, instanceId, planId))
    (found : config.offering.findPlan? planId = some plan)
    (runs : plan.postDeployErrand? = some errand)
    (run : Run config nobody (alone config start request) p) {r : Response} {token : String}
    (answered : p.response? 0 = some r) (yields : r.token? = some token) :
    ∃ data deploy, token = data.encode ∧ data.hasContext ∧ deploy.isDeploy ∧
      deploy.submits? = some (config.deploymentName instanceId, data.contextId) ∧
      ∀ p', Run config (sequential data) p p' →
        p'.InOrder data.contextId
          (deployOf (config.deploymentName instanceId) data deploy errand) ∧
        ∀ s ∈ p'.servings, s.request.polled? = some token →
          (∀ operation, s.response? = some (.polled operation) → operation.state = .succeeded →
            (p'.world.backend.under data.contextId).length = 2 ∧
              ∀ e ∈ p'.world.backend.under data.contextId, e.task.isDone) ∧
          (∀ target tasks, .look target data.contextId tasks ∈ s.past → tasks.length ≤ 2) ∧
          (∀ f, s.Finds config data (.error f) → ∀ contextId ids,
            f ≠ .unexpectedTasks contextId ids) ∧
          ∀ e, s.response? = some (.refused e) →
            (∃ about t, e = (Refusal.ofToken about t).error) ∨ ∃ about f,
              e = (Refusal.ofLifecycle about f).error ∧ s.Finds config data (.error f) := by
  have opens : request.polled? = none := by cases request <;> cases asked <;> rfl
  obtain ⟨s₀, x, data, lone, finished, made, _, same, rfl, opening⟩ :=
    opened fresh opens run answered yields
  generalize isCall : x.call = first at opening
  cases opening with
  | force asked' => cases request <;> cases asked <;> cases asked'
  | delete asked' => cases request <;> cases asked <;> cases asked'
  | chain asked' => cases request <;> cases asked <;> cases asked'
  | @deploy _ _ _ contextId _ taskId _ asked' found' context isDeploy target =>
    cases asked.symm.trans asked'
    obtain rfl := Option.some.inj (found.symm.trans found')
    have issued : .issued contextId ∈ s₀.past := by simpa [runs] using context
    have began := (faithful_alone config fresh.sound request).run fresh.distinct run
    have proper := began.proper_of_issued fresh (by simp [lone.only]) issued
    obtain ⟨isContext, isKind, after⟩ :=
      deployData_spec config.offering kind taskId proper runs
    generalize Steps.deployData kind taskId contextId plan = data at *
    subst isCall isContext isKind
    have deploys := Request.isDeploy_of_deploys? asked
    have stepwise := stepwise_deployOf config.offering (config.deploymentName instanceId) x.call
      deploys after
    obtain ⟨tracks, inTurn⟩ :
        p.Tracks config start _ data (deployOf _ data x.call errand) ∧ p.InTurn _ data :=
      tracks_of_opened fresh run lone finished made same issued target rfl
    refine ⟨data, x.call, rfl, by simpa [OperationData.hasContext] using proper, isDeploy, target,
      fun p' polls => ?_⟩
    obtain ⟨tracks', inTurn'⟩ := InTurn.run fresh.distinct tracks inTurn polls
    refine ⟨inTurn'.inOrder stepwise tracks', fun s served polled => ⟨?_, ?_, ?_, ?_⟩⟩
    · intro operation answered succeeded
      obtain ⟨task, isFound, reported⟩ := tracks'.faithful.found_of_polled served polled answered
      exact all_done_of_found deploys isDeploy stepwise tracks' inTurn' served isFound
        (BackendTask.isDone_of_outcome
          (TaskOutcome.eq_succeeded_of_reported (reported.symm.trans succeeded)))
    · exact fun target tasks seen => length_le_two_of_seen stepwise tracks' inTurn' served seen
    · exact fun f finds _ _ => not_unexpected stepwise tracks' inTurn' served finds
    · exact fun e answered => tracks'.faithful.finds_of_refused served polled answered

/-- A new instance of a plan with an errand after its deploys. -/
def sampleProvision : Request := .provision "r" "j" { serviceId := "s", planId := "p" } true

/-- What its token stands for. -/
def sampleDeploy : OperationData :=
  { kind := .create, taskId := 100, contextId := "c", planId := some "p",
    postDeployErrand := some { name := "check" } }

/-- The deploy has been submitted. -/
def deployBegun : Process := (alone sampleConfig sampleWorld sampleProvision).finish 0 none

theorem deploy_errand_once_sample : ∃ data deploy, sampleDeploy.encode = data.encode ∧
    ∀ p', Run sampleConfig (sequential data) deployBegun p' →
      p'.InOrder data.contextId
        (deployOf (sampleConfig.deploymentName "j") data deploy { name := "check" }) ∧
      ∀ s ∈ p'.servings, s.request.polled? = some sampleDeploy.encode → ∀ contextId ids,
        ¬ s.Finds sampleConfig data (.error (.unexpectedTasks contextId ids)) := by
  have asked : sampleProvision.deploys? = some (.create, "j", "p") := rfl
  have run : Run sampleConfig nobody (alone sampleConfig sampleWorld sampleProvision) deployBegun :=
    run_finish ..
  have answered : deployBegun.response? 0 =
    some (.provisioned ⟨true, "", sampleDeploy.encode⟩) := rfl
  have yields : (Response.provisioned ⟨true, "", sampleDeploy.encode⟩).token? =
    some sampleDeploy.encode := rfl
  obtain ⟨data, deploy, same, _, _, _, kept⟩ :=
    deploy_errand_once fresh_sampleWorld asked rfl rfl run answered yields
  refine ⟨data, deploy, same, fun p' polls => ?_⟩
  obtain ⟨inOrder, told⟩ := kept p' polls
  refine ⟨inOrder, fun s served polled contextId ids finds => ?_⟩
  obtain ⟨_, _, expected, _⟩ := told s served polled
  exact expected _ finds contextId ids rfl

end Process

end ServiceBroker
