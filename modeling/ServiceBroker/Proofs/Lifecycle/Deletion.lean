import ServiceBroker.Proofs.Lifecycle.Answers

/-! Deletions. The errands before a deletion run in the order of the plan, each once and after the
one before it, and the deletion comes last. A poll that only reports says that a deletion succeeded
when the deployment was deleted; a poll that submits an errand which is done at once says so too
early. -/
namespace ServiceBroker

open Memory Lifecycle

/-- The submissions of a deletion with errands. -/
def deletionSteps (deployment contextId : String) (errands : List Errand) : List AnyCall :=
  errands.map (fun e => ⟨_, .submitErrand deployment e contextId⟩) ++
    [⟨_, .submitDelete deployment contextId false⟩]

theorem getElem?_deletionSteps (deployment contextId : String) (errands : List Errand) (k : Nat) :
    (deletionSteps deployment contextId errands)[k]? =
      if k = errands.length then some ⟨_, .submitDelete deployment contextId false⟩
      else errands[k]?.map fun e => ⟨_, .submitErrand deployment e contextId⟩ := by
  unfold deletionSteps
  rcases Nat.lt_trichotomy k errands.length with before | rfl | after
  · rw [List.getElem?_append_left (by rwa [List.length_map]), if_neg (by omega), List.getElem?_map]
  · rw [List.getElem?_append_right (by simp), if_pos rfl, List.length_map, Nat.sub_self]
    rfl
  · rw [List.getElem?_append_right (by rw [List.length_map]; omega), List.length_map,
      List.getElem?_eq_none (by rw [List.length_singleton]; omega), if_neg (by omega),
      List.getElem?_eq_none (by omega)]
    rfl

theorem stepwise_deletionSteps (offering : Offering) (deployment : String) {data : OperationData}
    (deletes : data.kind = .delete) (errands : data.preDeleteErrands ≠ []) :
    Stepwise offering deployment data
      (deletionSteps deployment data.contextId data.preDeleteErrands) := by
  have effective : data.effectiveErrands = data.preDeleteErrands := by
    simp [OperationData.effectiveErrands, errands]
  intro n
  rw [getElem?_deletionSteps, stepAfter?, deletes, effective]
  rfl

/-- The deletion is the step after all errands. -/
theorem eq_length_of_delete {deployment contextId : String} {errands : List Errand} {k : Nat}
    {force : Bool} (isStep : (deletionSteps deployment contextId errands)[k]? =
      some ⟨_, .submitDelete deployment contextId force⟩) : k = errands.length := by
  rw [getElem?_deletionSteps] at isStep
  split at isStep
  · assumption
  · obtain ⟨e, _, impossible⟩ := Option.map_eq_some_iff.mp isStep
    cases impossible

/-- A request has submitted an errand of an operation and was told its task. -/
def Serving.SubmittedErrand (deployment contextId : String) (s : Serving) : Prop :=
  ∃ errand id, .answered (.submitErrand deployment errand contextId) (.ok id) ∈ s.past

/-- What follows the errands of a deletion is the deletion. -/
theorem errand_or_delete {offering : Offering} {deployment : String} {data : OperationData} {n : Nat}
    {c : AnyCall} (deletes : data.kind.isDeploy = false)
    (due : stepAfter? offering deployment data n = some c) :
    (∃ e, c = ⟨_, .submitErrand deployment e data.contextId⟩) ∨
      c = ⟨_, .submitDelete deployment data.contextId false⟩ := by
  unfold stepAfter? at due
  rw [deletes] at due
  simp only [Bool.false_eq_true, if_false] at due
  split at due
  · exact .inr (Option.some.inj due).symm
  · obtain ⟨e, _, rfl⟩ := Option.map_eq_some_iff.mp due
    exact .inl ⟨e, rfl⟩

/-- Only an errand that was submitted is created as one. -/
theorem Happening.eq_of_created?_errand {h : Happening} {deployment contextId : String}
    {errand : Errand} {id : TaskId}
    (created : h.created? = some (⟨_, .submitErrand deployment errand contextId⟩, id)) :
    h = .answered (.submitErrand deployment errand contextId) (.ok id) := by
  unfold Happening.created? at created
  split at created <;> cases created
  rfl

namespace Process

/-- The tasks of a context are the first steps of a sequence, in the order in which they were
created, and each after the first was submitted when the one before it was done. -/
structure InOrder (contextId : String) (steps : List AnyCall) (p : Process) : Prop where
  paired : Paired (p.world.backend.under contextId) (p.under contextId)
  calls : (p.under contextId).map Submission.call <+: steps
  begun : p.under contextId ≠ []
  done : ∀ k x, (p.under contextId)[k + 1]? = some x →
    ∃ e, (x.before.under contextId)[k]? = some e ∧ e.task.isDone

variable {config : BrokerConfig} {start : World} {deployment : String} {data : OperationData}
  {steps : List AnyCall} {p p' : Process}

theorem InTurn.inOrder (stepwise : Stepwise config.offering deployment data steps)
    (tracks : p.Tracks config start deployment data steps) (inTurn : p.InTurn deployment data) :
    p.InOrder data.contextId steps where
  paired := tracks.ledger.paired
  calls := inTurn.calls_prefix stepwise tracks
  begun := by
    obtain ⟨x, isFirst, _⟩ := tracks.first
    intro empty
    rw [empty] at isFirst
    cases isFirst
  done k x held := inTurn.predecessor_done tracks held

/-- The deletion of an operation whose data list errands goes through these errands. -/
def deletionOf (deployment : String) (data : OperationData) : List AnyCall :=
  deletionSteps deployment data.contextId data.preDeleteErrands

/-- A deletion with errands, just after its first errand was submitted. -/
theorem tracks_deletion (fresh : start.Fresh) {request : Request} {s : Serving} {x : Submission}
    (run : Run config nobody (alone config start request) p) (lone : p.Lone request s)
    (finished : s.response?.isSome) (made : p.submissions = [x]) (same : x.taskId = data.taskId)
    {first : Errand} {rest : List Errand} (deletes : data.kind = .delete)
    (errands : data.preDeleteErrands = first :: rest) (issued : .issued data.contextId ∈ s.past)
    (isCall : x.call = ⟨_, .submitErrand deployment first data.contextId⟩) :
    Stepwise config.offering deployment data (deletionOf deployment data) ∧
      p.Tracks config start deployment data (deletionOf deployment data) ∧
      p.InTurn deployment data := by
  refine ⟨stepwise_deletionSteps _ _ deletes (by simp [errands]),
    tracks_of_opened fresh run lone finished made same issued ?_ ?_⟩
  · rw [isCall]
    rfl
  · rw [isCall, deletionOf, deletionSteps, errands]
    rfl

/-- The errands before a deletion run in their order, each once and only after the one before it,
and the deletion comes last: whatever polls and other requests follow one after the other, however
calls fail and however the backend gets on, the tasks of the operation are its first steps. -/
theorem deletion_in_order (fresh : start.Fresh) {requestId instanceId : String}
    {details : DeprovisionDetails} {asyncAllowed : Bool} {plan : Plan}
    (found : config.offering.findPlan? details.planId = some plan)
    (gentle : details.force = false) (errands : plan.preDeleteErrands ≠ [])
    (run : Run config nobody
      (alone config start (.deprovision requestId instanceId details asyncAllowed)) p)
    {r : Response} {token : String} (answered : p.response? 0 = some r)
    (yields : r.token? = some token) :
    ∃ data, token = data.encode ∧ data.hasContext ∧ ∀ p', Run config (sequential data) p p' →
      p'.InOrder data.contextId (deletionSteps (config.deploymentName instanceId) data.contextId
        plan.preDeleteErrands) := by
  obtain ⟨s, x, data, lone, finished, made, _, same, rfl, opening⟩ :=
    opened fresh rfl run answered yields
  refine ⟨data, rfl, ?_⟩
  generalize isCall : x.call = first at opening
  cases opening with
  | deploy asked => cases asked
  | force asked forced =>
    cases asked
    rw [gentle] at forced
    cases forced
  | delete asked _ found' direct =>
    cases asked
    obtain rfl := Option.some.inj (found.symm.trans found')
    exact absurd direct errands
  | chain asked _ found' sequence context =>
    cases asked
    obtain rfl := Option.some.inj (found.symm.trans found')
    obtain ⟨stepwise, tracks, inTurn⟩ :=
      tracks_deletion fresh run lone finished made same rfl sequence context isCall
    refine ⟨?_, fun p' polls => ?_⟩
    · have proper := tracks.proper
      simpa [OperationData.hasContext] using proper
    · obtain ⟨tracks', inTurn'⟩ := InTurn.run fresh.distinct tracks inTurn polls
      exact inTurn'.inOrder stepwise tracks'

/-- A plan with an errand after its deploys and two before its deletion. -/
def samplePlan : Plan :=
  { id := "p", name := "q",
    errands :=
      { postDeploy := some { name := "check" }
        preDelete := [{ name := "drain" }, { name := "backup" }] } }

def sampleConfig : BrokerConfig :=
  { settings := { deploymentPrefix := "d-" }
    offering := { id := "s", name := "n", plans := [samplePlan] } }

def sampleDeletion : Request :=
  .deprovision "r" "i" { serviceId := "s", planId := "p", force := false } true

/-- What the token of that deletion stands for. -/
def sampleData : OperationData :=
  { kind := .delete, taskId := 100, contextId := "c", planId := some "p",
    preDeleteErrands := samplePlan.preDeleteErrands }

/-- The first errand has been submitted. -/
def deletionBegun : Process := (alone sampleConfig sampleWorld sampleDeletion).finish 0 none

theorem run_deletionBegun :
    Run sampleConfig nobody (alone sampleConfig sampleWorld sampleDeletion) deletionBegun :=
  run_finish ..

theorem deletion_in_order_sample : ∃ data, sampleData.encode = data.encode ∧ data.hasContext ∧
    ∀ p', Run sampleConfig (sequential data) deletionBegun p' →
      p'.InOrder data.contextId (deletionSteps (sampleConfig.deploymentName "i") data.contextId
        samplePlan.preDeleteErrands) :=
  deletion_in_order fresh_sampleWorld rfl rfl (by decide) run_deletionBegun
    (r := .accepted ⟨true, sampleData.encode⟩) rfl rfl

/-! What a report of success is worth. -/

/-- The deletion of an operation has been submitted, and its task is done. Outside of a context it is
the task that the operation data name. -/
def HasDeleted (deployment : String) (data : OperationData) (p : Process) : Prop :=
  ∃ x ∈ p.submissions, (∃ force, x.call = ⟨_, .submitDelete deployment data.contextId force⟩) ∧
    (data.contextId = "" → x.taskId = data.taskId) ∧
    ∃ e ∈ p.world.backend.owned, x.Of e ∧ e.task.isDone

/-- A poll of an operation without steps that reports success has fetched its one task. -/
theorem hasDeleted_of_single (single : data.contextId = "")
    (faithful : p'.Faithful config start) {x : Submission} (made : x ∈ p'.submissions)
    {force : Bool} (isCall : x.call = ⟨_, .submitDelete deployment "" force⟩)
    (same : x.taskId = data.taskId) {s : Serving} (served : s ∈ p'.servings) {task : BackendTask}
    (found : Found config.offering (config.deploymentName s.request.instanceId) data s.past
      (.ok task)) (done : task.isDone) : p'.HasDeleted deployment data := by
  have noSteps : hasSteps data = false := by simp [hasSteps, OperationData.hasContext, single]
  refine ⟨x, made, ⟨force, by rw [isCall, single]⟩, fun _ => same, ?_⟩
  cases found with
  | only _ fetched => exact faithful.done_of_fetched served fetched done made same
  | standing steps => simp [noSteps] at steps
  | stepped steps => simp [noSteps] at steps

/-- A poll that reports success and has submitted no errand has found the deletion done. -/
theorem hasDeleted_of_found (deletes : data.kind = .delete)
    (stepwise : Stepwise config.offering deployment data (deletionOf deployment data))
    (tracks : p.Tracks config start deployment data (deletionOf deployment data))
    (inTurn : p.InTurn deployment data) {s : Serving} (served : s ∈ p.servings)
    (same : config.deploymentName s.request.instanceId = deployment) {task : BackendTask}
    (found : Found config.offering (config.deploymentName s.request.instanceId) data s.past
      (.ok task)) (done : task.isDone) (silent : ¬ s.SubmittedErrand deployment data.contextId) :
    p.HasDeleted deployment data := by
  have proper := tracks.proper
  have plain : data.kind.isDeploy = false := by rw [deletes]; rfl
  rw [same] at found
  cases found with
  | only single => simp [hasSteps, OperationData.hasContext, deletes, proper] at single
  | @standing tasks _ steps seen last idle =>
    obtain ⟨all, e, isLast, isDone⟩ :=
      inTurn.complete_of_standing stepwise tracks served seen last done idle
    have count := tracks.ledger.length_eq
    rw [List.getLast?_eq_getElem?] at isLast
    obtain ⟨x, isMade, isOf⟩ := tracks.ledger.paired.getElem?_task isLast
    have isCall := inTurn.call_eq stepwise tracks isMade
    rw [deletionOf, getElem?_deletionSteps,
      if_pos (by rw [count, all]; simp [deletionOf, deletionSteps])] at isCall
    have member := List.mem_filter.mp (List.mem_of_getElem? isMade)
    exact ⟨x, member.1, ⟨false, (Option.some.inj isCall).symm⟩, fun empty => absurd empty proper, e,
      (List.mem_filter.mp (List.mem_of_getElem? isLast)).1, isOf, isDone⟩
  | @stepped tasks step made id _ steps seen due happened created fetched =>
    rcases errand_or_delete plain (nextStep?_eq_some.mp due).2 with ⟨e, rfl⟩ | rfl
    · rw [Happening.eq_of_created?_errand created] at happened
      exact absurd ⟨e, id, happened⟩ silent
    · obtain ⟨x, isMade, isCall, isTask⟩ :=
        (tracks.faithful.holds s served _ happened).created _ _ created
      exact ⟨x, isMade, ⟨false, isCall⟩, fun empty => absurd empty proper,
        tracks.faithful.done_of_fetched served fetched done isMade isTask⟩

/-- While a poll that has submitted an errand is the last request, no deletion has been submitted. -/
theorem not_hasDeleted_of_errand
    (stepwise : Stepwise config.offering deployment data (deletionOf deployment data))
    (tracks : p.Tracks config start deployment data (deletionOf deployment data))
    (inTurn : p.InTurn deployment data) {s : Serving} (served : p.servings.getLast? = some s)
    (submitted : s.SubmittedErrand deployment data.contextId) : ¬ p.HasDeleted deployment data := by
  rintro ⟨y, isMade, ⟨force, isDelete⟩, _⟩
  obtain ⟨errand, id, happened⟩ := submitted
  obtain ⟨x, isLast, isErrand, _⟩ := inTurn.latest s served _ happened _ id rfl rfl
  have isUnder : y.isUnder data.contextId :=
    Submission.isUnder_iff.mpr ⟨deployment, by rw [isDelete]; rfl⟩
  have member : y ∈ p.under data.contextId := List.mem_filter.mpr ⟨isMade, isUnder⟩
  obtain ⟨k, held⟩ := List.mem_iff_getElem?.mp member
  have place := eq_length_of_delete (isDelete ▸ inTurn.call_eq stepwise tracks held)
  -- the deletion is the last step there is, so it is the last submission
  have atMost := (inTurn.calls_prefix stepwise tracks).length_le
  have inside := (List.getElem?_eq_some_iff.mp held).1
  have last : k = (p.under data.contextId).length - 1 := by
    simp only [deletionOf, deletionSteps, List.length_map, List.length_append,
      List.length_singleton] at atMost
    omega
  rw [List.getLast?_eq_getElem?, ← last, held] at isLast
  rw [← Option.some.inj isLast, isDelete] at isErrand
  cases isErrand

/-- An operation without a context has no steps for polls to take. -/
theorem not_submittedErrand_of_single (single : data.contextId = "")
    (faithful : p.Faithful config start) {s : Serving} (served : s ∈ p.servings)
    (polled : s.request.polled? = some data.encode) :
    ¬ s.SubmittedErrand deployment data.contextId := by
  rintro ⟨errand, id, happened⟩
  obtain ⟨before, after, past⟩ := List.append_of_mem happened
  have rule := faithful.obeyed s served before _ (.submitErrand deployment errand data.contextId)
    (.ok id) ⟨after, by rw [past, List.append_assoc]; rfl⟩
  cases Request.submits?_eq_none polled single rule

/-- When a poll reports that a deletion succeeded, the deletion has been submitted and is done if and
only if that poll has not itself submitted an errand: an errand that is done when its task is fetched
right after its submission is taken for the deletion. -/
theorem deletion_reported_iff (fresh : start.Fresh) {requestId instanceId : String}
    {details : DeprovisionDetails} {asyncAllowed : Bool}
    (run : Run config nobody
      (alone config start (.deprovision requestId instanceId details asyncAllowed)) p)
    {r : Response} {token : String} (answered : p.response? 0 = some r)
    (yields : r.token? = some token) :
    ∃ data, token = data.encode ∧ ∀ p' s operation, Run config (sequential data) p p' →
      p'.servings.getLast? = some s → s.request.polled? = some token →
      s.request.instanceId = instanceId → s.response? = some (.polled operation) →
      operation.state = .succeeded →
        (p'.HasDeleted (config.deploymentName instanceId) data ↔
          ¬ s.SubmittedErrand (config.deploymentName instanceId) data.contextId) := by
  obtain ⟨s₀, x, data, lone, finished, made, _, same, rfl, opening⟩ :=
    opened fresh rfl run answered yields
  refine ⟨data, rfl, fun p' s operation polls isLast polled target answer succeeded => ?_⟩
  have faithful := ((faithful_alone config fresh.sound _).run fresh.distinct run).run
    fresh.distinct polls
  have served := List.mem_of_getLast? isLast
  obtain ⟨task, found, reported⟩ := faithful.found_of_polled served polled answer
  have done := BackendTask.isDone_of_outcome
    (TaskOutcome.eq_succeeded_of_reported (reported.symm.trans succeeded))
  have kept : x ∈ p'.submissions := polls.submissions_prefix.subset (by simp [made])
  have single {force : Bool} (empty : data.contextId = "")
      (isCall : x.call = ⟨_, .submitDelete (config.deploymentName instanceId) "" force⟩) :
      p'.HasDeleted (config.deploymentName instanceId) data ↔
        ¬ s.SubmittedErrand (config.deploymentName instanceId) data.contextId :=
    ⟨fun _ => not_submittedErrand_of_single empty faithful served polled,
      fun _ => hasDeleted_of_single empty faithful kept isCall same served found done⟩
  generalize isCall : x.call = first at opening
  cases opening with
  | deploy asked => cases asked
  | force asked =>
    cases asked
    exact single rfl isCall
  | delete asked =>
    cases asked
    exact single rfl isCall
  | chain asked _ _ sequence context =>
    cases asked
    obtain ⟨stepwise, tracks, inTurn⟩ :=
      tracks_deletion fresh run lone finished made same rfl sequence context isCall
    obtain ⟨tracks', inTurn'⟩ := InTurn.run fresh.distinct tracks inTurn polls
    exact ⟨fun deleted submitted =>
        not_hasDeleted_of_errand stepwise tracks' inTurn' isLast submitted deleted,
      hasDeleted_of_found rfl stepwise tracks' inTurn' served (by rw [target]) found done⟩

/-- The first errand is done, and whatever is submitted now is done at once. -/
def errandDone : World :=
  { deletionBegun.world with
    backend := { deletionBegun.world.backend.setTaskState 100 .done with submittedState := .done } }

theorem drifts_errandDone : deletionBegun.world.Drifts errandDone :=
  ⟨⟨.cons ⟨rfl, rfl, rfl⟩ .nil, rfl⟩, rfl, rfl, rfl, rfl⟩

def samplePoll : Request := .lastOperation "r" "i" sampleData.encode

theorem decode_sampleData : OperationData.decode sampleData.encode = .ok sampleData := by
  rw [OperationData.decode_encode]
  rfl

/-- The poll once its token has been read. -/
def samplePolling : Serving :=
  { request := samplePoll
    rest := (Procedure.within (Steps.spanOf "i" "r" .delete) <|
      Broker.pollOperation sampleConfig
        { sampleConfig.correlation "i" "r" .delete with taskId := some 100 } sampleData).respond
          .polled }

theorem receive_samplePoll (p : Process) : p.receive sampleConfig samplePoll =
    { p with servings := p.servings ++ [samplePolling] } := by
  rw [receive, Serving.start, samplePoll, Request.program_of_decode _ _ _ decode_sampleData]
  rfl

/-- The poll comes in and is taken to its end. -/
def takePoll (p : Process) : Process :=
  finish p.servings.length none { p with servings := p.servings ++ [samplePolling] }

theorem run_takePoll {p : Process} (idle : p.servings.all (·.response?.isSome)) :
    Run sampleConfig (sequential sampleData) p (takePoll p) := by
  have admitted : sequential sampleData p samplePoll :=
    ⟨List.all_eq_true.mp idle, Request.genuine_of_token rfl⟩
  refine .head (.receive admitted) ?_
  rw [receive_samplePoll]
  exact run_finish ..

/-- A poll has submitted the second errand, which was done at once. -/
def deletionPolled : Process := takePoll { deletionBegun with world := errandDone }

theorem run_deletionPolled : Run sampleConfig (sequential sampleData) deletionBegun deletionPolled :=
  .head (.drift drifts_errandDone) (run_takePoll rfl)

/-- Another poll has submitted the deletion, which was done at once. -/
def deletionEnded : Process := takePoll deletionPolled

theorem deletionEnded_spec : ∃ s, deletionEnded.servings.getLast? = some s ∧
    s.request = samplePoll ∧
    s.response? = some (.polled ⟨.succeeded, "Instance deletion completed"⟩) ∧
    s.past.map (fun h => h.created?.map (·.1.kind)) =
      [none, some .submitDelete, none, none, none] :=
  ⟨_, rfl, rfl, rfl, rfl⟩

theorem run_deletionEnded : Run sampleConfig (sequential sampleData) deletionBegun deletionEnded :=
  run_deletionPolled.trans (run_takePoll rfl)

/-- The poll that submits the deletion is right to report success. -/
theorem deletion_reported_iff_sample : deletionEnded.HasDeleted "d-i" sampleData := by
  have yields : (Response.accepted ⟨true, sampleData.encode⟩).token? = some sampleData.encode := rfl
  obtain ⟨data, same, worth⟩ :=
    deletion_reported_iff fresh_sampleWorld run_deletionBegun rfl yields
  obtain rfl := OperationData.decode_encode_ok (same ▸ decode_sampleData)
  obtain ⟨s, isLast, asked, answered, calls⟩ := deletionEnded_spec
  refine (worth deletionEnded s _ run_deletionEnded isLast
    (asked ▸ rfl) (asked ▸ rfl) answered rfl).mpr ?_
  rintro ⟨errand, id, submitted⟩
  have kind := List.mem_map_of_mem (f := fun h : Happening => h.created?.map (·.1.kind)) submitted
  rw [calls] at kind
  simp [Happening.created?] at kind

theorem deletion_reported_too_early : ∃ p p' s,
    Run sampleConfig nobody (alone sampleConfig sampleWorld sampleDeletion) p ∧
    p.response? 0 = some (.accepted ⟨true, sampleData.encode⟩) ∧
    Run sampleConfig (sequential sampleData) p p' ∧
    p'.servings.getLast? = some s ∧ s.request = .lastOperation "r" "i" sampleData.encode ∧
    s.response? = some (.polled ⟨.succeeded, "Instance deletion completed"⟩) ∧
    .answered (.deleteConfigs "d-i") (.ok ()) ∈ s.past ∧
    ¬ p'.HasDeleted (sampleConfig.deploymentName "i") sampleData := by
  refine ⟨deletionBegun, deletionPolled, _, run_deletionBegun, rfl, run_deletionPolled, rfl, rfl, rfl,
    List.mem_of_getElem? (i := 3) rfl, ?_⟩
  rintro ⟨x, made, ⟨force, isDelete⟩, _⟩
  have kind : x.call.kind ∈ [CallKind.submitErrand, .submitErrand] :=
    List.mem_map_of_mem (f := fun x : Submission => x.call.kind) made
  rw [isDelete] at kind
  simp at kind

end Process

end ServiceBroker
