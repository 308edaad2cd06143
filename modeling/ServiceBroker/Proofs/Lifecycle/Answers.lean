import ServiceBroker.Proofs.Broker.Transcript
import ServiceBroker.Proofs.Lifecycle.Turns
import ServiceBroker.Proofs.Operation.RoundTrip

/-! What the answer to a poll tells. A poll that reports success has found a task that is done, and
that task is still done; a poll that is refused could not read its token or was stopped by an error
of its lifecycle step. -/
namespace ServiceBroker

open Memory Lifecycle

/-- Polls with the token of an operation are polls of it. -/
theorem Request.genuine_of_token {data : OperationData} {request : Request}
    (polled : request.polled? = some data.encode) : request.Genuine data := by
  intro token d isPolled read _ _
  obtain rfl := Option.some.inj (isPolled.symm.trans polled)
  exact OperationData.decode_encode_ok read

/-- Requests that poll nothing do not matter. -/
theorem Request.genuine_of_none {data : OperationData} {request : Request}
    (opens : request.polled? = none) : request.Genuine data := by
  intro token d isPolled
  rw [opens] at isPolled
  cases isPolled

/-- A poll with a token that can be read. -/
theorem Request.program_of_decode (config : BrokerConfig) (requestId instanceId : String)
    {token : String} {data : OperationData} (read : OperationData.decode token = .ok data) :
    (Request.lastOperation requestId instanceId token).program config =
      (Procedure.within (Steps.spanOf instanceId requestId data.kind) <|
        Broker.pollOperation config
          { config.correlation instanceId requestId data.kind with taskId := some data.taskId }
          data).respond .polled := by
  simp only [Request.program, Broker.lastOperation, read]

/-- What the lifecycle step of a poll came out at, from what the poll went through. -/
def Serving.Finds (config : BrokerConfig) (data : OperationData) (s : Serving)
    (found : Except LifecycleError BackendTask) : Prop :=
  (currentTask config.offering (config.deploymentName s.request.instanceId) data).run.Ends s.past
    found

theorem Serving.Finds.found {config : BrokerConfig} {data : OperationData} {s : Serving}
    {found : Except LifecycleError BackendTask} (finds : s.Finds config data found) :
    Found config.offering (config.deploymentName s.request.instanceId) data s.past found := by
  obtain ⟨seen, before, came⟩ := meets_currentTask.of_ends finds
  exact came.mono before.subset

/-- A poll whose token can be read reports what its lifecycle step came out at. -/
theorem Request.reports_currentTask (config : BrokerConfig) {data : OperationData} {token : String}
    (known : ∀ d, OperationData.decode token = .ok d → d = data) {request : Request}
    (polled : request.polled? = some token) :
    (request.program config).Meets (fun _ _ => True) (fun past r =>
      (∃ about e, r = .refused (Refusal.ofToken about e).error) ∨ ∃ found result,
        (currentTask config.offering (config.deploymentName request.instanceId) data).run.Ends past
          found ∧ Broker.Reports found result ∧ r = .ofResult .polled result) [] := by
  cases request with
  | lastOperation requestId instanceId token' =>
    cases polled
    refine (Procedure.meets_respond ..).mpr ?_
    have ends := (currentTask config.offering (config.deploymentName instanceId) data).run.meets_ends
    have reports := Broker.meets_lastOperation_of config requestId instanceId token data known ends
      (fun _ _ _ before ends => ends.of_prefix before) fun _ _ _ => trivial
    refine reports.mono (fun _ _ _ _ => trivial) ?_
    rintro past result _ (⟨about, e, rfl⟩ | ⟨found, ends, reports⟩)
    · exact .inl ⟨about, e, rfl⟩
    · exact .inr ⟨found, result, ends, reports, rfl⟩
  | _ => cases polled

/-- A poll submits nothing for an operation without a context. -/
theorem Request.submits?_eq_none {config : BrokerConfig} {data : OperationData} {request : Request}
    (polled : request.polled? = some data.encode) (single : data.contextId = "")
    {past : List Happening} {c : AnyCall} (permitted : request.Permits config past c) :
    c.submits? = none := by
  cases submits : c.submits? with
  | none => rfl
  | some target =>
    have isSome : c.submits?.isSome := by rw [submits]; rfl
    unfold Request.Permits at permitted
    rw [polled] at permitted
    obtain ⟨d, read, step⟩ := permitted isSome
    obtain rfl := OperationData.decode_encode_ok read
    have steps := (step isSome).1
    simp [hasSteps, OperationData.hasContext, single] at steps

/-- The context of an operation is its own, if it has one. -/
theorem Opens.context_eq {config : BrokerConfig} {past : List Happening} {request : Request}
    {data : OperationData} {first : AnyCall} (opening : Opens config past request data first) :
    data.contextId = "" ∨ .issued data.contextId ∈ past := by
  cases opening with
  | @deploy kind instanceId planId contextId plan taskId first asked found context =>
    unfold Steps.deployData
    split
    · exact .inl rfl
    · split at context
      · exact .inr context
      · exact .inl context
  | force => exact .inl rfl
  | delete => exact .inl rfl
  | chain _ _ _ _ context => exact .inr context

theorem Request.instanceId_of_deploys? {request : Request} {kind : OperationKind}
    {instanceId planId : String} (asked : request.deploys? = some (kind, instanceId, planId)) :
    request.instanceId = instanceId := by
  cases request <;> cases asked <;> rfl

theorem Request.instanceId_of_deletes? {request : Request} {instanceId : String}
    {details : DeprovisionDetails} (asked : request.deletes? = some (instanceId, details)) :
    request.instanceId = instanceId := by
  cases request <;> cases asked
  rfl

/-- The first submission is for the deployment of the instance and under the context of the data. -/
theorem Opens.submits_eq {config : BrokerConfig} {past : List Happening} {request : Request}
    {data : OperationData} {first : AnyCall} (opening : Opens config past request data first) :
    first.submits? = some (config.deploymentName request.instanceId, data.contextId) := by
  cases opening with
  | @deploy kind instanceId planId contextId plan taskId first asked _ _ _ target =>
    have isInstance := Request.instanceId_of_deploys? asked
    rw [target, isInstance, Steps.deployData_contextId]
  | force asked => rw [Request.instanceId_of_deletes? asked]; rfl
  | delete asked => rw [Request.instanceId_of_deletes? asked]; rfl
  | chain asked => rw [Request.instanceId_of_deletes? asked]; rfl

theorem TaskOutcome.eq_succeeded_of_reported {o : TaskOutcome} (is : o.reported = .succeeded) :
    o = .succeeded := by
  cases o <;> first
    | rfl
    | cases is

theorem BackendTask.isDone_of_outcome {task : BackendTask}
    (succeeded : task.state.outcome = .succeeded) : task.isDone := by
  unfold BackendTask.isDone
  cases state : task.state <;> simp_all [TaskState.outcome, TaskState.isDone]

namespace Process

variable {config : BrokerConfig} {admits : Process → Request → Prop} {start : World}
  {deployment : String} {data : OperationData} {steps : List AnyCall} {p p' : Process}

/-- Submissions are never taken back. -/
theorem Run.submissions_prefix (run : Run config admits p p') : p.submissions <+: p'.submissions := by
  induction run with
  | refl => exact List.prefix_rfl
  | tail _ step ih =>
    refine ih.trans ?_
    cases step with
    | receive _ => exact List.prefix_rfl
    | drift _ => exact List.prefix_rfl
    | advance i delivery =>
      unfold advance
      split
      · exact List.prefix_rfl
      · exact List.prefix_append ..

/-- The end of a serving. -/
theorem Faithful.answers (faithful : p.Faithful config start) {s : Serving}
    (served : s ∈ p.servings) {r : Response} (answered : s.response? = some r)
    {allowed : List Happening → AnyCall → Prop} {demand : List Happening → Response → Prop}
    (meets : (s.request.program config).Meets allowed demand []) : demand s.past r := by
  have follows := faithful.follows s served _ _ meets
  obtain ⟨request, past, rest⟩ := s
  cases rest <;> try cases answered
  exact follows

theorem Faithful.yields (faithful : p.Faithful config start) {s : Serving}
    (served : s ∈ p.servings) {r : Response} (answered : s.response? = some r) :
    s.request.Yields config s.past r :=
  faithful.answers served answered (s.request.meets_program config)

/-- A poll that reports how an operation stands has found a task in that state. -/
theorem Faithful.found_of_polled (faithful : p.Faithful config start) {s : Serving}
    (served : s ∈ p.servings) (polled : s.request.polled? = some data.encode)
    {operation : LastOperation} (answered : s.response? = some (.polled operation)) :
    ∃ task, Found config.offering (config.deploymentName s.request.instanceId) data s.past
      (.ok task) ∧ operation.state = task.state.outcome.reported := by
  have ends := faithful.yields served answered
  unfold Request.Yields at ends
  rw [polled] at ends
  obtain ⟨_, _, impossible⟩ | ⟨d, found, result, read, isFound, reports, is⟩ := ends
  · cases impossible
  · obtain rfl := OperationData.decode_encode_ok read
    cases result with
    | error e => cases is
    | ok reported =>
      obtain rfl := Response.polled.inj is
      cases found with
      | error e =>
        obtain ⟨_, impossible⟩ := reports
        cases impossible
      | ok task =>
        obtain ⟨text, is⟩ := reports
        exact ⟨task, isFound, by rw [Except.ok.inj is]⟩

/-- A poll that is refused could not read its token or was stopped by an error on the way. -/
theorem Faithful.finds_of_refused (faithful : p.Faithful config start) {s : Serving}
    (served : s ∈ p.servings) (polled : s.request.polled? = some data.encode) {e : BrokerError}
    (answered : s.response? = some (.refused e)) :
    (∃ about t, e = (Refusal.ofToken about t).error) ∨ ∃ about f,
      e = (Refusal.ofLifecycle about f).error ∧ s.Finds config data (.error f) := by
  obtain ⟨about, t, is⟩ | ⟨found, result, finds, reports, is⟩ :=
    faithful.answers served answered (Request.reports_currentTask config
      (fun _ read => OperationData.decode_encode_ok read) polled)
  · exact .inl ⟨about, t, Response.refused.inj is⟩
  · cases result with
    | ok reported => cases is
    | error e' =>
      obtain rfl := Response.refused.inj is
      cases found with
      | ok task =>
        obtain ⟨_, impossible⟩ := reports
        cases impossible
      | error f =>
        obtain ⟨about, is⟩ := reports
        exact .inr ⟨about, f, Except.error.inj is, finds⟩

/-- A task that a request has fetched and found done is done, and so is that of the submission with
its id. -/
theorem Faithful.done_of_fetched (faithful : p.Faithful config start) {s : Serving}
    (served : s ∈ p.servings) {id : TaskId} {task : BackendTask}
    (fetched : .answered (.getTask id) (.ok task) ∈ s.past) (done : task.isDone) {x : Submission}
    (made : x ∈ p.submissions) (same : x.taskId = id) :
    ∃ e ∈ p.world.backend.owned, x.Of e ∧ e.task.isDone := by
  obtain ⟨isId, e, held, moved⟩ := (faithful.holds s served _ fetched).fetched id task rfl
  obtain ⟨f, recorded, isOf⟩ := faithful.recorded x made
  have equal : e = f := by
    refine faithful.sound.unique held recorded ?_
    rw [moved.id, isId, isOf.1, same]
  exact ⟨e, held, equal ▸ isOf, moved.isDone done⟩

/-- The token that another request of a run yielded is for an operation of its own. -/
theorem Tracks.genuine_of_yielded (tracks : p.Tracks config start deployment data steps) {i : Nat}
    {s : Serving} (served : p.servings[i]? = some s) (other : 0 < i)
    (opens : s.request.polled? = none) {r : Response} {token : String}
    (answered : s.response? = some r) (yields : r.token? = some token) {request : Request}
    (polled : request.polled? = some token) : request.Genuine data := by
  have member := List.mem_of_getElem? served
  have ends := tracks.faithful.yields member answered
  unfold Request.Yields at ends
  rw [opens] at ends
  obtain ⟨own, first, made, rfl, opening, _⟩ := ends token yields
  intro token d isPolled read same _
  obtain rfl := Option.some.inj (isPolled.symm.trans polled)
  obtain rfl := OperationData.decode_encode_ok read
  obtain ⟨holder, isFirst, isHeld, _⟩ := tracks.holder
  rcases opening.context_eq with empty | issued
  · exact absurd (same.symm.trans empty) tracks.proper
  · have := tracks.faithful.apart i 0 s holder _ served isFirst (same ▸ issued) isHeld
    omega

end Process

end ServiceBroker
