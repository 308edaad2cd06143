import ServiceBroker.Proofs.Lifecycle.Ending

/-! What was reported as the end of an operation stays its end. A broker serves one request after the
other, while others work in the same backend; whatever else it serves, and however its calls fare, it
reports the same end for the same task again, and takes no further step. -/
namespace ServiceBroker

open Memory Lifecycle

theorem TaskOutcome.reported_injective {o o' : TaskOutcome} (same : o.reported = o'.reported) :
    o = o' := by
  cases o <;> cases o' <;> first
    | rfl
    | cases same

/-- The poll has answered about a task that was shown to it last, and its answer is the one for the
outcome of that task. -/
structure Serving.Tells (config : BrokerConfig) (data : OperationData) (requestId instanceId : String)
    (id : TaskId) (outcome : TaskOutcome) (s : Serving) (operation : LastOperation) : Prop where
  shown : ∃ task, lastShown? s.past = some task ∧ task.id = id
  answer : operation = Broker.reportOf
    { config.correlation instanceId requestId data.kind with taskId := some id } data.kind outcome

namespace Process

/-- One step of a broker that serves one request after the other, next to others who use its backend.
Tasks only move on, and under the context of the operation only polls of its token add any. -/
inductive Turn (config : BrokerConfig) (instanceId token : String) (data : OperationData) :
    Process → Process → Prop where
  | served {p p' : Process} (step : Step config (fun p _ => p.Idle) p p')
      (own : data.hasContext → ∀ x ∈ p'.submissions.drop p.submissions.length,
        x.call.submits? = some (config.deploymentName instanceId, data.contextId) →
          ∃ requestId, x.request = .lastOperation requestId instanceId token) :
      Turn config instanceId token data p p'
  | aside {p : Process} {world : World}
      (aside : p.world.Aside (config.deploymentName instanceId) data world) :
      Turn config instanceId token data p { p with world }

/-- Any number of such steps. -/
abbrev Turns (config : BrokerConfig) (instanceId token : String) (data : OperationData) :
    Process → Process → Prop := Relation.ReflTransGen (Turn config instanceId token data)

variable {config : BrokerConfig} {instanceId token : String} {data : OperationData}
  {start : World} {p p' : Process}

/-- A broker that is alone with its backend takes such steps, as long as it is only polls that submit
anything under the context. -/
theorem Turns.of_run {admits : Process → Request → Prop}
    (inTurn : ∀ p request, admits p request → p.Idle) (run : Run config admits p p')
    (own : data.hasContext → ∀ x ∈ p'.submissions,
      x.call.submits? = some (config.deploymentName instanceId, data.contextId) →
        ∃ requestId, x.request = .lastOperation requestId instanceId token) :
    Turns config instanceId token data p p' := by
  induction run with
  | refl => exact .refl
  | @tail q p' _ step ih =>
    have kept : q.submissions ⊆ p'.submissions := (Run.submissions_prefix (.single step)).subset
    refine (ih fun context x member => own context x (kept member)).tail (.served ?_ ?_)
    · cases step with
      | receive admitted => exact .receive (inTurn _ _ admitted)
      | advance i delivery => exact .advance _ i delivery
      | drift drifts => exact .drift drifts
    · exact fun context x member => own context x (List.mem_of_mem_drop member)

/-- A poll with the token keeps to the steps of the operation, and what it will answer is about the
task that it is shown last. -/
structure Polls (config : BrokerConfig) (instanceId : String) (data : OperationData)
    (requestId : String) (s : Serving) : Prop where
  keeps : s.rest.Meets (StepRule config.offering (config.deploymentName instanceId) data)
    (fun past r => ∀ operation, r = .polled operation →
      Broker.Answers config.offering (config.deploymentName instanceId)
        (config.correlation instanceId requestId data.kind) data past operation) s.past
  obeyed : Obeyed (StepRule config.offering (config.deploymentName instanceId) data) s.past

theorem Polls.received (read : OperationData.decode token = .ok data) (requestId : String) :
    Polls config instanceId data requestId
      (.start config (.lastOperation requestId instanceId token)) where
  keeps := by
    simp only [Serving.start, Request.program_of_decode config requestId instanceId read,
      Procedure.meets_respond, Procedure.meets_within_procedure]
    refine (Broker.answers_pollOperation config _ data).mono (fun _ _ _ permitted => permitted) ?_
    rintro past (e | found) _ answers _ is
    · cases is
    · cases is
      exact answers found rfl
  obeyed := obeyed_nil

theorem Polls.act {requestId : String} {s s' : Serving} {w w' : World} {made : List Submission}
    (polls : Polls config instanceId data requestId s) (act : s.Act w s' w' made) :
    Polls config instanceId data requestId s' :=
  ⟨act.keeps polls.keeps, act.obeyed polls.obeyed polls.keeps⟩

/-- What a poll has answered. -/
theorem Polls.answers {requestId : String} {s : Serving}
    (polls : Polls config instanceId data requestId s) {operation : LastOperation}
    (answered : s.response? = some (.polled operation)) :
    Broker.Answers config.offering (config.deploymentName instanceId)
      (config.correlation instanceId requestId data.kind) data s.past operation := by
  obtain ⟨request, past, rest⟩ := s
  have keeps := polls.keeps
  cases rest <;> try cases answered
  exact keeps operation rfl

/-- What holds of a broker that serves one request after the other: at most the last request is being
served, and if it is a poll of the token, it knows how the tasks of the operation stand. -/
structure Attends (config : BrokerConfig) (instanceId token : String) (data : OperationData)
    (p : Process) : Prop where
  sound : p.world.backend.Sound
  alone : ∀ i s, p.servings[i]? = some s → s.response? = none → i + 1 = p.servings.length
  last : ∀ s requestId, p.servings.getLast? = some s →
    s.request = .lastOperation requestId instanceId token →
      Polls config instanceId data requestId s ∧
        Knows (config.deploymentName instanceId) data s.past p.world.backend

namespace Attends

theorem aside (attends : p.Attends config instanceId token data) {world : World}
    (aside : p.world.Aside (config.deploymentName instanceId) data world) :
    ({ p with world } : Process).Attends config instanceId token data where
  sound := aside.sound
  alone := attends.alone
  last s requestId isLast polled := by
    obtain ⟨polls, knows⟩ := attends.last s requestId isLast polled
    exact ⟨polls, knows.aside aside⟩

theorem receive (read : OperationData.decode token = .ok data)
    (attends : p.Attends config instanceId token data) (idle : p.Idle) (request : Request) :
    (p.receive config request).Attends config instanceId token data where
  sound := attends.sound
  alone i s served waiting := by
    rw [Process.receive, List.getElem?_append] at served
    split at served
    · have answered := idle s (List.mem_of_getElem? served)
      rw [waiting] at answered
      cases answered
    · have inside := (List.getElem?_eq_some_iff.mp served).1
      simp only [Process.receive, List.length_append, List.length_singleton] at inside ⊢
      omega
  last s requestId isLast polled := by
    have isNew : (p.receive config request).servings.getLast? = some (.start config request) := by
      simp [Process.receive]
    obtain rfl := Option.some.inj (isNew.symm.trans isLast)
    obtain rfl : request = .lastOperation requestId instanceId token := polled
    exact ⟨.received read requestId, .nil _ _ _⟩

theorem act (attends : p.Attends config instanceId token data) {i : Nat} {s s' : Serving}
    {w : World} {made : List Submission} (served : p.servings[i]? = some s)
    (waiting : s.response? = none) (act : s.Act p.world s' w made) :
    Attends config instanceId token data ⟨w, p.servings.set i s', p.submissions ++ made⟩ := by
  have isLast := attends.alone i s served waiting
  constructor
  · exact act.sound attends.sound
  · intro j t isServed isOpen
    rw [List.length_set]
    by_cases same : i = j
    · exact same ▸ isLast
    · rw [List.getElem?_set_ne same] at isServed
      exact attends.alone j t isServed isOpen
  · intro t requestId isEnd polled
    have before : p.servings.getLast? = some s := by
      rw [List.getLast?_eq_getElem?, ← isLast]
      exact served
    have after : (p.servings.set i s').getLast? = some s' := by
      rw [List.getLast?_eq_getElem?, List.length_set, ← isLast]
      exact List.getElem?_set_self (by omega)
    obtain rfl := Option.some.inj (after.symm.trans isEnd)
    obtain ⟨polls, knows⟩ := attends.last s requestId before (act.request_eq ▸ polled)
    exact ⟨polls.act act, knows.act act attends.sound⟩

theorem turn (read : OperationData.decode token = .ok data)
    (attends : p.Attends config instanceId token data) (turn : Turn config instanceId token data p p') :
    p'.Attends config instanceId token data := by
  cases turn with
  | aside aside => exact attends.aside aside
  | served step _ =>
    cases step.move attends.sound with
    | still => exact attends
    | received idle => exact attends.receive read idle _
    | drifted drifts => exact attends.aside (drifts.aside attends.sound)
    | acted served waiting act => exact attends.act served waiting act

theorem turns (read : OperationData.decode token = .ok data)
    (attends : p.Attends config instanceId token data)
    (turns : Turns config instanceId token data p p') : p'.Attends config instanceId token data := by
  induction turns with
  | refl => exact attends
  | tail _ turn ih => exact ih.turn read turn

theorem begin (sound : start.backend.Sound) :
    ({ world := start } : Process).Attends config instanceId token data where
  sound := sound
  alone _ _ impossible := nomatch impossible
  last _ _ impossible := nomatch impossible

end Attends

/-- What holds once the end of the operation was reported, when that many requests had come in: those
are answered, and every later poll sees the end. -/
structure Settled (config : BrokerConfig) (instanceId token : String) (data : OperationData)
    (count : Nat) (id : TaskId) (state : TaskState) (p : Process) : Prop where
  sound : p.world.backend.Sound
  ended : Ended config.offering (config.deploymentName instanceId) data id state p.world.backend
  answered : ∀ i s, i < count → p.servings[i]? = some s → s.response?.isSome
  grown : count ≤ p.servings.length
  later : ∀ i s requestId, count ≤ i → p.servings[i]? = some s →
    s.request = .lastOperation requestId instanceId token →
      Polls config instanceId data requestId s ∧
        SeesEnd config.offering (config.deploymentName instanceId) data id state s.past

namespace Settled

variable {count : Nat} {id : TaskId} {state : TaskState}

theorem aside (settled : p.Settled config instanceId token data count id state) {world : World}
    (aside : p.world.Aside (config.deploymentName instanceId) data world) :
    ({ p with world } : Process).Settled config instanceId token data count id state where
  sound := aside.sound
  ended := settled.ended.aside aside
  answered := settled.answered
  grown := settled.grown
  later := settled.later

theorem receive (read : OperationData.decode token = .ok data)
    (settled : p.Settled config instanceId token data count id state) (request : Request) :
    (p.receive config request).Settled config instanceId token data count id state where
  sound := settled.sound
  ended := settled.ended
  answered i s before served := by
    refine settled.answered i s before ?_
    rw [Process.receive, List.getElem?_append_left] at served
    · exact served
    · exact Nat.lt_of_lt_of_le before settled.grown
  grown := by
    rw [Process.receive, List.length_append]
    exact Nat.le_add_right_of_le settled.grown
  later i s requestId since served polled := by
    rw [Process.receive, List.getElem?_append] at served
    split at served
    · exact settled.later i s requestId since served polled
    · obtain rfl : s = .start config request := by
        have new := List.mem_of_getElem? served
        exact List.mem_singleton.mp new
      obtain rfl : request = .lastOperation requestId instanceId token := polled
      refine ⟨.received read requestId, fun _ _ impossible => ?_, fun _ _ impossible => ?_⟩
      · cases impossible
      · cases impossible

theorem act (settled : p.Settled config instanceId token data count id state) {i : Nat}
    {s s' : Serving} {w : World} {made : List Submission} (served : p.servings[i]? = some s)
    (waiting : s.response? = none) (act : s.Act p.world s' w made)
    (own : data.hasContext → ∀ x ∈ made,
      x.call.submits? = some (config.deploymentName instanceId, data.contextId) →
        ∃ requestId, x.request = .lastOperation requestId instanceId token) :
    Settled config instanceId token data count id state
      ⟨w, p.servings.set i s', p.submissions ++ made⟩ := by
  have since : count ≤ i := by
    by_contra before
    have answered := settled.answered i s (Nat.lt_of_not_le before) served
    rw [waiting] at answered
    cases answered
  have elsewhere : data.hasContext → ∀ x ∈ made,
      x.call.submits? ≠ some (config.deploymentName instanceId, data.contextId) := by
    intro context x member target
    obtain ⟨requestId, polled⟩ := own context x member target
    obtain ⟨isRequest, _, _, permitted⟩ := act.made_spec member
    obtain ⟨polls, sees⟩ :=
      settled.later i s requestId since served (isRequest.symm.trans polled)
    have quiet := sees.quiet (List.Subset.refl _) (permitted polls.keeps)
    rw [target] at quiet
    cases quiet
  have inside := (List.getElem?_eq_some_iff.mp served).1
  constructor
  · exact act.sound settled.sound
  · exact settled.ended.aside (act.aside settled.sound elsewhere)
  · intro j t before isServed
    rw [List.getElem?_set_ne (by omega)] at isServed
    exact settled.answered j t before isServed
  · rw [List.length_set]
    exact settled.grown
  · intro j t requestId after isServed polled
    by_cases same : i = j
    · subst same
      rw [List.getElem?_set_self inside] at isServed
      obtain rfl := Option.some.inj isServed
      obtain ⟨polls, sees⟩ :=
        settled.later i s requestId since served (act.request_eq ▸ polled)
      exact ⟨polls.act act, sees.act settled.sound settled.ended act⟩
    · rw [List.getElem?_set_ne same] at isServed
      exact settled.later j t requestId after isServed polled

theorem turn (read : OperationData.decode token = .ok data)
    (settled : p.Settled config instanceId token data count id state)
    (turn : Turn config instanceId token data p p') :
    p'.Settled config instanceId token data count id state := by
  cases turn with
  | aside aside => exact settled.aside aside
  | served step own =>
    cases step.move settled.sound with
    | still => exact settled
    | received _ => exact settled.receive read _
    | drifted drifts => exact settled.aside (drifts.aside settled.sound)
    | acted served waiting act =>
      refine settled.act served waiting act fun context x member => own context x ?_
      rw [List.drop_left]
      exact member

theorem turns (read : OperationData.decode token = .ok data)
    (settled : p.Settled config instanceId token data count id state)
    (turns : Turns config instanceId token data p p') :
    p'.Settled config instanceId token data count id state := by
  induction turns with
  | refl => exact settled
  | tail _ turn ih => exact ih.turn read turn

end Settled

/-- A poll that reports an end has found it. -/
theorem Attends.settled (attends : p.Attends config instanceId token data) {s : Serving}
    {requestId : String} (last : p.servings.getLast? = some s)
    (polled : s.request = .lastOperation requestId instanceId token) {operation : LastOperation}
    (answered : s.response? = some (.polled operation)) {outcome : TaskOutcome}
    (reported : operation.state = outcome.reported) (final : Final data outcome) :
    ∃ id state, s.Tells config data requestId instanceId id outcome operation ∧
      TaskState.outcome state = outcome ∧
        p.Settled config instanceId token data p.servings.length id state := by
  obtain ⟨polls, knows⟩ := attends.last s requestId last polled
  obtain ⟨task, found, shown, answer⟩ := polls.answers answered
  have isOutcome : task.state.outcome = outcome := by
    rw [answer, Broker.reportOf_state] at reported
    exact TaskOutcome.reported_injective reported
  refine ⟨task.id, task.state, ⟨⟨task, shown, rfl⟩, isOutcome ▸ answer⟩, isOutcome, ?_⟩
  constructor
  · exact attends.sound
  · exact ended_of_found attends.sound knows polls.obeyed found (isOutcome ▸ final)
  · intro i t before served
    by_contra waiting
    have isLast := attends.alone i t served (Option.not_isSome_iff_eq_none.mp waiting)
    have same : t = s := by
      rw [List.getLast?_eq_getElem?, ← isLast] at last
      exact Option.some.inj (served.symm.trans last)
    rw [same, answered] at waiting
    exact waiting rfl
  · exact Nat.le_refl _
  · intro i t _ since served
    have inside := (List.getElem?_eq_some_iff.mp served).1
    omega

/-- Once a poll has reported that an operation has failed, or that it has succeeded unless it is a
deletion in steps, every later poll with its token that is answered reports the same again, for the
same task, and no later poll submits anything. -/
theorem end_reported_for_good (read : OperationData.decode token = .ok data)
    (sound : start.backend.Sound)
    (before : Turns config instanceId token data { world := start } p)
    (after : Turns config instanceId token data p p') {s : Serving} {requestId : String}
    (last : p.servings.getLast? = some s)
    (polled : s.request = .lastOperation requestId instanceId token) {operation : LastOperation}
    (answered : s.response? = some (.polled operation))
    (final : operation.state = .failed ∨
      operation.state = .succeeded ∧ ¬(data.kind = .delete ∧ data.hasContext)) :
    ∃ id outcome, s.Tells config data requestId instanceId id outcome operation ∧
      ∀ t ∈ p'.servings.drop p.servings.length, ∀ laterId,
        t.request = .lastOperation laterId instanceId token →
          (∀ h ∈ t.past, h.call?.bind AnyCall.submits? = none) ∧
            ∀ later, t.response? = some (.polled later) →
              later.state = operation.state ∧
                t.Tells config data laterId instanceId id outcome later := by
  obtain ⟨outcome, reported, isFinal⟩ : ∃ outcome, operation.state = TaskOutcome.reported outcome ∧
      Final data outcome := by
    rcases final with failed | ⟨succeeded, other⟩
    · exact ⟨.failed, failed, .inl rfl⟩
    · exact ⟨.succeeded, succeeded, .inr ⟨rfl, other⟩⟩
  have attends := (Attends.begin sound).turns read before
  obtain ⟨id, state, tells, isOutcome, settled⟩ :=
    attends.settled last polled answered reported isFinal
  refine ⟨id, outcome, tells, fun t member laterId asks => ?_⟩
  obtain ⟨i, served⟩ := List.mem_iff_getElem?.mp member
  rw [List.getElem?_drop] at served
  obtain ⟨polls, sees⟩ :=
    (settled.turns read after).later _ t laterId (Nat.le_add_right ..) served asks
  refine ⟨fun h isPast => ?_, fun later answer => ?_⟩
  · exact sees.submits?_eq_none polls.obeyed isPast
  · obtain ⟨task, found, shown, is⟩ := polls.answers answer
    obtain ⟨isId, isState⟩ := sees.found found
    have same : task.state.outcome = outcome := by rw [isState, isOutcome]
    refine ⟨?_, ⟨task, shown, isId⟩, ?_⟩
    · rw [is, Broker.reportOf_state, same, reported]
    · rw [is, same, isId]

/-- The first errand before a deletion has failed. -/
def errandFailed : World :=
  { sampleWorld with
    backend :=
      { tasks := [{ id := 100, state := .error, contextId := "c" }]
        owners := fun _ => some "d-i"
        nextTaskId := 101 } }

/-- Two polls of a deletion whose first errand has failed. -/
theorem end_reported_for_good_errand : ∃ (s t : Serving) (id : TaskId) (outcome : TaskOutcome),
    s.Tells sampleConfig sampleData "r" "i" id outcome
      (Broker.reportOf ⟨"n", "i", "r", some .delete, some 100⟩ .delete .failed) ∧
    t.Tells sampleConfig sampleData "r" "i" id outcome
      (Broker.reportOf ⟨"n", "i", "r", some .delete, some 100⟩ .delete .failed) := by
  have turns {p : Process} (idle : p.servings.all (·.response?.isSome))
      (nothing : (takePoll p).submissions = []) :
      Turns sampleConfig "i" sampleData.encode sampleData p (takePoll p) := by
    refine .of_run (fun _ _ admitted => admitted.1) (run_takePoll idle) fun _ x member => ?_
    rw [nothing] at member
    cases member
  let once := takePoll { world := errandFailed }
  have sound : errandFailed.backend.Sound :=
    ⟨List.pairwise_singleton .., fun task member => by
      rw [List.mem_singleton.mp member]
      decide, fun _ _ => ⟨"d-i", rfl⟩⟩
  obtain ⟨id, outcome, tells, later⟩ :=
    end_reported_for_good decode_sampleData sound (turns (p := { world := errandFailed }) rfl rfl)
      (turns (p := once) rfl rfl) rfl rfl rfl (.inl rfl)
  have second := later _ (List.mem_of_getElem? (i := 0) rfl) "r" rfl
  exact ⟨_, _, id, outcome, tells, (second.2 _ rfl).2⟩

end Process

end ServiceBroker
