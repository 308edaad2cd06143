import ServiceBroker.Proofs.Lifecycle.Deploy
import ServiceBroker.Proofs.Lifecycle.Returns
import ServiceBroker.Proofs.Memory.Reachable
import ServiceBroker.Proofs.Process.Segments

/-! Tokens can always be polled. Whatever requests follow one after the other, the token of each of
them can be read, its task is there, and under its context there are as many tasks as a poll can do
with; so a poll with it is answered with how the operation stands. -/
namespace ServiceBroker

open Memory Lifecycle

/-- Only requests that open an operation have tokens. -/
theorem Request.Yields.opened {config : BrokerConfig} {request : Request} {past : List Happening}
    {r : Response} (yields : request.Yields config past r) (token : r.token?.isSome) :
    request.polled? = none ∧ Opened config request past r := by
  unfold Request.Yields at yields
  split at yields
  · rename_i opens
    exact ⟨opens, yields⟩
  · obtain ⟨_, _, rfl⟩ | ⟨_, _, result, _, _, _, rfl⟩ := yields
    · cases token
    · cases result <;> cases token

/-- An operation with a context has steps, of which its first submission is the first one. A deploy
has two. -/
theorem Opens.stepwise {config : BrokerConfig} {past : List Happening} {request : Request}
    {data : OperationData} {first : AnyCall} (opening : Opens config past request data first)
    (proper : data.contextId ≠ "") :
    ∃ steps, Stepwise config.offering (config.deploymentName request.instanceId) data steps ∧
      steps[0]? = some first ∧ (data.kind.isDeploy → steps.length = 2) := by
  cases opening with
  | @deploy kind instanceId planId contextId plan taskId first asked found context _ _ =>
    rw [Steps.deployData_contextId] at proper
    cases runs : plan.postDeployErrand? with
    | none =>
      rw [runs] at context
      exact absurd context proper
    | some errand =>
      obtain ⟨_, isKind, after⟩ := deployData_spec config.offering kind taskId proper runs
      have deploys := Request.isDeploy_of_deploys? asked
      exact ⟨_, stepwise_deployOf config.offering _ first (isKind.symm ▸ deploys) after, rfl,
        fun _ => rfl⟩
  | force => exact absurd rfl proper
  | delete => exact absurd rfl proper
  | @chain instanceId contextId _ plan _ first rest asked _ _ errands _ =>
    refine ⟨_, stepwise_deletionSteps _ _ rfl ?_, ?_, fun deploys => ?_⟩
    · simp [errands]
    · simp [deletionSteps, errands, Request.instanceId_of_deletes? asked]
    · cases deploys

namespace Serving.Act

variable {s s' : Serving} {w w' : World} {made : List Submission}

/-- Ids of tasks only go up. -/
theorem next_le (act : s.Act w s' w' made) : w.backend.nextTaskId ≤ w'.backend.nextTaskId := by
  cases act with
  | quiet backend => exact Nat.le_of_eq (by rw [backend])
  | took => exact Nat.le_refl _
  | asked _ _ effect => exact effect.next_le

/-- A submission gets the next id. -/
theorem taskId_eq (act : s.Act w s' w' made) {x : Submission} (member : x ∈ made) :
    x.taskId = w.backend.nextTaskId := by
  cases act with
  | quiet => cases member
  | took => cases member
  | asked _ _ effect =>
    cases effect with
    | none => cases member
    | created => rw [List.mem_singleton.mp member]

end Serving.Act

namespace Process

/-- A request was answered with the token. -/
def HandedOut (p : Process) (token : String) : Prop :=
  ∃ i r, p.response? i = some r ∧ r.token? = some token

/-- A request is taken in only after all others have been answered, and a poll brings a token that
was handed out before, for whichever instance. -/
def orderly (p : Process) (request : Request) : Prop :=
  p.Idle ∧ ∀ token, request.polled? = some token → p.HandedOut token

/-- The context is none, or it was issued. -/
def Used (start : World) (p : Process) (contextId : String) : Prop :=
  contextId = "" ∨ ∃ n, start.issued ≤ n ∧ n < p.world.issued ∧ start.ids n = contextId

/-- What a run of one request after the other keeps. -/
structure Traced (config : BrokerConfig) (start : World) (p : Process) : Prop where
  faithful : p.Faithful config start
  /-- No poll brings a token that was not handed out. -/
  known : ∀ s ∈ p.servings, ∀ token, s.request.polled? = some token → p.HandedOut token
  unused : ∀ n, p.world.issued ≤ n → p.world.backend.under (start.ids n) = []
  next : firstSubmittedId ≤ p.world.backend.nextTaskId
  submitted : ∀ x ∈ p.submissions, firstSubmittedId ≤ x.taskId

variable {config : BrokerConfig} {admits : Process → Request → Prop} {start : World}
  {p p' q : Process} {deployment : String} {data : OperationData} {steps : List AnyCall}

theorem HandedOut.step {token : String} (handed : p.HandedOut token)
    (step : Step config admits p p') : p'.HandedOut token := by
  obtain ⟨i, r, answered, yields⟩ := handed
  exact ⟨i, r, step.response?_eq answered, yields⟩

/-- What is still to be issued is not used. -/
theorem Used.ne_of_le (fresh : start.Fresh) {contextId : String} (used : p.Used start contextId)
    {n : Nat} (later : p.world.issued ≤ n) : contextId ≠ start.ids n := by
  rintro rfl
  obtain empty | ⟨m, _, before, same⟩ := used
  · exact fresh.proper n empty
  · have := fresh.distinct m n same
    omega

/-- An id that a request took is one of the supply. -/
theorem Faithful.issued_spec (faithful : p.Faithful config start) {s : Serving}
    (member : s ∈ p.servings) {id : String} (issued : .issued id ∈ s.past) :
    ∃ n, start.issued ≤ n ∧ n < p.world.issued ∧ start.ids n = id := by
  obtain ⟨n, since, before, same⟩ := (faithful.holds s member _ issued).issued _ rfl
  rw [faithful.ids] at same
  exact ⟨n, since, before, same⟩

/-- A token is that of an operation, whose context is used. -/
theorem Faithful.used_of_handedOut (faithful : p.Faithful config start) {token : String}
    (handed : p.HandedOut token) : ∃ data : OperationData, token = data.encode ∧
      p.Used start data.contextId := by
  obtain ⟨i, r, answered, yields⟩ := handed
  obtain ⟨s, served, finished⟩ := Option.bind_eq_some_iff.mp answered
  have member := List.mem_of_getElem? served
  obtain ⟨_, opened⟩ := (faithful.yields member finished).opened (by rw [yields]; rfl)
  obtain ⟨data, first, made, rfl, opening, _⟩ := opened token yields
  exact ⟨data, rfl, opening.context_eq.imp_right (faithful.issued_spec member)⟩

/-- Nobody submits anything under a context that is not used. -/
theorem Traced.used_of_permitted (traced : p.Traced config start) {s : Serving}
    (member : s ∈ p.servings) {c : AnyCall} (permitted : s.request.Permits config s.past c)
    {target contextId : String} (submits : c.submits? = some (target, contextId)) :
    p.Used start contextId := by
  unfold Request.Permits at permitted
  split at permitted
  · obtain ⟨_, context, _⟩ := permitted target contextId submits
    exact context.imp_right (traced.faithful.issued_spec member)
  · rename_i token polled
    obtain ⟨d, read, rule⟩ := permitted (by simp [submits])
    obtain ⟨_, tasks, _, due⟩ := rule (by simp [submits])
    have own := submits_of_stepAfter? (nextStep?_eq_some.mp due).2
    obtain ⟨_, rfl⟩ := Prod.mk.inj (Option.some.inj (submits.symm.trans own))
    obtain ⟨data, rfl, used⟩ :=
      traced.faithful.used_of_handedOut (traced.known s member token polled)
    rwa [OperationData.decode_encode_ok read]

theorem Traced.step (fresh : start.Fresh) (traced : p.Traced config start)
    (step : Step config orderly p p') : p'.Traced config start := by
  have handed {token : String} (before : p.HandedOut token) : p'.HandedOut token := before.step step
  have faithful := traced.faithful.step fresh.distinct step
  cases step.move traced.faithful.sound with
  | still => exact traced
  | @received request admitted =>
    refine ⟨faithful, fun s member token polled => handed ?_, traced.unused, traced.next,
      traced.submitted⟩
    rcases List.mem_append.mp member with old | isNew
    · exact traced.known s old token polled
    · rw [List.mem_singleton.mp isNew] at polled
      exact admitted.2 token polled
  | @drifted world drifts =>
    refine ⟨faithful, traced.known, fun n later => ?_, ?_, traced.submitted⟩
    · have moved := drifts.tasks.under (start.ids n)
      rw [traced.unused n (drifts.issued ▸ later)] at moved
      exact List.forall₂_nil_left_iff.mp moved
    · exact drifts.next ▸ traced.next
  | @acted i s s' world made served waiting act =>
    have isServed := List.mem_of_getElem? served
    refine ⟨faithful, fun t member token polled => handed ?_, fun n later => ?_,
      Nat.le_trans traced.next act.next_le, fun x member => ?_⟩
    · rcases List.mem_or_eq_of_mem_set member with old | rfl
      · exact traced.known t old token polled
      · exact traced.known s isServed token (act.request_eq ▸ polled)
    · have later : p.world.issued ≤ n := Nat.le_trans act.supply.2 later
      rcases act.under (start.ids n) with ⟨_, same⟩ | ⟨x, _, _, isMade, isUnder, _⟩
      · exact same.trans (traced.unused n later)
      · obtain ⟨target, submits⟩ := Submission.isUnder_iff.mp isUnder
        obtain ⟨_, _, _, permitted⟩ := act.made_spec isMade
        have rule := permitted (traced.faithful.keeps s isServed)
        exact absurd rfl ((traced.used_of_permitted isServed rule submits).ne_of_le fresh later)
    · rcases List.mem_append.mp member with old | isNew
      · exact traced.submitted x old
      · exact act.taskId_eq isNew ▸ traced.next

/-- A process that has served nobody yet. -/
theorem traced_begin (config : BrokerConfig) (fresh : start.Fresh)
    (reachable : start.backend.Reachable) : ({ world := start } : Process).Traced config start where
  faithful := faithful_begin config fresh.sound
  known _ impossible := nomatch impossible
  unused n later := List.filter_eq_nil_iff.mpr fun e held => by
    simpa using fresh.unused n later e.task (Backend.mem_owned.mp held).1
  next := reachable.counting.since
  submitted _ impossible := nomatch impossible

theorem Traced.run (fresh : start.Fresh) (traced : p.Traced config start)
    (run : Run config orderly p p') : p'.Traced config start := by
  induction run with
  | refl => exact traced
  | tail _ step ih => exact ih.step fresh step

/-- For those that are served from now on, the world is a fresh one. -/
theorem Traced.fresh (fresh : start.Fresh) (traced : p.Traced config start) : p.world.Fresh where
  sound := traced.faithful.sound
  distinct := traced.faithful.ids ▸ fresh.distinct
  proper := traced.faithful.ids ▸ fresh.proper
  unused n later task held same := by
    rw [traced.faithful.ids] at same
    obtain ⟨e, listed, rfl⟩ := traced.faithful.sound.exists_mem_owned held
    have isUnder : e ∈ p.world.backend.under (start.ids n) :=
      List.mem_filter.mpr ⟨listed, beq_iff_eq.mpr same⟩
    rw [traced.unused n later] at isUnder
    cases isUnder

/-- A token was handed out before a run or in it. -/
theorem HandedOut.of_after {token : String}
    (handed : (p.after q.servings q.submissions).HandedOut token) :
    q.HandedOut token ∨ p.HandedOut token := by
  obtain ⟨i, r, answered, isToken⟩ := handed
  obtain ⟨s, served, finished⟩ := Option.bind_eq_some_iff.mp answered
  rcases Nat.lt_or_ge i q.servings.length with earlier | later
  · rw [after, List.getElem?_append_left earlier] at served
    exact .inl ⟨i, r, (response?_of_served served).trans finished, isToken⟩
  · obtain ⟨j, rfl⟩ := Nat.exists_eq_add_of_le later
    rw [getElem?_after] at served
    exact .inr ⟨j, r, (response?_of_served served).trans finished, isToken⟩

/-- A token from before an operation was opened is not for its context. -/
theorem Tracks.genuine_of_earlier (fresh : start.Fresh) (traced : q.Traced config start)
    (tracks : p.Tracks config q.world deployment data steps) {token : String}
    (handed : q.HandedOut token) {request : Request} (polled : request.polled? = some token) :
    request.Genuine data := by
  obtain ⟨d, rfl, used⟩ := traced.faithful.used_of_handedOut handed
  intro token d' isPolled read same _
  obtain rfl := Option.some.inj (isPolled.symm.trans polled)
  obtain rfl := OperationData.decode_encode_ok read
  obtain ⟨holder, isFirst, issued, _⟩ := tracks.holder
  obtain ⟨n, since, _, isContext⟩ :=
    tracks.faithful.issued_spec (List.mem_of_getElem? isFirst) issued
  rw [traced.faithful.ids] at isContext
  exact absurd (same.trans isContext.symm) (used.ne_of_le fresh since)

/-- A token that was handed out since then is that of the operation or has a context of its own. -/
theorem Tracks.genuine_of_handedOut (tracks : p.Tracks config start deployment data steps)
    {r : Response} (answered : p.response? 0 = some r) (yields : r.token? = some data.encode)
    {token : String} (handed : p.HandedOut token) {request : Request}
    (polled : request.polled? = some token) : request.Genuine data := by
  obtain ⟨j, r', answered', isToken⟩ := handed
  obtain ⟨s, served, finished⟩ := Option.bind_eq_some_iff.mp answered'
  cases j with
  | zero =>
    obtain rfl := Option.some.inj (answered.symm.trans answered')
    exact Request.genuine_of_token (polled.trans (isToken.symm.trans yields))
  | succ j =>
    have member := List.mem_of_getElem? served
    obtain ⟨opens, _⟩ := (tracks.faithful.yields member finished).opened (by rw [isToken]; rfl)
    exact tracks.genuine_of_yielded served (Nat.succ_pos j) opens finished isToken polled

/-- So no poll brings other data under the context of an operation. -/
theorem Tracks.sequential_step (fresh : start.Fresh) (traced : q.Traced config start)
    (tracks : p.Tracks config q.world deployment data steps) {r : Response}
    (answered : p.response? 0 = some r) (yields : r.token? = some data.encode)
    (step : Step config (fun p request => orderly (p.after q.servings q.submissions) request)
      p p') : Step config (sequential data) p p' := by
  cases step with
  | advance i delivery => exact .advance p i delivery
  | drift drifts => exact .drift drifts
  | @receive request admitted =>
    refine .receive ⟨fun s member => admitted.1 s (List.mem_append_right _ member), ?_⟩
    cases polled : request.polled? with
    | none => exact Request.genuine_of_none polled
    | some token =>
      rcases (admitted.2 token polled).of_after with before | since
      · exact tracks.genuine_of_earlier fresh traced before polled
      · exact tracks.genuine_of_handedOut answered yields since polled

/-- So the operation stays under control, and its steps go on in their order. -/
theorem Tracks.orderly_run (fresh : start.Fresh) (traced : q.Traced config start)
    (tracks : p.Tracks config q.world deployment data steps) (inTurn : p.InTurn deployment data)
    {r : Response} (answered : p.response? 0 = some r) (yields : r.token? = some data.encode)
    (run : Run config (fun p request => orderly (p.after q.servings q.submissions) request) p p') :
    p'.Tracks config q.world deployment data steps ∧ p'.InTurn deployment data := by
  have alone : Run config (sequential data) p p' ∧
      p'.Tracks config q.world deployment data steps ∧ p'.InTurn deployment data := by
    induction run with
    | refl => exact ⟨.refl, tracks, inTurn⟩
    | tail _ step ih =>
      obtain ⟨run, tracks', _⟩ := ih
      have onward := run.tail
        (tracks'.sequential_step fresh traced (run.response?_eq answered) yields step)
      exact ⟨onward, InTurn.run (traced.fresh fresh).distinct tracks inTurn onward⟩
  exact alone.2

theorem hasTask_of_recorded {b : Backend} {x : Submission} (recorded : ∃ e ∈ b.owned, x.Of e) :
    b.HasTask x.taskId := by
  obtain ⟨e, held, isOf⟩ := recorded
  exact ⟨e.task, (Backend.mem_owned.mp held).1, isOf.1⟩

/-- An operation under control has the tasks that a poll needs. -/
theorem InTurn.ready (stepwise : Stepwise config.offering deployment data steps)
    (tracks : p.Tracks config start deployment data steps) (inTurn : p.InTurn deployment data)
    (few : data.kind.isDeploy → steps.length = 2) :
    Ready p.world.backend deployment data := by
  obtain ⟨x, isFirst, _, same⟩ := tracks.first
  have count := tracks.ledger.length_eq
  have atMost := (inTurn.calls_prefix stepwise tracks).length_le
  constructor
  · have member := (List.mem_filter.mp (List.mem_of_getElem? isFirst)).1
    exact same ▸ hasTask_of_recorded (tracks.faithful.recorded x member)
  · intro _ empty
    have inside := (List.getElem?_eq_some_iff.mp isFirst).1
    rw [tracks.tasksOf_eq, List.map_eq_nil_iff] at empty
    rw [empty, List.length_nil] at count
    omega
  · intro _ deploys
    have two := few deploys
    rw [tracks.tasksOf_eq, List.length_map]
    rw [List.length_map] at atMost
    omega

/-- A token that was handed out is that of an operation whose tasks are what a poll needs. -/
theorem ready_of_token (fresh : start.Fresh) (reachable : start.backend.Reachable)
    (run : Run config orderly { world := start } p) {i : Nat} {s : Serving}
    (served : p.servings[i]? = some s) {r : Response} (answered : s.response? = some r)
    {token : String} (yields : r.token? = some token) :
    ∃ data, token = data.encode ∧ (∃ x ∈ p.submissions, x.taskId = data.taskId) ∧
      Ready p.world.backend (config.deploymentName s.request.instanceId) data := by
  have begins := traced_begin config fresh reachable
  have member := List.mem_of_getElem? served
  obtain ⟨opens, _⟩ :=
    ((begins.run fresh run).faithful.yields member answered).opened (by rw [yields]; rfl)
  -- From where the request comes in, those before it have no part in the run.
  obtain ⟨q, toThere, count, admitted, fromThere⟩ := run.received served (Nat.zero_le i)
  have traced := begins.run fresh toThere
  have anew := traced.fresh fresh
  rw [receive_eq_after] at fromThere
  obtain ⟨p', rfl, behind⟩ := fromThere.of_after admitted.1
  have isFirst : p'.servings[0]? = some s := by
    rw [← served, ← count]
    exact (getElem?_after 0).symm
  -- Until it is answered it is served alone; what follows goes on behind its answer.
  have begun : 0 < (alone config q.world s.request).servings.length := Nat.zero_lt_one
  obtain ⟨p₁, lonely, answered₁, onward⟩ := behind.until_answered
    (fun _ _ admitted s isServed => admitted.1 s (List.mem_append_right _ isServed)) begun
    ((response?_of_served isFirst).trans answered)
  obtain ⟨s₁, x, data, lone, finished, made, _, same, rfl, opening⟩ :=
    opened anew opens lonely answered₁ yields
  have isMade : x ∈ p'.submissions :=
    onward.submissions_prefix.subset (made ▸ List.mem_singleton_self x)
  refine ⟨data, rfl, ⟨x, List.mem_append_right _ isMade, same⟩, ?_⟩
  change Ready p'.world.backend _ data
  by_cases single : data.contextId = ""
  · have began := (faithful_alone config anew.sound s.request).run anew.distinct lonely
    have recorded := (began.run anew.distinct onward).recorded x isMade
    have noContext : data.hasContext = false := by simp [OperationData.hasContext, single]
    exact ⟨same ▸ hasTask_of_recorded recorded, by simp [noContext], by simp [noContext]⟩
  · obtain ⟨steps, stepwise, isStep, few⟩ := opening.stepwise single
    have issued := opening.context_eq.resolve_left single
    obtain ⟨tracks, inTurn⟩ :=
      tracks_of_opened anew lonely lone finished made same issued opening.submits_eq isStep
    obtain ⟨tracks', inTurn'⟩ := tracks.orderly_run fresh traced inTurn answered₁ yields onward
    exact inTurn'.ready stepwise tracks' few

/-- Tokens can always be polled. Whatever requests follow one after the other, polls among them with
tokens that were handed out, however their calls fare and however the backend gets on: where no call
is told to fail, a poll with the token of a request, for its instance, is answered with how the
operation stands. The backend numbers its tasks with machine words. -/
theorem tokens_stay_pollable (fresh : start.Fresh) (reachable : start.backend.Reachable)
    (run : Run config orderly { world := start } p) {i : Nat} {s : Serving}
    (served : p.servings[i]? = some s) {r : Response} (answered : s.response? = some r)
    {token : String} (yields : r.token? = some token)
    (words : p.world.backend.nextTaskId ≤ Json.wordBound)
    (willing : ∀ kind, p.world.backend.failures kind = none)
    (requestId : String) (deadline : Option Millis) :
    ∃ operation, (((Request.lastOperation requestId s.request.instanceId token).program config).run
      (World.handler deadline) p.world).1 = .polled operation := by
  have traced := (traced_begin config fresh reachable).run fresh run
  obtain ⟨data, rfl, ⟨x, made, same⟩, ready⟩ :=
    ready_of_token fresh reachable run served answered yields
  have read : OperationData.decode data.encode = .ok data := by
    obtain ⟨e, held, isOf⟩ := traced.faithful.recorded x made
    have below := traced.faithful.sound.below e.task (Backend.mem_owned.mp held).1
    have above := traced.submitted x made
    rw [isOf.1, same] at below
    rw [same] at above
    have fits : data.taskId < Json.wordBound := Nat.lt_of_lt_of_le below words
    have positive : 0 < data.taskId := Nat.lt_of_lt_of_le (by decide) above
    have named : ¬ (data.taskId == 0) := by simpa using Nat.ne_of_gt positive
    rw [OperationData.decode_encode, if_pos fits, if_neg named]
  have calm : p.world.backend.Calm := ⟨traced.faithful.sound, willing⟩
  exact Request.polled_of_ready config requestId _ deadline calm read ready

/-- A deletion is asked for, its first errand is done, and a poll has submitted the second one. -/
theorem run_orderly_sample : Run sampleConfig orderly { world := sampleWorld } deletionPolled := by
  have opens : orderly { world := sampleWorld } sampleDeletion :=
    ⟨fun _ impossible => (nomatch impossible), fun _ impossible => nomatch impossible⟩
  let later : Process := { deletionBegun with world := errandDone }
  have handed : later.HandedOut sampleData.encode :=
    ⟨0, .accepted ⟨true, sampleData.encode⟩, rfl, rfl⟩
  have idle : later.Idle := List.all_eq_true.mp rfl
  have polls : orderly later samplePoll :=
    ⟨idle, fun _ isToken => Option.some.inj isToken ▸ handed⟩
  have polled :
      Run sampleConfig orderly (later.receive sampleConfig samplePoll) (takePoll later) := by
    rw [receive_samplePoll]
    exact run_finish ..
  calc Run sampleConfig orderly { world := sampleWorld } _ := .single (.receive opens)
    Run sampleConfig orderly _ deletionBegun := run_finish ..
    Run sampleConfig orderly _ later := .single (.drift drifts_errandDone)
    Run sampleConfig orderly _ _ := .single (.receive polls)
    Run sampleConfig orderly _ deletionPolled := polled

theorem tokens_stay_pollable_sample :
    ∃ operation, (((Request.lastOperation "again" "i" sampleData.encode).program sampleConfig).run
      (World.handler none) deletionPolled.world).1 = .polled operation := by
  have reachable : sampleWorld.backend.Reachable := .addDeployment .empty "d-i" ""
  exact tokens_stay_pollable fresh_sampleWorld reachable run_orderly_sample (i := 0) rfl rfl rfl
    (by decide) (fun _ => rfl) "again" none

end Process

end ServiceBroker
