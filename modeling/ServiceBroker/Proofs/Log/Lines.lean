import ServiceBroker.Proofs.Broker.Requests
import ServiceBroker.Proofs.Broker.Transcript

/-! Lines for the operator. A program may log as it goes, and what it logs depends on what it was
answered. A procedure accounts for its failures if each of them comes with one line that says what
happened and to which request, and if it logs no other error. -/
namespace ServiceBroker

namespace Log.Event

/-- The value of a field of an event. -/
def field? (line : Event) (name : String) : Option FieldValue := line.fields.lookup name

/-- Puts an event that belongs to no request into one. -/
def into (span : Span) (line : Event) : Event := { line with span := line.span.or (some span) }

/-- An error, with what it takes to find the request it belongs to. -/
structure Correlated (about : Correlation) (line : Event) : Prop where
  level : line.level = .error
  requestId : line.field? "request_id" = some (.plain about.requestId)
  service : line.field? "service" = some (.plain about.service)
  instanceId : line.field? "instance_id" = some (.plain about.instanceId)
  operation : line.field? "operation" =
    some (.plain ((about.kind.map OperationKind.word).getD ""))

/-- The line about an error that a request ended with. The contract's own errors say less to the
caller than the line does, so their text may differ. -/
structure Reports (about : Correlation) (e : BrokerError) (line : Event) : Prop where
  correlated : line.Correlated about
  message : e.category ≠ .sentinel → line.message = e.operatorText

end Log.Event

namespace Program

variable {σ α β : Type} {demand : List Happening → List Log.Event → α → Prop}
  {past : List Happening} {told : List Log.Event}

/-- The events that a run of a program logs, in their order. -/
def lines (h : Handler σ) : Program α → σ → List Log.Event
  | done _, _ => []
  | call c span next, s => let (answer, s) := h.serve span c s; (next answer).lines h s
  | log event next, s => event :: next.lines h (h.note event s)
  | lock kind id next, s => let (taken, s) := h.acquire kind id s; (next taken).lines h s
  | unlock kind id next, s => next.lines h (h.release kind id s)
  | fresh next, s => let (id, s) := h.issue s; (next id).lines h s

/-- The errors among some events. -/
def errorsOf (events : List Log.Event) : List Log.Event := events.filter (·.level = .error)

/-- The errors that a run of a program logs. -/
def errors (h : Handler σ) (p : Program α) (s : σ) : List Log.Event := errorsOf (p.lines h s)

/-- Along every course of a program, after what it went through and the errors that it logged so far,
the value at the end is as demanded for all that it went through and all errors that it logged. -/
def Tells (demand : List Happening → List Log.Event → α → Prop) :
    List Happening → List Log.Event → Program α → Prop
  | past, told, done a => demand past told a
  | past, told, call c _ next =>
    ∀ answer, (next answer).Tells demand (past ++ [.answered c answer]) told
  | past, told, log event next => next.Tells demand past (told ++ errorsOf [event])
  | past, told, lock _ _ next => ∀ taken, (next taken).Tells demand past told
  | past, told, unlock _ _ next => next.Tells demand past told
  | past, told, fresh next => ∀ id, (next id).Tells demand (past ++ [.issued id]) told

/-- A run is one of the courses that a program can take. -/
theorem Tells.run {p : Program α} (tells : p.Tells demand past told) (h : Handler σ) (s : σ) :
    demand (past ++ p.transcript h s) (told ++ p.errors h s) (p.run h s).1 := by
  induction p generalizing past told s with
  | done a => simpa [transcript, errors, lines, errorsOf, Program.run, Tells] using tells
  | call c span next ih =>
    have onward := ih (h.serve span c s).1 (tells _) (h.serve span c s).2
    rwa [List.append_assoc] at onward
  | log event next ih =>
    have onward := ih tells (h.note event s)
    rwa [List.append_assoc, errors, errorsOf, errorsOf, ← List.filter_append] at onward
  | lock kind id next ih => exact ih _ (tells _) _
  | unlock kind id next ih => exact ih tells _
  | fresh next ih =>
    have onward := ih (h.issue s).1 (tells _) (h.issue s).2
    rwa [List.append_assoc] at onward

/-- A world that keeps what it is told in a log, and puts nothing else there. -/
structure Handler.Logs (h : Handler σ) (log : σ → List Log.Event) : Prop where
  serves : ∀ {k : CallKind} (span : Option Log.Span) (c : Call k) (s : σ),
    log (h.serve span c s).2 = log s
  notes : ∀ (event : Log.Event) (s : σ), log (h.note event s) = log s ++ [event]
  acquires : ∀ (kind : LockKind) (id : String) (s : σ), log (h.acquire kind id s).2 = log s
  releases : ∀ (kind : LockKind) (id : String) (s : σ), log (h.release kind id s) = log s
  issues : ∀ s : σ, log (h.issue s).2 = log s

/-- The lines of a run are those that it adds to the log. -/
theorem Handler.Logs.run {h : Handler σ} {log : σ → List Log.Event} (logs : h.Logs log)
    (p : Program α) (s : σ) : log (p.run h s).2 = log s ++ p.lines h s := by
  induction p generalizing s with
  | done a => exact (List.append_nil _).symm
  | call c span next ih => exact (ih _ _).trans (congrArg (· ++ _) (logs.serves span c s))
  | log event next ih =>
    refine (ih (h.note event s)).trans ?_
    rw [logs.notes, List.append_assoc, List.singleton_append]
    rfl
  | lock kind id next ih => exact (ih _ _).trans (congrArg (· ++ _) (logs.acquires kind id s))
  | unlock kind id next ih => exact (ih _).trans (congrArg (· ++ _) (logs.releases kind id s))
  | fresh next ih => exact (ih _ _).trans (congrArg (· ++ _) (logs.issues s))

/-- What a program that goes on with another one logs. -/
theorem tells_bind {demand : List Happening → List Log.Event → β → Prop} (p : Program α)
    (f : α → Program β) : (p.bind f).Tells demand past told ↔
      p.Tells (fun past told a => (f a).Tells demand past told) past told := by
  induction p generalizing past told with
  | done a => exact Iff.rfl
  | call c span next ih => exact forall_congr' fun answer => ih answer
  | log event next ih => exact ih
  | lock kind id next ih => exact forall_congr' fun taken => ih taken
  | unlock kind id next ih => exact ih
  | fresh next ih => exact forall_congr' fun id => ih id

theorem Tells.mono {demand' : List Happening → List Log.Event → α → Prop} {p : Program α}
    (tells : p.Tells demand past told)
    (weaker : ∀ past told a, demand past told a → demand' past told a) :
    p.Tells demand' past told := by
  induction p generalizing past told with
  | done a => exact weaker _ _ _ tells
  | call c span next ih => exact fun answer => ih answer (tells answer)
  | log event next ih => exact ih tells
  | lock kind id next ih => exact fun taken => ih taken (tells taken)
  | unlock kind id next ih => exact ih tells
  | fresh next ih => exact fun id => ih id (tells id)

/-- Within a request a program logs the same, but for the request that the lines are put into. -/
theorem Tells.within {p : Program α} {span : Log.Span} (told : List Log.Event)
    (tells : p.Tells (fun past told a => demand past (told.map (·.into span)) a) past told) :
    (p.within span).Tells demand past (told.map (·.into span)) := by
  induction p generalizing past told with
  | done a => exact tells
  | call c inner next ih => exact fun answer => ih answer _ (tells answer)
  | log event next ih =>
    have onward := ih _ tells
    have moved : errorsOf [event.into span] = (errorsOf [event]).map (·.into span) := by
      by_cases error : event.level = .error <;> simp [errorsOf, Log.Event.into, error]
    rwa [List.map_append, ← moved] at onward
  | lock kind id next ih => exact fun taken => ih taken _ (tells taken)
  | unlock kind id next ih => exact ih _ tells
  | fresh next ih => exact fun id => ih id _ (tells id)

end Program

namespace Log.Event

variable {about : Correlation} {e : BrokerError} {line : Event}

theorem Correlated.into (correlated : line.Correlated about) (span : Span) :
    (line.into span).Correlated about :=
  ⟨correlated.level, correlated.requestId, correlated.service, correlated.instanceId,
    correlated.operation⟩

theorem Reports.into (reports : line.Reports about e) (span : Span) :
    (line.into span).Reports about e := ⟨reports.correlated.into span, reports.message⟩

/-- A task is no part of what a line is correlated with. -/
theorem Correlated.of_task {taskId : Option Nat}
    (correlated : line.Correlated { about with taskId }) : line.Correlated about :=
  ⟨correlated.level, correlated.requestId, correlated.service, correlated.instanceId,
    correlated.operation⟩

theorem Reports.of_task {taskId : Option Nat} (reports : line.Reports { about with taskId } e) :
    line.Reports about e := ⟨reports.correlated.of_task, reports.message⟩

end Log.Event

namespace Refusal

variable (about : Correlation)

theorem correlated_event (r : Refusal) : r.event.Correlated r.about := ⟨rfl, rfl, rfl, rfl, rfl⟩

/-- The line of a refusal that tells the operator what its error does. -/
theorem reports_event (r : Refusal) (faithful : r.error.category ≠ .sentinel →
    r.text = r.error.operatorText) : r.event.Reports r.about r.error :=
  ⟨r.correlated_event, faithful⟩

theorem reports_sentinel (s : Sentinel) (text : String) :
    (sentinel about s text).event.Reports about (sentinel about s text).error :=
  (sentinel about s text).reports_event fun named => absurd rfl named

theorem reports_generic (text : String) :
    (generic about text).event.Reports about (generic about text).error :=
  (generic about text).reports_event fun _ => rfl

theorem reports_conflict (text : String) :
    (conflict about text).event.Reports about (conflict about text).error :=
  (conflict about text).reports_event fun _ => rfl

theorem reports_displayable (userText text : String) :
    (displayable about userText text).event.Reports about (displayable about userText text).error :=
  (displayable about userText text).reports_event fun _ => rfl

theorem reports_displayableSentinel (s : Sentinel) (text : String) :
    (displayableSentinel about s text).event.Reports about
      (displayableSentinel about s text).error :=
  (displayableSentinel about s text).reports_event fun _ => rfl

theorem reports_transient (text : String) :
    (transient about text).event.Reports about (transient about text).error :=
  (transient about text).reports_event fun _ => rfl

theorem reports_ofAdapter (subject : AdapterSubject) (e : AdapterError) :
    (ofAdapter about subject e).event.Reports about (ofAdapter about subject e).error := by
  cases e with
  | alreadyExists | notFound => cases subject <;> exact reports_sentinel ..
  | appGuidMissing | notImplemented => exact reports_sentinel ..
  | withMessage => exact reports_displayable ..
  | withoutMessage => exact reports_generic ..
  | deadlineExceeded => exact reports_transient ..

theorem reports_ofBackend (e : BackendError) :
    (ofBackend about e).event.Reports about (ofBackend about e).error := by
  cases e with
  | requestFailed | deadlineExceeded => exact reports_transient ..
  | deploymentNotFound => exact reports_sentinel ..
  | adapter e => exact reports_ofAdapter about .serviceInstance e
  | taskNotFound | unexpected => exact reports_generic ..

/-- A failure of the backend is treated the same inside an operation with several steps. -/
theorem reports_ofLifecycle (e : LifecycleError) :
    (ofLifecycle about e).event.Reports about (ofLifecycle about e).error := by
  cases e with
  | backend e => exact reports_ofBackend about e
  | noTasks | unexpectedTasks => exact reports_generic ..

end Refusal

namespace Procedure

variable {ε α β : Type} {about : Correlation} {body : Procedure BrokerError α}
  {next : α → Procedure BrokerError β} {past : List Happening}

/-- The books are right: a failure has its line, and success none. -/
def Booked (about : Correlation) (told : List Log.Event) : Except BrokerError α → Prop
  | .ok _ => told = []
  | .error e => ∃ line, told = [line] ∧ line.Reports about e

/-- Whatever it goes through, the procedure logs one line about its failure, and no error if it does
not fail. -/
def Accounts (about : Correlation) (body : Procedure BrokerError α) : Prop :=
  ∀ past, body.run.Tells (fun _ told result => Booked about told result) past []

theorem accounts_pure (a : α) : (pure a : Procedure BrokerError α).Accounts about := fun _ => rfl

theorem accounts_info (message : String) (fields : List (String × Log.FieldValue)) :
    (info message fields : Procedure BrokerError Unit).Accounts about := fun _ => rfl

theorem accounts_warn (message : String) (fields : List (String × Log.FieldValue)) :
    (warn message fields : Procedure BrokerError Unit).Accounts about := fun _ => rfl

theorem accounts_fresh : (fresh : Procedure BrokerError String).Accounts about := fun _ _ => rfl

theorem accounts_attempt {k : CallKind} (c : Call k) :
    (attempt c : Procedure BrokerError k.Answer).Accounts about := fun _ _ => rfl

theorem accounts_refuse {r : Refusal} (reports : r.event.Reports about r.error) :
    (refuse r : Procedure BrokerError α).Accounts about := fun _ => ⟨r.event, rfl, reports⟩

/-- A program whose value is taken as it is. -/
theorem tells_lift {demand : List Happening → List Log.Event → Except ε α → Prop}
    {told : List Log.Event} (p : Program α) :
    (ExceptT.lift p : Procedure ε α).run.Tells demand past told ↔
      p.Tells (fun past told a => demand past told (.ok a)) past told := by
  rw [ExceptT.run_lift, Program.map_eq_bind, Program.tells_bind]
  exact Iff.rfl

theorem Accounts.then (accounts : body.Accounts about) (rest : ∀ a, (next a).Accounts about) :
    (body >>= next).Accounts about := by
  intro past
  rw [run_bind_procedure, Program.tells_bind]
  refine (accounts past).mono fun later told result booked => ?_
  cases result with
  | error e => exact booked
  | ok a =>
    subst booked
    exact rest a later

/-- What comes before may be left out. -/
theorem Accounts.then_if {c : Prop} [Decidable c] {body : Procedure BrokerError Unit}
    {next : Unit → Procedure BrokerError β} (accounts : body.Accounts about)
    (rest : (next ()).Accounts about) :
    (if c then body >>= next else next ()).Accounts about := by
  split
  · exact accounts.then fun _ => rest
  · exact rest

/-- A call whose failure is made an error. -/
theorem accounts_ask {k : CallKind} (c : Call k)
    {onFailure : k.Failure → Procedure BrokerError k.Value}
    (fails : ∀ e, (onFailure e).Accounts about) : (ask c onFailure).Accounts about := by
  refine (accounts_attempt c).then fun answer => ?_
  cases answer with
  | ok value => exact accounts_pure value
  | error e => exact fails e

/-- Who finds an id locked gets a line as well. -/
theorem Accounts.holding (accounts : body.Accounts about) (kind : LockKind) (id : String) :
    (holding about kind id body).Accounts about := by
  intro past taken
  cases taken with
  | true => exact (Program.tells_bind _ _).mpr (accounts past)
  | false => exact accounts_refuse (Refusal.reports_conflict ..) past

theorem Accounts.within (accounts : body.Accounts about) (span : Log.Span) :
    (within span body).Accounts about := by
  intro past
  refine Program.Tells.within [] ((accounts past).mono fun _ told result booked => ?_)
  cases result with
  | ok a =>
    subst booked
    rfl
  | error e =>
    obtain ⟨line, rfl, reports⟩ := booked
    exact ⟨line.into span, rfl, reports.into span⟩

end Procedure

namespace Memory.World

/-- No collaborator in memory logs anything by itself. -/
theorem events_answer (w : World) (deadline : Option Millis) {k : CallKind} (c : Call k) :
    (w.answer deadline c).2.events = w.events := by
  cases c with
  | submitDeploy request =>
    simp only [answer, submitDeploy]
    split
    · rfl
    · split <;> rfl
  | _ => rfl

theorem logs_handler (deadline : Option Millis) : (handler deadline).Logs World.events where
  serves _ c w := events_answer _ deadline c
  notes _ _ := rfl
  acquires kind id w := by
    change (w.acquire kind id).2.events = w.events
    obtain ⟨locks, frame⟩ := w.acquire_frame kind id
    rw [frame]
  releases _ _ _ := rfl
  issues _ := rfl

/-- The journal of the world in memory grows by the lines of what is run in it. -/
theorem events_run (deadline : Option Millis) {α : Type} (p : Program α) (w : World) :
    (p.run (handler deadline) w).2.events = w.events ++ p.lines (handler deadline) w :=
  (logs_handler deadline).run p w

end Memory.World

end ServiceBroker
