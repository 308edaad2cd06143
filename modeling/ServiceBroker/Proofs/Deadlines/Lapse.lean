import ServiceBroker.Proofs.Broker.Requests
import ServiceBroker.Proofs.Broker.Transcript

/-! Missed deadlines. A program may be cut off at any of its calls, and what it makes of that is what
it does when the call fails for that reason. Most procedures give up at once with an error that says
to try again later; a few can do without what they asked for and go on. -/
namespace ServiceBroker

/-- A call that succeeded, or an id that was taken. -/
def Happening.Succeeded : Happening → Prop
  | answered _ answer => ∃ value, answer = .ok value
  | issued _ => True

namespace Program

variable {σ α β : Type} {p : Program α} {f : α → Program β}

/-- Wherever all calls so far succeeded and the deadline cuts off the next one, what is left of the
program is as claimed. -/
inductive OnLapse {α : Type} (claim : CallKind → Program α → Prop) : Program α → Prop where
  | done (a : α) : OnLapse claim (done a)
  | call {k : CallKind} (c : Call k) (span : Option Log.Span) {next : k.Answer → Program α}
      (cut : claim k (next (.error k.expired)))
      (onward : ∀ value, OnLapse claim (next (.ok value))) : OnLapse claim (call c span next)
  | log (event : Log.Event) {next : Program α} (onward : OnLapse claim next) :
      OnLapse claim (log event next)
  | lock (kind : LockKind) (id : String) {next : Bool → Program α}
      (onward : ∀ taken, OnLapse claim (next taken)) : OnLapse claim (lock kind id next)
  | unlock (kind : LockKind) (id : String) {next : Program α} (onward : OnLapse claim next) :
      OnLapse claim (unlock kind id next)
  | fresh {next : String → Program α} (onward : ∀ id, OnLapse claim (next id)) :
      OnLapse claim (fresh next)

/-- A program that, if all its calls succeed, ends as demanded. -/
inductive Reliable {α : Type} (ends : α → Prop) : Program α → Prop where
  | done {a : α} (ended : ends a) : Reliable ends (done a)
  | call {k : CallKind} (c : Call k) (span : Option Log.Span) {next : k.Answer → Program α}
      (onward : ∀ value, Reliable ends (next (.ok value))) : Reliable ends (call c span next)
  | log (event : Log.Event) {next : Program α} (onward : Reliable ends next) :
      Reliable ends (log event next)
  | lock (kind : LockKind) (id : String) {next : Bool → Program α}
      (onward : ∀ taken, Reliable ends (next taken)) : Reliable ends (lock kind id next)
  | unlock (kind : LockKind) (id : String) {next : Program α} (onward : Reliable ends next) :
      Reliable ends (unlock kind id next)
  | fresh {next : String → Program α} (onward : ∀ id, Reliable ends (next id)) :
      Reliable ends (fresh next)

/-- A program that makes no more calls and ends as demanded. -/
inductive Quits {α : Type} (ends : α → Prop) : Program α → Prop where
  | done {a : α} (ended : ends a) : Quits ends (done a)
  | log (event : Log.Event) {next : Program α} (onward : Quits ends next) :
      Quits ends (log event next)
  | unlock (kind : LockKind) (id : String) {next : Program α} (onward : Quits ends next) :
      Quits ends (unlock kind id next)

/-! ### What a lapse leads to -/

/-- A run whose first failure is a call that was cut off goes on with what was left of the program. -/
theorem OnLapse.run {claim : CallKind → Program α → Prop} (onLapse : p.OnLapse claim)
    {h : Handler σ} {s : σ} {before after : List Happening} {k : CallKind} {c : Call k}
    (course : p.transcript h s = before ++ .answered c (.error k.expired) :: after)
    (earlier : ∀ x ∈ before, x.Succeeded) :
    ∃ q s', claim k q ∧ (p.run h s).1 = (q.run h s').1 ∧ q.transcript h s' = after := by
  induction onLapse generalizing s before with
  | done a => simp [transcript] at course
  | @call k' c' span next cut onward ih =>
    cases before with
    | nil =>
      -- The call that was cut off is this one.
      obtain ⟨asked, rest⟩ := List.cons.inj course
      injection asked with kinds calls answers
      subst kinds
      have answered : (h.serve span c' s).1 = .error k'.expired := eq_of_heq answers
      refine ⟨_, (h.serve span c' s).2, cut, ?_, ?_⟩
      · rw [← answered]
        rfl
      · rw [← answered]
        exact rest
    | cons first before =>
      obtain ⟨asked, rest⟩ := List.cons.inj course
      obtain ⟨value, answered⟩ : (Happening.answered c' (h.serve span c' s).1).Succeeded :=
        asked ▸ earlier first List.mem_cons_self
      rw [answered] at rest
      have onward := ih value rest fun x member => earlier x (List.mem_cons_of_mem _ member)
      rwa [← answered] at onward
  | log event onward ih => exact ih course earlier
  | lock kind id onward ih => exact ih _ course earlier
  | unlock kind id onward ih => exact ih course earlier
  | fresh onward ih =>
    cases before with
    | nil => cases (List.cons.inj course).1
    | cons first before =>
      exact ih _ (List.cons.inj course).2 fun x member => earlier x (List.mem_cons_of_mem _ member)

theorem Reliable.run {ends : α → Prop} (reliable : p.Reliable ends) {h : Handler σ} {s : σ}
    (succeeded : ∀ x ∈ p.transcript h s, x.Succeeded) : ends (p.run h s).1 := by
  induction reliable generalizing s with
  | done ended => exact ended
  | @call k c span next onward ih =>
    obtain ⟨value, answered⟩ := succeeded _ List.mem_cons_self
    have rest := fun x member => succeeded x (List.mem_cons_of_mem _ member)
    rw [answered] at rest
    have ended := ih value rest
    rwa [← answered] at ended
  | log event onward ih => exact ih succeeded
  | lock kind id onward ih => exact ih _ succeeded
  | unlock kind id onward ih => exact ih succeeded
  | fresh onward ih => exact ih _ fun x member => succeeded x (List.mem_cons_of_mem _ member)

theorem Quits.run {ends : α → Prop} (quits : p.Quits ends) (h : Handler σ) (s : σ) :
    ends (p.run h s).1 := by
  induction quits generalizing s with
  | done ended => exact ended
  | log event _ ih => exact ih _
  | unlock kind id _ ih => exact ih _

/-! ### Programs that go on -/

theorem OnLapse.mono {claim claim' : CallKind → Program α → Prop} (onLapse : p.OnLapse claim)
    (weaker : ∀ k q, claim k q → claim' k q) : p.OnLapse claim' := by
  induction onLapse with
  | done a => exact .done a
  | call c span cut _ ih => exact .call c span (weaker _ _ cut) ih
  | log event _ ih => exact .log event ih
  | lock kind id _ ih => exact .lock kind id ih
  | unlock kind id _ ih => exact .unlock kind id ih
  | fresh _ ih => exact .fresh ih

theorem OnLapse.bind {claim : CallKind → Program β → Prop}
    (onLapse : p.OnLapse fun k q => claim k (q.bind f)) (onward : ∀ a, (f a).OnLapse claim) :
    (p.bind f).OnLapse claim := by
  induction onLapse with
  | done a => exact onward a
  | call c span cut _ ih => exact .call c span cut ih
  | log event _ ih => exact .log event ih
  | lock kind id _ ih => exact .lock kind id ih
  | unlock kind id _ ih => exact .unlock kind id ih
  | fresh _ ih => exact .fresh ih

theorem OnLapse.within {claim : CallKind → Program α → Prop} {span : Log.Span}
    (onLapse : p.OnLapse fun k q => claim k (q.within span)) : (p.within span).OnLapse claim := by
  induction onLapse with
  | done a => exact .done a
  | call c inner cut _ ih => exact .call c _ cut ih
  | log event _ ih => exact .log _ ih
  | lock kind id _ ih => exact .lock kind id ih
  | unlock kind id _ ih => exact .unlock kind id ih
  | fresh _ ih => exact .fresh ih

variable {ends : α → Prop} {ends' : β → Prop}

theorem Reliable.bind (reliable : p.Reliable ends) (onward : ∀ a, ends a → (f a).Reliable ends') :
    (p.bind f).Reliable ends' := by
  induction reliable with
  | done ended => exact onward _ ended
  | call c span _ ih => exact .call c span ih
  | log event _ ih => exact .log event ih
  | lock kind id _ ih => exact .lock kind id ih
  | unlock kind id _ ih => exact .unlock kind id ih
  | fresh _ ih => exact .fresh ih

theorem Reliable.within (reliable : p.Reliable ends) (span : Log.Span) :
    (p.within span).Reliable ends := by
  induction reliable with
  | done ended => exact .done ended
  | call c inner _ ih => exact .call c _ ih
  | log event _ ih => exact .log _ ih
  | lock kind id _ ih => exact .lock kind id ih
  | unlock kind id _ ih => exact .unlock kind id ih
  | fresh _ ih => exact .fresh ih

theorem Quits.bind (quits : p.Quits ends) (onward : ∀ a, ends a → (f a).Quits ends') :
    (p.bind f).Quits ends' := by
  induction quits with
  | done ended => exact onward _ ended
  | log event _ ih => exact .log event ih
  | unlock kind id _ ih => exact .unlock kind id ih

theorem Quits.mono {ends' : α → Prop} (quits : p.Quits ends) (weaker : ∀ a, ends a → ends' a) :
    p.Quits ends' := by
  induction quits with
  | done ended => exact .done (weaker _ ended)
  | log event _ ih => exact .log event ih
  | unlock kind id _ ih => exact .unlock kind id ih

theorem Quits.within (quits : p.Quits ends) (span : Log.Span) : (p.within span).Quits ends := by
  induction quits with
  | done ended => exact .done ended
  | log event _ ih => exact .log _ ih
  | unlock kind id _ ih => exact .unlock kind id ih

/-- Where no call is made, none fails. -/
theorem Quits.reliable (quits : p.Quits ends) : p.Reliable ends := by
  induction quits with
  | done ended => exact .done ended
  | log event _ ih => exact .log event ih
  | unlock kind id _ ih => exact .unlock kind id ih

end Program

/-- How a request ends for its client. -/
inductive Verdict where
  | fine
  | retryable
  | final
  deriving DecidableEq

def Verdict.ofError (e : BrokerError) : Verdict := if e.isRetryable then .retryable else .final

def Response.verdict : Response → Verdict
  | .refused e => .ofError e
  | _ => .fine

namespace Response

variable {r : Response}

theorem verdict_eq_retryable : r.verdict = .retryable ↔ ∃ e, r = .refused e ∧ e.isRetryable := by
  cases r with
  | refused e => by_cases retryable : e.isRetryable <;> simp [verdict, Verdict.ofError, retryable]
  | _ => simp [verdict]

theorem verdict_eq_fine : r.verdict = .fine ↔ ∀ e, r ≠ .refused e := by
  cases r with
  | refused e => by_cases retryable : e.isRetryable <;> simp [verdict, Verdict.ofError, retryable]
  | _ => simp [verdict]

end Response

/-- What may come of a missed deadline: an error that is worth another try, or nothing, if the call
is one to do without. Where the store of secrets is asked, a call may slip, and then the error is not
worth another try. -/
inductive Program.Bears {α : Type} (verdict : α → Verdict) (optional slips : CallKind → Prop)
    (k : CallKind) (q : Program α) : Prop where
  | told (asked : k.collaborator ≠ .secrets) (quits : q.Quits (verdict · = .retryable))
  | borne (spare : optional k) (reliable : q.Reliable (verdict · = .fine))
  | lost (slip : slips k) (quits : q.Quits (verdict · = .final))

namespace Procedure

variable {ε α β : Type} {body : Procedure ε α} {next : α → Procedure ε β} {tells : ε → Prop}

/-- Cut off anywhere, the procedure gives up at once, with an error that tells so. It asks for no
secrets. -/
def Punctual (tells : ε → Prop) (body : Procedure ε α) : Prop :=
  body.run.OnLapse fun k q => k.collaborator ≠ .secrets ∧
    q.Quits fun result => ∃ e, result = .error e ∧ tells e

theorem punctual_pure (a : α) : (pure a : Procedure ε α).Punctual tells := .done _

theorem punctual_throw (e : ε) : (throw e : Procedure ε α).Punctual tells := .done _

theorem punctual_note (event : Log.Event) : (note event : Procedure ε Unit).Punctual tells :=
  .log event (.done _)

theorem punctual_fresh : (fresh : Procedure ε String).Punctual tells := .fresh fun _ => .done _

theorem punctual_refuse {tells : BrokerError → Prop} (r : Refusal) :
    (refuse r : Procedure BrokerError α).Punctual tells := .log r.event (.done _)

/-- A call whose failure is made an error. -/
theorem punctual_ask {k : CallKind} (c : Call k) (asked : k.collaborator ≠ .secrets)
    {onFailure : k.Failure → Procedure ε k.Value}
    (cut : (onFailure k.expired).run.Quits fun result => ∃ e, result = .error e ∧ tells e) :
    (ask c onFailure).Punctual tells := .call c none ⟨asked, cut⟩ fun _ => .done _

theorem Punctual.then (punctual : body.Punctual tells) (rest : ∀ a, (next a).Punctual tells) :
    (body >>= next).Punctual tells := by
  refine Program.OnLapse.bind (punctual.mono fun k q cut => ⟨cut.1, cut.2.bind ?_⟩) fun result => ?_
  · rintro _ ⟨e, rfl, told⟩
    exact .done ⟨e, rfl, told⟩
  · cases result with
    | error e => exact .done _
    | ok a => exact rest a

/-- What comes before may be left out. -/
theorem Punctual.then_if {c : Prop} [Decidable c] {body : Procedure ε Unit}
    {next : Unit → Procedure ε β} (punctual : body.Punctual tells)
    (rest : (next ()).Punctual tells) :
    (if c then body >>= next else next ()).Punctual tells := by
  split
  · exact punctual.then fun _ => rest
  · exact rest

/-- The verdict on what a procedure of the broker yields. -/
def verdict : Except BrokerError α → Verdict
  | .ok _ => .fine
  | .error e => .ofError e

/-- If all its calls succeed, so does the procedure. -/
def Reliable (body : Procedure BrokerError α) : Prop := body.run.Reliable (verdict · = .fine)

/-- Cut off anywhere, the procedure bears it. -/
def Bears (optional slips : CallKind → Prop) (body : Procedure BrokerError α) : Prop :=
  body.run.OnLapse (Program.Bears verdict optional slips)

variable {optional slips : CallKind → Prop} {body : Procedure BrokerError α}
  {next : α → Procedure BrokerError β}

theorem reliable_pure (a : α) : (pure a : Procedure BrokerError α).Reliable := .done rfl

theorem reliable_note (event : Log.Event) : (note event : Procedure BrokerError Unit).Reliable :=
  .log event (.done rfl)

theorem reliable_ask {k : CallKind} (c : Call k)
    (onFailure : k.Failure → Procedure BrokerError k.Value) : (ask c onFailure).Reliable :=
  .call c none fun _ => .done rfl

theorem Reliable.then (reliable : body.Reliable) (rest : ∀ a, (next a).Reliable) :
    (body >>= next).Reliable := by
  refine Program.Reliable.bind reliable fun result fine => ?_
  cases result with
  | ok a => exact rest a
  | error e =>
    change Verdict.ofError e = .fine at fine
    unfold Verdict.ofError at fine
    split at fine <;> cases fine

/-- An error that is worth another try. -/
def Retryable (e : BrokerError) : Prop := e.isRetryable

theorem verdict_of_retryable {result : Except BrokerError α}
    (told : ∃ e, result = .error e ∧ Retryable e) : verdict result = .retryable := by
  obtain ⟨e, rfl, retryable⟩ := told
  exact if_pos retryable

theorem Punctual.bears (punctual : body.Punctual Retryable) : body.Bears optional slips :=
  punctual.mono fun _ _ cut => .told cut.1 (cut.2.mono fun _ => verdict_of_retryable)

/-- Errors end a procedure, whatever would have followed. -/
theorem quits_bind {q : Program (Except BrokerError α)} {v : Verdict} (failure : v ≠ .fine)
    (quits : q.Quits (verdict · = v)) :
    Program.Quits (verdict · = v) (ExceptT.mk q >>= next : Procedure BrokerError β).run := by
  refine Program.Quits.bind quits fun result ended => ?_
  cases result with
  | error e => exact .done ended
  | ok a => exact absurd ended.symm failure

/-- What follows a procedure that gives up when it is cut off. -/
theorem Punctual.bears_then (punctual : body.Punctual Retryable)
    (rest : ∀ a, (next a).Bears optional slips) : (body >>= next).Bears optional slips := by
  refine Program.OnLapse.bind (punctual.mono fun k q cut => .told cut.1 ?_) fun result => ?_
  · exact quits_bind (by decide) (cut.2.mono fun _ => verdict_of_retryable)
  · cases result with
    | error e => exact .done _
    | ok a => exact rest a

/-- What follows a procedure that may go on although it was cut off has to be reliable. -/
theorem Bears.then (bears : body.Bears optional slips) (rest : ∀ a, (next a).Bears optional slips)
    (reliable : ∀ k, optional k → ∀ a, (next a).Reliable) :
    (body >>= next).Bears optional slips := by
  refine Program.OnLapse.bind (bears.mono fun k q borne => ?_) fun result => ?_
  · cases borne with
    | told asked quits => exact .told asked (quits_bind (by decide) quits)
    | lost slip quits => exact .lost slip (quits_bind (by decide) quits)
    | borne spare goesOn =>
      have remainder : Procedure.Reliable (ExceptT.mk q) := goesOn
      exact .borne spare (remainder.then (reliable k spare))
  · cases result with
    | error e => exact .done _
    | ok a => exact rest a

/-- A call that may be done without. -/
theorem bears_attempt {k : CallKind} (c : Call k) {next : k.Answer → Procedure BrokerError β}
    (spare : optional k) (without : (next (.error k.expired)).Reliable)
    (rest : ∀ value, (next (.ok value)).Bears optional slips) :
    (attempt c >>= next).Bears optional slips := .call c none (.borne spare without) rest

theorem run_lift_bind (body : Procedure ε α) (next : Except ε α → Procedure BrokerError β) :
    ((ExceptT.lift body.run : Procedure BrokerError (Except ε α)) >>= next).run =
      body.run.bind fun result => (next result).run := by
  simp only [run_bind_procedure, ExceptT.run_lift, Program.map_eq_bind, Program.bind_assoc,
    Program.bind]

/-- A procedure whose failures are looked at, each of which leads to an error worth another try. -/
theorem Punctual.lift_bears {body : Procedure ε α} (punctual : body.Punctual tells)
    {next : Except ε α → Procedure BrokerError β}
    (fails : ∀ e, tells e → (next (.error e)).run.Quits (verdict · = .retryable))
    (rest : ∀ result, (next result).Bears optional slips) :
    Procedure.Bears optional slips
      ((ExceptT.lift body.run : Procedure BrokerError (Except ε α)) >>= next) := by
  rw [Procedure.Bears, run_lift_bind]
  refine Program.OnLapse.bind (punctual.mono fun k q cut => .told cut.1 (cut.2.bind ?_)) rest
  rintro _ ⟨e, rfl, told⟩
  exact fails e told

/-- A procedure that can be done without, and whose failures are looked at. -/
theorem lift_bears {body : Procedure ε α} {next : Except ε α → Procedure BrokerError β}
    (onLapse : body.run.OnLapse fun k q => optional k ∧ q.Quits fun _ => True)
    (reliable : ∀ result, (next result).Reliable)
    (rest : ∀ result, (next result).Bears optional slips) :
    Procedure.Bears optional slips
      ((ExceptT.lift body.run : Procedure BrokerError (Except ε α)) >>= next) := by
  rw [Procedure.Bears, run_lift_bind]
  refine Program.OnLapse.bind (onLapse.mono fun k q spared => .borne spared.1 ?_) rest
  exact spared.2.reliable.bind fun result _ => reliable result

theorem Bears.within (bears : body.Bears optional slips) (span : Log.Span) :
    (within span body).Bears optional slips := by
  refine Program.OnLapse.within (bears.mono fun k q borne => ?_)
  cases borne with
  | told asked quits => exact .told asked (quits.within span)
  | borne spare reliable => exact .borne spare (reliable.within span)
  | lost slip quits => exact .lost slip (quits.within span)

theorem Bears.holding (bears : body.Bears optional slips) (about : Correlation) (kind : LockKind)
    (id : String) : (holding about kind id body).Bears optional slips := by
  refine .lock kind id fun taken => ?_
  cases taken with
  | false => exact .log _ (.done _)
  | true =>
    refine Program.OnLapse.bind (bears.mono fun k q borne => ?_) fun result =>
      .unlock kind id (.done _)
    cases borne with
    | told asked quits => exact .told asked (quits.bind fun _ ended => .unlock kind id (.done ended))
    | borne spare reliable =>
      exact .borne spare (reliable.bind fun _ ended => .unlock kind id (.done ended))
    | lost slip quits => exact .lost slip (quits.bind fun _ ended => .unlock kind id (.done ended))

/-- The response to a request that bears its deadline. -/
theorem Bears.respond (bears : body.Bears optional slips) {answer : α → Response}
    (fine : ∀ a, (answer a).verdict = .fine) {optional' slips' : CallKind → Prop}
    (spares : ∀ k, optional k → optional' k) (lapses : ∀ k, slips k → slips' k) :
    (body.respond answer).OnLapse (Program.Bears Response.verdict optional' slips') := by
  have same (result : Except BrokerError α) :
      (Response.ofResult answer result).verdict = verdict result := by
    cases result with
    | error e => rfl
    | ok a => exact fine a
  refine Program.OnLapse.bind (bears.mono fun k q borne => ?_) fun result => .done _
  cases borne with
  | told asked quits =>
    exact .told asked (quits.bind fun result ended => .done ((same result).trans ended))
  | borne spare reliable =>
    exact .borne (spares k spare)
      (reliable.bind fun result ended => .done ((same result).trans ended))
  | lost slip quits =>
    exact .lost (lapses k slip) (quits.bind fun result ended => .done ((same result).trans ended))

end Procedure

end ServiceBroker
