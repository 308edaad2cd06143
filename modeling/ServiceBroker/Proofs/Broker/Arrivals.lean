import ServiceBroker.Proofs.Broker.Footprint
import ServiceBroker.Proofs.Broker.Transcript

/-! Programs that come to a point from where everything is known. Up to there they ask for a few
kinds of call only, so they come to the same point, by the same way, among all collaborators that
answer those kinds alike. -/
namespace ServiceBroker

/-- What a run comes to: the result, the state that is left, and what was noticed meanwhile. -/
structure Upshot (σ α : Type) where
  result : α
  state : σ
  seen : List Happening

namespace Upshot

variable {σ α : Type}

/-- The same, with more that was noticed before. -/
def after (earlier : List Happening) (u : Upshot σ α) : Upshot σ α :=
  { u with seen := earlier ++ u.seen }

theorem after_after (earlier before : List Happening) (u : Upshot σ α) :
    (u.after before).after earlier = u.after (earlier ++ before) := by
  simp [after]

end Upshot

namespace Program

variable {σ α β : Type}

def upshot (h : Handler σ) (p : Program α) (s : σ) : Upshot σ α where
  result := (p.run h s).1
  state := (p.run h s).2
  seen := p.transcript h s

namespace Handler

/-- The same collaborators, where calls of one kind are answered in a given way. Whatever such a
call does to the collaborators, it still does. -/
def answering (h : Handler σ) (k : CallKind) (answer : k.Answer) : Handler σ :=
  { h with
    serve := fun {k'} span c s =>
      (if same : k' = k then same ▸ answer else (h.serve span c s).1, (h.serve span c s).2) }

/-- The same collaborators, for whom the log is kept elsewhere. -/
def unlogged (h : Handler σ) : Handler σ := { h with note := fun _ s => s }

@[simp] theorem serve_answering (h : Handler σ) {k : CallKind} (answer : k.Answer)
    (span : Option Log.Span) (c : Call k) (s : σ) :
    (h.answering k answer).serve span c s = (answer, (h.serve span c s).2) := by
  simp [answering]

theorem serve_answering_of_ne (h : Handler σ) {k k' : CallKind} (other : k' ≠ k) (answer : k.Answer)
    (span : Option Log.Span) (c : Call k') (s : σ) :
    (h.answering k answer).serve span c s = h.serve span c s := by
  simp [answering, other]

/-- Two handlers are one and the same for programs that keep to some kinds of call. -/
structure Agrees (kinds : List CallKind) (h h' : Handler σ) : Prop where
  serve : ∀ {k : CallKind} (span : Option Log.Span) (c : Call k) (s : σ), k ∈ kinds →
    h.serve span c s = h'.serve span c s
  note : h.note = h'.note
  acquire : h.acquire = h'.acquire
  release : h.release = h'.release
  issue : h.issue = h'.issue

theorem Agrees.refl (kinds : List CallKind) (h : Handler σ) : h.Agrees kinds h :=
  ⟨fun _ _ _ _ => rfl, rfl, rfl, rfl, rfl⟩

theorem Agrees.answering {kinds : List CallKind} {h h' : Handler σ} (agrees : h.Agrees kinds h')
    {k : CallKind} (unlisted : k ∉ kinds) (answer : k.Answer) :
    (h.answering k answer).Agrees kinds h' where
  serve span c s listed := by
    have other : _ ≠ k := fun same => unlisted (same ▸ listed)
    rw [serve_answering_of_ne h other, agrees.serve span c s listed]
  note := agrees.note
  acquire := agrees.acquire
  release := agrees.release
  issue := agrees.issue

end Handler

/-- A program keeps to some kinds of call until it ends in one of some ways or comes to a point from
where it goes on as one of some programs. -/
inductive ComesTo (kinds : List CallKind) (ends : α → Prop) (point : Program α → Prop) :
    Program α → Prop where
  | stop {a : α} (ended : ends a) : ComesTo kinds ends point (done a)
  | arrive {p : Program α} (there : point p) : ComesTo kinds ends point p
  | call {k : CallKind} {c : Call k} (span : Option Log.Span) {next : k.Answer → Program α}
      (listed : k ∈ kinds) (onward : ∀ answer, ComesTo kinds ends point (next answer)) :
      ComesTo kinds ends point (call c span next)
  | log (event : Log.Event) {next : Program α} (onward : ComesTo kinds ends point next) :
      ComesTo kinds ends point (log event next)
  | lock {kind : LockKind} {id : String} {next : Bool → Program α}
      (onward : ∀ taken, ComesTo kinds ends point (next taken)) :
      ComesTo kinds ends point (lock kind id next)
  | unlock {kind : LockKind} {id : String} {next : Program α}
      (onward : ComesTo kinds ends point next) : ComesTo kinds ends point (unlock kind id next)
  | fresh {next : String → Program α} (onward : ∀ id, ComesTo kinds ends point (next id)) :
      ComesTo kinds ends point (fresh next)

/-- Nothing of what was noticed was an answer to a call of any other kind. -/
def KeptTo (kinds : List CallKind) (seen : List Happening) : Prop :=
  ∀ h ∈ seen, ∀ c, h.call? = some c → c.kind ∈ kinds

theorem keptTo_nil (kinds : List CallKind) : KeptTo kinds [] :=
  fun _ impossible => nomatch impossible

theorem KeptTo.append {kinds : List CallKind} {seen later : List Happening}
    (kept : KeptTo kinds seen) (more : KeptTo kinds later) : KeptTo kinds (seen ++ later) := by
  intro h member
  rcases List.mem_append.mp member with early | late
  · exact kept h early
  · exact more h late

theorem keptTo_singleton {kinds : List CallKind} {h : Happening}
    (first : ∀ c, h.call? = some c → c.kind ∈ kinds) : KeptTo kinds [h] := by
  intro h' member
  rw [List.mem_singleton.mp member]
  exact first

/-- From a state a program goes the same way with all handlers that agree with one. -/
def Arrives (kinds : List CallKind) (ends : α → Prop) (point : Program α → Prop) (h : Handler σ)
    (p : Program α) (s : σ) : Prop :=
  ∃ seen s', KeptTo kinds seen ∧
    ((∃ a, ends a ∧ ∀ h' : Handler σ, h'.Agrees kinds h → p.upshot h' s = ⟨a, s', seen⟩) ∨
      ∃ q, point q ∧ ∀ h' : Handler σ, h'.Agrees kinds h →
        p.upshot h' s = (q.upshot h' s').after seen)

variable {kinds : List CallKind} {ends : α → Prop} {point : Program α → Prop} {p : Program α}

/-- One step further back. -/
theorem Arrives.step {h : Handler σ} {q : Program α} {s t : σ}
    (arrives : q.Arrives kinds ends point h t) {first : List Happening} (kept : KeptTo kinds first)
    (steps : ∀ h' : Handler σ, h'.Agrees kinds h → p.upshot h' s = (q.upshot h' t).after first) :
    p.Arrives kinds ends point h s := by
  obtain ⟨seen, s', rest, way⟩ := arrives
  refine ⟨first ++ seen, s', kept.append rest, ?_⟩
  rcases way with ⟨a, ended, same⟩ | ⟨last, there, same⟩
  · refine .inl ⟨a, ended, fun h' agrees => ?_⟩
    rw [steps h' agrees, same h' agrees]
    rfl
  · refine .inr ⟨last, there, fun h' agrees => ?_⟩
    rw [steps h' agrees, same h' agrees, Upshot.after_after]

namespace ComesTo

/-- Among all collaborators that agree about its kinds of call a program comes to the same point. -/
theorem arrives (comes : p.ComesTo kinds ends point) (h : Handler σ) (s : σ) :
    p.Arrives kinds ends point h s := by
  -- Every handler that agrees takes the first step alike; the rest of the way is that of `ih`.
  induction comes generalizing s with
  | @stop a ended => exact ⟨[], s, keptTo_nil kinds, .inl ⟨a, ended, fun _ _ => rfl⟩⟩
  | @arrive p there => exact ⟨[], s, keptTo_nil kinds, .inr ⟨p, there, fun _ _ => rfl⟩⟩
  | @call k c span next listed _ ih =>
    have first : KeptTo kinds [.answered c (h.serve span c s).1] :=
      keptTo_singleton fun _ isCall => Option.some.inj isCall ▸ listed
    refine (ih (h.serve span c s).1 (h.serve span c s).2).step first fun h' agrees => ?_
    rw [← agrees.serve span c s listed]
    rfl
  | log event _ ih =>
    refine (ih (h.note event s)).step (keptTo_nil kinds) fun h' agrees => ?_
    rw [← agrees.note]
    rfl
  | @lock kind id _ _ ih =>
    refine (ih (h.acquire kind id s).1 (h.acquire kind id s).2).step (keptTo_nil kinds) ?_
    intro h' agrees
    rw [← agrees.acquire]
    rfl
  | @unlock kind id _ _ ih =>
    refine (ih (h.release kind id s)).step (keptTo_nil kinds) fun h' agrees => ?_
    rw [← agrees.release]
    rfl
  | fresh _ ih =>
    have first : KeptTo kinds [.issued (h.issue s).1] :=
      keptTo_singleton fun _ impossible => nomatch impossible
    refine (ih (h.issue s).1 (h.issue s).2).step first fun h' agrees => ?_
    rw [← agrees.issue]
    rfl

theorem bind (comes : p.ComesTo kinds ends point) {f : α → Program β} {ends' : β → Prop}
    {point' : Program β → Prop} (stopped : ∀ a, ends a → (f a).ComesTo kinds ends' point')
    (arrived : ∀ q, point q → (q.bind f).ComesTo kinds ends' point') :
    (p.bind f).ComesTo kinds ends' point' := by
  induction comes with
  | stop ended => exact stopped _ ended
  | arrive there => exact arrived _ there
  | call span listed _ ih => exact .call span listed ih
  | log event _ ih => exact .log event ih
  | lock _ ih => exact .lock ih
  | unlock _ ih => exact .unlock ih
  | fresh _ ih => exact .fresh ih

theorem within (comes : p.ComesTo kinds ends point) (span : Log.Span)
    (arrived : ∀ q, point q → point (q.within span)) :
    (p.within span).ComesTo kinds ends point := by
  induction comes with
  | stop ended => exact .stop ended
  | arrive there => exact .arrive (arrived _ there)
  | call inner listed _ ih => exact .call _ listed ih
  | log event _ ih => exact .log _ ih
  | lock _ ih => exact .lock ih
  | unlock _ ih => exact .unlock ih
  | fresh _ ih => exact .fresh ih

end ComesTo

/-- A program in a footprint comes to its end. -/
theorem StaysIn.comesTo {f : Footprint} (stays : p.StaysIn f) :
    p.ComesTo f.kinds (fun _ => True) point := by
  induction stays with
  | done a => exact .stop trivial
  | call span covered _ ih => exact .call span covered.kind ih
  | log event _ ih => exact .log event ih
  | lock _ _ ih => exact .lock ih
  | unlock _ _ ih => exact .unlock ih
  | fresh _ ih => exact .fresh ih

/-- A program does nothing more but log, unlock and end with a value. -/
inductive Closes (a : α) : List LockKey → Program α → Prop where
  | done : Closes a [] (done a)
  | log (event : Log.Event) {released : List LockKey} {next : Program α}
      (onward : Closes a released next) : Closes a released (log event next)
  | unlock (kind : LockKind) (id : String) {released : List LockKey} {next : Program α}
      (onward : Closes a released next) : Closes a (⟨kind, id⟩ :: released) (unlock kind id next)

namespace Closes

variable {a : α} {released : List LockKey}

theorem upshot (closes : p.Closes a released) {h : Handler σ}
    (deaf : ∀ event s, h.note event s = s) (s : σ) : p.upshot h s =
      ⟨a, released.foldl (fun s key => h.release key.kind key.id s) s, []⟩ := by
  induction closes generalizing s with
  | done => rfl
  | @log event _ next _ ih =>
    change next.upshot h (h.note event s) = _
    rw [deaf, ih s]
  | unlock kind id _ ih => exact ih (h.release kind id s)

theorem within (closes : p.Closes a released) (span : Log.Span) :
    (p.within span).Closes a released := by
  induction closes with
  | done => exact .done
  | log event _ ih => exact .log _ ih
  | unlock kind id _ ih => exact .unlock kind id ih

theorem bind (closes : p.Closes a released) {b : β} {more : List LockKey} {f : α → Program β}
    (onward : (f a).Closes b more) : (p.bind f).Closes b (released ++ more) := by
  induction closes with
  | done => exact onward
  | log event _ ih => exact .log event ih
  | unlock kind id _ ih => exact .unlock kind id ih

end Closes

/-- A program makes a last call, and its value follows from the answer. -/
inductive EndsWith {k : CallKind} (c : Call k) (value : k.Answer → α) (released : List LockKey) :
    Program α → Prop where
  | call (span : Option Log.Span) {next : k.Answer → Program α}
      (closes : ∀ answer, (next answer).Closes (value answer) released) :
      EndsWith c value released (call c span next)
  | log (event : Log.Event) {next : Program α} (onward : EndsWith c value released next) :
      EndsWith c value released (log event next)

namespace EndsWith

variable {k : CallKind} {c : Call k} {value : k.Answer → α} {released : List LockKey}

/-- What a run comes to where the last call is answered in a given way. The state depends on nothing
else. -/
theorem upshot (ends : p.EndsWith c value released) : ∃ span, ∀ {σ : Type} {h : Handler σ}
    {answer : k.Answer}, (∀ event s, h.note event s = s) →
      (∀ s, (h.serve span c s).1 = answer) → ∀ s, p.upshot h s =
      ⟨value answer, released.foldl (fun s key => h.release key.kind key.id s) (h.serve span c s).2,
        [.answered c answer]⟩ := by
  induction ends with
  | @call span next closes =>
    refine ⟨span, fun {_ h answer} deaf answered s => ?_⟩
    have last : (next (h.serve span c s).1).upshot h (h.serve span c s).2 = _ :=
      (closes (h.serve span c s).1).upshot deaf _
    change ((next (h.serve span c s).1).upshot h (h.serve span c s).2).after
      [.answered c (h.serve span c s).1] = _
    rw [last, answered s]
    rfl
  | @log event next _ ih =>
    obtain ⟨span, ends⟩ := ih
    refine ⟨span, fun {_ h _} deaf answered s => ?_⟩
    change next.upshot h (h.note event s) = _
    rw [deaf, ends deaf answered s]

theorem within (ends : p.EndsWith c value released) (span : Log.Span) :
    (p.within span).EndsWith c value released := by
  induction ends with
  | call inner closes => exact .call _ fun answer => (closes answer).within span
  | log event _ ih => exact .log _ ih

theorem bind (ends : p.EndsWith c value released) {f : α → Program β} {value' : k.Answer → β}
    {more : List LockKey} (onward : ∀ answer, (f (value answer)).Closes (value' answer) more) :
    (p.bind f).EndsWith c value' (released ++ more) := by
  induction ends with
  | call span closes => exact .call span fun answer => (closes answer).bind (onward answer)
  | log event _ ih => exact .log event ih

end EndsWith

/-- What follows a program that only closes. -/
theorem Closes.bind_endsWith {a : α} (closes : p.Closes a []) {k : CallKind} {c : Call k}
    {value : k.Answer → β} {released : List LockKey} {f : α → Program β}
    (onward : (f a).EndsWith c value released) : (p.bind f).EndsWith c value released := by
  generalize nothing : ([] : List LockKey) = none at closes
  induction closes with
  | done => exact onward
  | log event _ ih => exact .log event (ih nothing)
  | unlock => cases nothing

/-- A program makes a call and then a last one, which may depend on the answer to the first. Its
value only follows from the answer to the last. -/
inductive EndsWithBoth {k k' : CallKind} (c : Call k) (c' : k.Answer → Call k')
    (value : k'.Answer → α) (released : List LockKey) : Program α → Prop where
  | call (span : Option Log.Span) {next : k.Answer → Program α}
      (ends : ∀ answer, (next answer).EndsWith (c' answer) value released) :
      EndsWithBoth c c' value released (call c span next)
  | log (event : Log.Event) {next : Program α} (onward : EndsWithBoth c c' value released next) :
      EndsWithBoth c c' value released (log event next)

theorem EndsWith.then {k k' : CallKind} {c : Call k} {value : k.Answer → α}
    (ends : p.EndsWith c value []) {f : α → Program β} {c' : k.Answer → Call k'}
    {value' : k'.Answer → β} {released : List LockKey}
    (onward : ∀ answer, (f (value answer)).EndsWith (c' answer) value' released) :
    (p.bind f).EndsWithBoth c c' value' released := by
  induction ends with
  | call span closes => exact .call span fun answer => (closes answer).bind_endsWith (onward answer)
  | log event _ ih => exact .log event ih

namespace EndsWithBoth

variable {k k' : CallKind} {c : Call k} {c' : k.Answer → Call k'} {value : k'.Answer → α}
  {released : List LockKey}

/-- The answer to the first call shows in the last call and nowhere else. -/
theorem upshot (ends : p.EndsWithBoth c c' value released) {h : Handler σ} {answer : k.Answer}
    {answer' : k'.Answer} (deaf : ∀ event s, h.note event s = s)
    (answered : ∀ span s, (h.serve span c s).1 = answer)
    (answered' : ∀ span s, (h.serve span (c' answer) s).1 = answer') (s : σ) :
    ∃ s', p.upshot h s =
      ⟨value answer', s', [.answered c answer, .answered (c' answer) answer']⟩ := by
  induction ends with
  | @call span next ends =>
    obtain ⟨span', last⟩ := (ends answer).upshot
    have ended := last deaf (answered' span') (h.serve span c s).2
    refine ⟨((next answer).upshot h (h.serve span c s).2).state, ?_⟩
    change ((next (h.serve span c s).1).upshot h (h.serve span c s).2).after
      [.answered c (h.serve span c s).1] = _
    rw [answered, ended]
    rfl
  | @log event next _ ih =>
    change ∃ s', next.upshot h (h.note event s) = _
    rw [deaf]
    exact ih

theorem within (ends : p.EndsWithBoth c c' value released) (span : Log.Span) :
    (p.within span).EndsWithBoth c c' value released := by
  induction ends with
  | call inner ends => exact .call _ fun answer => (ends answer).within span
  | log event _ ih => exact .log _ ih

theorem bind (ends : p.EndsWithBoth c c' value released) {f : α → Program β}
    {value' : k'.Answer → β} {more : List LockKey}
    (onward : ∀ answer, (f (value answer)).Closes (value' answer) more) :
    (p.bind f).EndsWithBoth c c' value' (released ++ more) := by
  induction ends with
  | call span ends => exact .call span fun answer => (ends answer).bind onward
  | log event _ ih => exact .log event ih

end EndsWithBoth

end Program

namespace Procedure

variable {ε α β : Type} {kinds : List CallKind}

/-- A procedure keeps to some kinds of call until it fails or comes to a point. -/
def ComesTo (kinds : List CallKind) (point : Program (Except ε α) → Prop)
    (body : Procedure ε α) : Prop :=
  body.run.ComesTo kinds (fun result => ∃ e, result = .error e) point

variable {point : Program (Except ε α) → Prop} {body : Procedure ε α}

theorem comesTo_refuse {point : Program (Except BrokerError α) → Prop} (r : Refusal) :
    (refuse r : Procedure BrokerError α).ComesTo kinds point := .log r.event (.stop ⟨_, rfl⟩)

theorem comesTo_arrive (there : point body.run) : body.ComesTo kinds point := .arrive there

/-- What follows a procedure that keeps to the kinds of call. -/
theorem StaysIn.comesTo {f : Footprint} (stays : body.StaysIn f) {next : α → Procedure ε β}
    {point : Program (Except ε β) → Prop} (rest : ∀ a, (next a).ComesTo f.kinds point) :
    (body >>= next).ComesTo f.kinds point := by
  have ends : body.run.ComesTo f.kinds (fun _ => True) fun _ => False :=
    Program.StaysIn.comesTo stays
  refine Program.ComesTo.bind ends ?_ fun _ impossible => impossible.elim
  rintro (e | a) _
  · exact .stop ⟨e, rfl⟩
  · exact rest a

theorem ComesTo.bind (comes : body.ComesTo kinds point) {next : α → Procedure ε β}
    {point' : Program (Except ε β) → Prop}
    (arrived : ∀ q : Procedure ε α, point q.run → point' (q >>= next).run) :
    (body >>= next).ComesTo kinds point' := by
  refine Program.ComesTo.bind comes ?_ fun q there => .arrive (arrived (ExceptT.mk q) there)
  rintro _ ⟨e, rfl⟩
  exact .stop ⟨e, rfl⟩

theorem ComesTo.within (comes : body.ComesTo kinds point) (span : Log.Span)
    (arrived : ∀ q, point q → point (q.within span)) : (within span body).ComesTo kinds point :=
  Program.ComesTo.within comes span arrived

theorem ComesTo.holding {point : Program (Except BrokerError α) → Prop}
    {body : Procedure BrokerError α} (comes : body.ComesTo kinds point) (about : Correlation)
    (kind : LockKind) (id : String)
    (arrived : ∀ q, point q → point (q.bind fun result => .unlock kind id (.done result))) :
    (holding about kind id body).ComesTo kinds point := by
  refine .lock fun taken => ?_
  cases taken with
  | false => exact comesTo_refuse _
  | true =>
    refine Program.ComesTo.bind comes ?_ fun q there => .arrive (arrived q there)
    rintro _ ⟨e, rfl⟩
    exact .unlock (.stop ⟨e, rfl⟩)

end Procedure

end ServiceBroker
