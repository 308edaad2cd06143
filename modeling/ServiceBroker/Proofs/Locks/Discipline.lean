import ServiceBroker.Proofs.Broker.InStep
import ServiceBroker.Proofs.Locks.Registry

/-! What programs do with locks. A body of work takes no lock. What is done on an id is done under
the lock of that id: it is taken before anything else, given back at the very end, and whoever does
not get it is turned away and asks nobody anything. -/
namespace ServiceBroker

namespace Program

/-- A program that neither takes a lock nor gives one back. -/
inductive LockFree {α : Type} : Program α → Prop where
  | done (a : α) : LockFree (done a)
  | call {k : CallKind} (c : Call k) (span : Option Log.Span) {next : k.Answer → Program α}
      (onward : ∀ answer, LockFree (next answer)) : LockFree (call c span next)
  | log (event : Log.Event) {next : Program α} (onward : LockFree next) : LockFree (log event next)
  | fresh {next : String → Program α} (onward : ∀ id, LockFree (next id)) : LockFree (fresh next)

/-- A program that does nothing but log, up to an end as demanded. -/
inductive Silent {α : Type} (demand : α → Prop) : Program α → Prop where
  | done {a : α} (ended : demand a) : Silent demand (done a)
  | log (event : Log.Event) {next : Program α} (onward : Silent demand next) :
      Silent demand (log event next)

/-- A program that has a lock: it gives it back, and does nothing but log after that. -/
inductive Inside {α : Type} (key : LockKey) : Program α → Prop where
  | call {k : CallKind} (c : Call k) (span : Option Log.Span) {next : k.Answer → Program α}
      (onward : ∀ answer, Inside key (next answer)) : Inside key (call c span next)
  | log (event : Log.Event) {next : Program α} (onward : Inside key next) :
      Inside key (log event next)
  | fresh {next : String → Program α} (onward : ∀ id, Inside key (next id)) :
      Inside key (fresh next)
  | unlock {next : Program α} (after : next.Silent fun _ => True) :
      Inside key (unlock key.kind key.id next)

/-- A program that begins by taking a lock; turned away, it ends as demanded. -/
inductive Enters {α : Type} (key : LockKey) (turned : α → Prop) : Program α → Prop where
  | lock {next : Bool → Program α} (held : (next true).Inside key)
      (away : (next false).Silent turned) : Enters key turned (lock key.kind key.id next)

variable {α β : Type} {p : Program α} {f : α → Program β} {key : LockKey} {demand : α → Prop}
  {demand' : β → Prop}

theorem LockFree.bind (free : p.LockFree) (onward : ∀ a, (f a).LockFree) : (p.bind f).LockFree := by
  induction free with
  | done a => exact onward a
  | call c span _ ih => exact .call c span ih
  | log event _ ih => exact .log event ih
  | fresh _ ih => exact .fresh ih

theorem LockFree.within (free : p.LockFree) (span : Log.Span) : (p.within span).LockFree := by
  induction free with
  | done a => exact .done a
  | call c inner _ ih => exact .call c _ ih
  | log event _ ih => exact .log _ ih
  | fresh _ ih => exact .fresh ih

theorem Silent.bind (silent : p.Silent demand) (onward : ∀ a, demand a → (f a).Silent demand') :
    (p.bind f).Silent demand' := by
  induction silent with
  | done ended => exact onward _ ended
  | log event _ ih => exact .log event ih

theorem Silent.within (silent : p.Silent demand) (span : Log.Span) :
    (p.within span).Silent demand := by
  induction silent with
  | done ended => exact .done ended
  | log event _ ih => exact .log _ ih

theorem Inside.bind (inside : p.Inside key) (onward : ∀ a, (f a).Silent fun _ => True) :
    (p.bind f).Inside key := by
  induction inside with
  | call c span _ ih => exact .call c span ih
  | log event _ ih => exact .log event ih
  | fresh _ ih => exact .fresh ih
  | unlock after => exact .unlock (after.bind fun a _ => onward a)

theorem Inside.within (inside : p.Inside key) (span : Log.Span) : (p.within span).Inside key := by
  induction inside with
  | call c inner _ ih => exact .call c _ ih
  | log event _ ih => exact .log _ ih
  | fresh _ ih => exact .fresh ih
  | unlock after => exact .unlock (after.within span)

/-- Work that takes no lock of its own is done under the one it is put under. -/
theorem LockFree.inside (free : p.LockFree) (onward : ∀ a, (f a).Silent fun _ => True) :
    (p.bind fun a => unlock key.kind key.id (f a)).Inside key := by
  induction free with
  | done a => exact .unlock (onward a)
  | call c span _ ih => exact .call c span ih
  | log event _ ih => exact .log event ih
  | fresh _ ih => exact .fresh ih

theorem Enters.bind (enters : p.Enters key demand) (onward : ∀ a, (f a).Silent fun _ => True)
    (refused : ∀ a, demand a → (f a).Silent demand') : (p.bind f).Enters key demand' := by
  cases enters with
  | lock held away => exact .lock (held.bind onward) (away.bind refused)

theorem Enters.within (enters : p.Enters key demand) (span : Log.Span) :
    (p.within span).Enters key demand := by
  cases enters with
  | lock held away => exact .lock (held.within span) (away.within span)

end Program

namespace Procedure

variable {ε α β : Type} {body : Procedure ε α} {next : α → Procedure ε β}

/-- A procedure that neither takes a lock nor gives one back. -/
def LockFree (body : Procedure ε α) : Prop := body.run.LockFree

theorem lockFree_pure (a : α) : (pure a : Procedure ε α).LockFree := .done _

theorem lockFree_throw (e : ε) : (throw e : Procedure ε α).LockFree := .done _

theorem lockFree_attempt {k : CallKind} (c : Call k) :
    (attempt c : Procedure ε k.Answer).LockFree := .call c none fun _ => .done _

theorem lockFree_note (event : Log.Event) : (note event : Procedure ε Unit).LockFree :=
  .log event (.done _)

theorem lockFree_fresh : (fresh : Procedure ε String).LockFree := .fresh fun _ => .done _

theorem lockFree_refuse (r : Refusal) : (refuse r : Procedure BrokerError α).LockFree :=
  .log r.event (.done _)

theorem LockFree.then (free : body.LockFree) (rest : ∀ a, (next a).LockFree) :
    (body >>= next).LockFree := by
  refine Program.LockFree.bind free fun result => ?_
  cases result with
  | error e => exact .done _
  | ok a => exact rest a

/-- What comes before may be left out. -/
theorem LockFree.then_if {c : Prop} [Decidable c] {body : Procedure ε Unit}
    {next : Unit → Procedure ε β} (free : body.LockFree) (rest : (next ()).LockFree) :
    (if c then body >>= next else next ()).LockFree := by
  split
  · exact free.then fun _ => rest
  · exact rest

theorem LockFree.lift (free : body.LockFree) :
    Procedure.LockFree (ExceptT.lift body.run : Procedure β (Except ε α)) :=
  Program.LockFree.bind free fun _ => .done _

theorem LockFree.within (free : body.LockFree) (span : Log.Span) : (within span body).LockFree :=
  Program.LockFree.within free span

theorem lockFree_ask {k : CallKind} (c : Call k) {onFailure : k.Failure → Procedure ε k.Value}
    (fails : ∀ e, (onFailure e).LockFree) : (ask c onFailure).LockFree := by
  refine (lockFree_attempt c).then fun answer => ?_
  cases answer with
  | error e => exact fails e
  | ok value => exact lockFree_pure value

/-- A procedure that is carried out under a lock, or turned away because somebody else has it. -/
def Enters (about : Correlation) (key : LockKey) (body : Procedure BrokerError α) : Prop :=
  body.run.Enters key (· = .error (Refusal.locked about key.kind key.id).error)

theorem LockFree.holding {body : Procedure BrokerError α} (free : body.LockFree)
    (about : Correlation) (key : LockKey) :
    (holding about key.kind key.id body).Enters about key :=
  .lock (Program.LockFree.inside free fun _ => .done trivial) (.log _ (.done rfl))

variable {body : Procedure BrokerError α} {about : Correlation} {key : LockKey}

theorem Enters.within (enters : body.Enters about key) (span : Log.Span) :
    (within span body).Enters about key := Program.Enters.within enters span

/-- What is done with the result is done after the lock was given back. -/
theorem Enters.map (enters : body.Enters about key) (f : α → β) :
    (do return f (← body) : Procedure BrokerError β).Enters about key := by
  refine Program.Enters.bind enters (fun result => ?_) ?_
  · cases result with
    | error e => exact .done trivial
    | ok a => exact .done trivial
  · rintro _ rfl
    exact .done rfl

end Procedure

end ServiceBroker
