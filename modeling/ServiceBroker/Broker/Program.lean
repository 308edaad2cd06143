import ServiceBroker.Broker.Call
import ServiceBroker.Failure.Refusal

/-! Programs: what the operations of a broker do, as data. A program takes one step after the other
and sees of the world only what its outbound calls answer, so one program can be run against
collaborators in memory, cut off at any call, or interleaved with others at its calls. -/
namespace ServiceBroker

/-- A program that ends with a value. -/
inductive Program (α : Type) : Type where
  | done (value : α)
  /-- Asks a collaborator, within a request if one is named, and goes on with its answer. -/
  | call {k : CallKind} (c : Call k) (span : Option Log.Span) (next : k.Answer → Program α)
  /-- Logs an event. -/
  | log (event : Log.Event) (next : Program α)
  /-- Tries to lock an id and goes on with whether that worked. -/
  | lock (kind : LockKind) (id : String) (next : Bool → Program α)
  /-- Unlocks an id. -/
  | unlock (kind : LockKind) (id : String) (next : Program α)
  /-- Takes an id that nobody used before. -/
  | fresh (next : String → Program α)

namespace Program

variable {α β : Type}

/-- Goes on with another program after the end of one. -/
def bind (p : Program α) (f : α → Program β) : Program β :=
  match p with
  | done a => f a
  | call c span next => call c span fun answer => (next answer).bind f
  | log event next => log event (next.bind f)
  | lock kind id next => lock kind id fun taken => (next taken).bind f
  | unlock kind id next => unlock kind id (next.bind f)
  | fresh next => fresh fun id => (next id).bind f

instance : Monad Program where
  pure := done
  bind := bind

/-- Puts the events and calls of a program that belong to no request into a request. -/
def within (span : Log.Span) : Program α → Program α
  | done a => done a
  | call c inner next => call c (inner.or (some span)) fun answer => (next answer).within span
  | log event next => log { event with span := event.span.or (some span) } (next.within span)
  | lock kind id next => lock kind id fun taken => (next taken).within span
  | unlock kind id next => unlock kind id (next.within span)
  | fresh next => fresh fun id => (next id).within span

/-- The world a program runs in, as far as the program can notice it. -/
structure Handler (σ : Type) where
  serve : {k : CallKind} → Option Log.Span → Call k → σ → k.Answer × σ
  note : Log.Event → σ → σ
  acquire : LockKind → String → σ → Bool × σ
  release : LockKind → String → σ → σ
  issue : σ → String × σ

def run {σ : Type} (h : Handler σ) : Program α → σ → α × σ
  | done a, s => (a, s)
  | call c span next, s => let (answer, s) := h.serve span c s; (next answer).run h s
  | log event next, s => next.run h (h.note event s)
  | lock kind id next, s => let (taken, s) := h.acquire kind id s; (next taken).run h s
  | unlock kind id next, s => next.run h (h.release kind id s)
  | fresh next, s => let (id, s) := h.issue s; (next id).run h s

end Program

/-- A program that may end early with an error. -/
abbrev Procedure (ε α : Type) := ExceptT ε Program α

namespace Procedure

variable {ε α : Type}

/-- Asks a collaborator; a failure is part of the answer. -/
def attempt {k : CallKind} (c : Call k) : Procedure ε k.Answer :=
  ExceptT.mk (.call c none fun answer => .done (.ok answer))

/-- Asks a collaborator; a failure is followed by another procedure. -/
def ask {k : CallKind} (c : Call k) (onFailure : k.Failure → Procedure ε k.Value) :
    Procedure ε k.Value := do
  match ← attempt c with
  | .ok value => return value
  | .error failure => onFailure failure

def note (event : Log.Event) : Procedure ε Unit := ExceptT.mk (.log event (.done (.ok ())))

def info (message : String) (fields : List (String × Log.FieldValue)) : Procedure ε Unit :=
  note { level := .info, message, fields }

def warn (message : String) (fields : List (String × Log.FieldValue)) : Procedure ε Unit :=
  note { level := .warn, message, fields }

def fresh : Procedure ε String := ExceptT.mk (.fresh fun id => .done (.ok id))

/-- Turns the request down, with a line for the operator. -/
def refuse (r : Refusal) : Procedure BrokerError α :=
  ExceptT.mk (.log r.event (.done (.error r.error)))

/-- Does something while an id is locked, and unlocks it however that ends. Who finds the id locked
is turned down and nothing is done. -/
def holding (about : Correlation) (kind : LockKind) (id : String) (body : Procedure BrokerError α) :
    Procedure BrokerError α :=
  ExceptT.mk <| .lock kind id fun
    | true => body.run.bind fun result => .unlock kind id (.done result)
    | false => (refuse (.locked about kind id) : Procedure BrokerError α).run

/-- Puts the events and calls of a procedure into a request. -/
def within (span : Log.Span) (body : Procedure ε α) : Procedure ε α :=
  ExceptT.mk (Program.within span body.run)

end Procedure

end ServiceBroker
