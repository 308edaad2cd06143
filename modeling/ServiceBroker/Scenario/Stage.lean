import ServiceBroker.Scenario.Step

/-! The stage of a scenario: a broker, the world around it, and what is planned for its next calls.
Hooks happen inside a request, so how their steps are carried out is a parameter here. -/
namespace ServiceBroker.Scenario

open Memory

/-- A broker and its world, what is planned for later calls, the tokens and locks kept by earlier
steps, the kinds of all calls so far, what hooks answered during the present request, and the
request that the present steps interrupt. -/
structure Stage where
  config : BrokerConfig
  threshold : Log.Level
  world : World
  delays : CallKind → Delay := fun _ => {}
  hooks : CallKind → Option (List Step) := fun _ => none
  tokens : NameMap String := .empty
  guards : List (LockKind × String) := []
  history : List CallKind := []
  meanwhile : List Answer := []
  interrupted : Option Log.Span := none

namespace Stage

def deploymentAt (s : Stage) : Place → String
  | .ofInstance id => s.config.deploymentName id
  | .named deployment => deployment

/-- A kept token; a name under which none was kept stands for the empty text. -/
def token (s : Stage) (name : String) : String := (s.tokens.get? name).getD ""

def keep (s : Stage) (name : Option String) (token : String) : Stage :=
  match name with
  | some name => { s with tokens := s.tokens.insert name token }
  | none => s

/-- How the steps of a hook are carried out. -/
abbrev Interruption := List Step → Stage → List Answer × Stage

/-- Carries out the hook of a kind of call, if there is one, for the only time. What it asks and
logs is its own and not part of the answer to the request that it interrupts. -/
def interrupt (s : Stage) (run : Interruption) (span : Option Log.Span) (kind : CallKind) : Stage :=
  match s.hooks kind with
  | none => s
  | some steps =>
    let inner := { s with
      hooks := fun k => if k = kind then none else s.hooks k
      world := { s.world with calls := [], events := [] }
      meanwhile := []
      interrupted := span.or s.interrupted }
    let (answers, after) := run steps inner
    { after with
      world := { after.world with calls := s.world.calls, events := s.world.events }
      meanwhile := s.meanwhile ++ answers
      interrupted := s.interrupted }

/-- Serves a call: the time before it passes, its hook happens, the collaborator answers, the time
after it passes. A call that is cut off goes no further. -/
def serve (run : Interruption) (deadline : Option Millis) (span : Option Log.Span) {k : CallKind}
    (c : Call k) (s : Stage) : k.Answer × Stage :=
  let delay := s.delays k
  let (inTime, now) := wait deadline s.world.now (delay.before.getD 0)
  let s := { s with world := { s.world with now } }
  if inTime then
    let s := s.interrupt run span k
    let (answer, world) := World.serveInWords deadline c s.world
    let (inTime, now) := wait deadline world.now (delay.after.getD 0)
    let s := { s with world := { world with now }, history := s.history ++ [k] }
    (if inTime then answer else .error k.expired, s)
  else (.error k.expired, s)

def onWorld {α : Type} (act : World → α × World) (s : Stage) : α × Stage :=
  let (a, world) := act s.world
  (a, { s with world })

/-- Writes an event down. What belongs to no request of its own belongs to the interrupted one. -/
def note (event : Log.Event) (s : Stage) : Stage :=
  { s with world := s.world.note { event with span := event.span.or s.interrupted } }

def handler (run : Interruption) (deadline : Option Millis) : Program.Handler Stage where
  serve span c s := serve run deadline span c s
  note := note
  acquire kind id := onWorld (World.acquire kind id)
  release kind id s := { s with world := s.world.release kind id }
  issue := onWorld World.issue

end Stage

end ServiceBroker.Scenario
