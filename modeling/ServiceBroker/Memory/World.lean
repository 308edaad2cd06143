import ServiceBroker.Broker.Program
import ServiceBroker.Memory.Backend

/-! All collaborators of a broker in memory, with the locks, the clock and the journals of one
process. `World.handler` runs the programs of the broker against them. -/
namespace ServiceBroker.Memory

/-- An instance counter with fixed counts. -/
structure Counter where
  counts : InstanceCounts := .empty
  failure : Option BackendError := none
  deriving Inhabited

/-- A service adapter with fixed answers. -/
structure Adapter where
  dashboardUrl : Except AdapterError String := .error .notImplemented
  binding : Except AdapterError Binding :=
    .ok { credentials := .object [("password", .string "secret")] }
  unbinding : Except AdapterError Unit := .ok ()
  deriving Inhabited

/-- A credential store with fixed secrets. -/
structure SecretStore where
  secrets : NameMap String := .empty
  resolveFailure : Option SecretsError := none
  deleteFailure : Option SecretsError := none
  deriving Inhabited

def unlessFailed {ε α : Type} (failure : Option ε) (value : α) : Except ε α :=
  match failure with
  | some e => .error e
  | none => .ok value

/-- The collaborators of a broker, its locks, a clock, what was asked and logged, and a supply of
ids of which the first `issued` are used up. -/
structure World where
  backend : Backend := {}
  counter : Counter := {}
  adapter : Adapter := {}
  secrets : SecretStore := {}
  locks : Locks := {}
  now : Millis := 0
  calls : List AnyCall := []
  events : List Log.Event := []
  ids : Nat → String
  issued : Nat := 0

namespace World

def askBackend {α : Type} (w : World) (act : Backend → Except BackendError α × Backend) :
    Except BackendError α × World :=
  let (answer, backend) := act w.backend
  (answer, { w with backend })

/-- Submits a deploy. If the backend takes its time and the deadline passes meanwhile, nobody hears
of the deploy any more and it does not happen. -/
def submitDeploy (w : World) (deadline : Option Millis) (request : DeployRequest) :
    Except BackendError DeployOutcome × World :=
  match w.backend.admitDeploy request with
  | .error failure => (.error failure, w)
  | .ok () =>
    let (inTime, now) := wait deadline w.now (w.backend.deployDelay.getD 0)
    if inTime then
      let (outcome, backend) := w.backend.deploy request
      (.ok outcome, { w with backend, now })
    else (.error (CallKind.submitDeploy.expired : BackendError), { w with now })

def answer (w : World) (deadline : Option Millis) : {k : CallKind} → Call k → k.Answer × World
  | _, .submitDeploy request => w.submitDeploy deadline request
  | _, .submitErrand deployment errand contextId =>
    w.askBackend fun b => b.submitErrand deployment errand contextId
  | _, .submitDelete deployment contextId _ =>
    w.askBackend fun b => b.submitDelete deployment contextId
  | _, .submitRecreate deployment contextId =>
    w.askBackend fun b => b.submitRecreate deployment contextId
  | _, .getTask id => w.askBackend fun b => b.getTask id
  | _, .getTasksByContext deployment contextId =>
    w.askBackend fun b => b.getTasksByContext deployment contextId
  | _, .getTasksInProgress deployment => w.askBackend fun b => b.getTasksInProgress deployment
  | _, .getDeployment deployment => w.askBackend fun b => b.getDeployment deployment
  | _, .getVms deployment => w.askBackend fun b => b.getVms deployment
  | _, .deleteConfigs _ => w.askBackend Backend.deleteConfigs
  | _, .countPlan planId =>
    (unlessFailed w.counter.failure ((w.counter.counts.get? planId).getD 0), w)
  | _, .countOffering => (unlessFailed w.counter.failure w.counter.counts, w)
  | _, .dashboardUrl .. => (w.adapter.dashboardUrl, w)
  | _, .createBinding _ => (w.adapter.binding, w)
  | _, .deleteBinding _ => (w.adapter.unbinding, w)
  | _, .resolveSecrets _ => (unlessFailed w.secrets.resolveFailure w.secrets.secrets, w)
  | _, .deleteSecrets _ => (unlessFailed w.secrets.deleteFailure (), w)

def serve (deadline : Option Millis) {k : CallKind} (c : Call k) (w : World) : k.Answer × World :=
  ({ w with calls := w.calls ++ [⟨k, c⟩] } : World).answer deadline c

/-- Serves a call where ids of tasks are words. Until the words run out this is `serve`. -/
def serveInWords (deadline : Option Millis) {k : CallKind} (c : Call k) (w : World) :
    k.Answer × World :=
  let (answer, w) := serve deadline c w
  (answer, { w with backend := w.backend.wrapped })

def note (event : Log.Event) (w : World) : World := { w with events := w.events ++ [event] }

def acquire (kind : LockKind) (id : String) (w : World) : Bool × World :=
  match w.locks.acquire? kind id with
  | some locks => (true, { w with locks })
  | none => (false, w)

def release (kind : LockKind) (id : String) (w : World) : World :=
  { w with locks := w.locks.release kind id }

def issue (w : World) : String × World := (w.ids w.issued, { w with issued := w.issued + 1 })

/-- The world as programs notice it, under the deadline of their request. -/
def handler (deadline : Option Millis) : Program.Handler World where
  serve _ c w := serve deadline c w
  note := note
  acquire := acquire
  release := release
  issue := issue

end World

end ServiceBroker.Memory
