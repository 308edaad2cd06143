import ServiceBroker.Broker.Binding
import ServiceBroker.Broker.Deprovision
import ServiceBroker.Broker.LastOperation
import ServiceBroker.Broker.Provision
import ServiceBroker.Broker.Redeploy
import ServiceBroker.Scenario.Stage
import ServiceBroker.Text.Quoted

/-! Carrying out the steps of a scenario. A request is carried out by the broker's own programs
against the stage; every other step changes the stage or looks at it. -/
namespace ServiceBroker.Scenario

open Memory

namespace Stage

/-- Runs a procedure of the broker and says what it led to. -/
def act {ε α : Type} (s : Stage) (run : Interruption) (deadline : Option Millis)
    (body : Procedure ε α) (refused : ε → Result) (done : α → Result) : Result × Stage :=
  let (outcome, s) := Program.run (handler run deadline) body.run s
  (match outcome with
    | .ok a => done a
    | .error e => refused e, s)

/-- Carries out what the broker is asked for, under the id of the request. -/
def carryOut (s : Stage) (run : Interruption) (requestId : String) (request : Request) :
    Result × Stage :=
  let deadline := request.timeout.map (s.world.now + ·)
  let id := request.instanceId
  match request.verb with
  | .provision details async =>
    s.act run deadline (Broker.provision s.config requestId id details async) .refused .provisioned
  | .update details async =>
    s.act run deadline (Broker.update s.config requestId id details async) .refused .accepted
  | .upgrade details =>
    s.act run deadline (Broker.upgrade s.config requestId id details) .refused .started
  | .recreate planId =>
    s.act run deadline (Broker.recreate s.config requestId id planId) .refused .started
  | .deprovision details async =>
    s.act run deadline (Broker.deprovision s.config requestId id details async) .refused .accepted
  | .bind bindingId details =>
    s.act run deadline (Broker.bind s.config requestId id bindingId details) .refused .bound
  | .unbind bindingId details =>
    s.act run deadline (Broker.unbind s.config requestId id bindingId details) .refused
      fun () => .unbound
  | .lastOperation source =>
    let token := match source with
      | .given token => token
      | .kept name => s.token name
    s.act run deadline (Broker.lastOperation s.config requestId id token) .refused .polled
  | .currentTask place source =>
    let data := match source with
      | .given data => Except.ok data
      | .kept name => OperationData.decode (s.token name)
    match data with
    | .ok data =>
      s.act run deadline (Lifecycle.currentTask s.config.offering (s.deploymentAt place) data)
        .stuck .task
    | .error e => (.badToken e, s)
  | .unreadable => (.unreadable, s)

end Stage

namespace Result

/-- The token of a request that was accepted. -/
def token? : Result → Option String
  | provisioned service => some service.operationData
  | accepted operation => some operation.operationData
  | started data => some data.encode
  | _ => none

end Result

namespace Stage

def request (s : Stage) (run : Interruption) (request : Request) : Answer × Stage :=
  let hadId := !Text.isBlankText request.requestId
  let (requestId, s) := if hadId then (request.requestId, s) else s.onWorld World.issue
  let s := { s with world := { s.world with calls := [], events := [] }, meanwhile := [] }
  let (result, s) := s.carryOut run requestId request
  let s := match result.token? with
    | some token => s.keep request.keepAs token
    | none => s
  (.served hadId result s.world.calls (s.world.events.filter fun e => e.level.passes s.threshold)
    s.world.locks.instances.count s.world.locks.bindings.count s.meanwhile, s)

/-- A broker in words: its service, how it names deployments, and how much is locked. -/
def brokerText (s : Stage) : String :=
  "Broker \x7b service: " ++ Text.quoted s.config.offering.name ++
    ", deployment_prefix: " ++ Text.quoted s.config.settings.deploymentPrefix ++
    ", held_instance_locks: " ++ s.world.locks.instances.count.repr ++
    ", held_binding_locks: " ++ s.world.locks.bindings.count.repr ++ " \x7d"

/-- What takes operations further, in words. -/
def runnerText (s : Stage) : String :=
  "LifecycleRunner \x7b offering: " ++ Text.quoted s.config.offering.id ++ " \x7d"

/-- Takes hold of a lock, until a later step lets go of it. -/
def holdLock (s : Stage) (kind : LockKind) (id : String) : Answer × Stage :=
  match s.onWorld (World.acquire kind id) with
  | (true, s) => (.acquired id, { s with guards := (kind, id) :: s.guards })
  | (false, s) => (.alreadyHeld kind id, s)

/-- Lets go of a lock that an earlier step took hold of. -/
def releaseLock (s : Stage) (kind : LockKind) (id : String) : Answer × Stage :=
  if s.guards.contains (kind, id) then
    (.released true, { s with
      world := s.world.release kind id
      guards := s.guards.erase (kind, id) })
  else (.released false, s)

/-- Looks at tasks and a deployment without asking anybody. -/
def inspect (s : Stage) (tasks : Option (List TaskId)) (place : Option Place) : Answer :=
  .inspected (tasks.map fun ids => ids.map s.world.backend.task?)
    (place.map fun p => s.world.backend.hasDeployment (s.deploymentAt p))
    (s.history.countP CallKind.isSubmission) (s.history.count .submitDeploy)

def onBackend (s : Stage) (act : Backend → Backend) : Answer × Stage :=
  (.nothing, { s with world := { s.world with backend := act s.world.backend } })

def onCounter (s : Stage) (act : Counter → Counter) : Answer × Stage :=
  (.nothing, { s with world := { s.world with counter := act s.world.counter } })

def onAdapter (s : Stage) (act : Adapter → Adapter) : Answer × Stage :=
  (.nothing, { s with world := { s.world with adapter := act s.world.adapter } })

def onSecrets (s : Stage) (act : SecretStore → SecretStore) : Answer × Stage :=
  (.nothing, { s with world := { s.world with secrets := act s.world.secrets } })

def contextOf (s : Stage) (name : String) : String :=
  match OperationData.decode (s.token name) with
  | .ok data => data.contextId
  | .error _ => ""

def perform (run : Interruption) (s : Stage) : Step → Answer × Stage
  | .addInstance place manifest =>
    let deployment := s.deploymentAt place
    s.onBackend fun b => b.addDeployment deployment (manifest.getD ("name: " ++ deployment ++ "\n"))
  | .setVms place vms =>
    s.onBackend fun b => { b with vms := b.vms.insert (s.deploymentAt place) vms }
  | .addTask place task contextFrom =>
    let task := match contextFrom with
      | some name => { task with contextId := s.contextOf name }
      | none => task
    s.onBackend fun b => b.addTask (s.deploymentAt place) task
  | .setTaskState id state => s.onBackend fun b => b.setTaskState id state
  | .setSubmittedState state => s.onBackend fun b => { b with submittedState := state }
  | .setFailure kind failure => s.onBackend fun b => b.setFailure kind failure
  | .setDeployDelay length => s.onBackend fun b => { b with deployDelay := some length }
  | .setCount planId count => s.onCounter fun c => { c with counts := c.counts.insert planId count }
  | .failCounter failure => s.onCounter fun c => { c with failure := some failure }
  | .setDashboardUrl answer => s.onAdapter fun a => { a with dashboardUrl := answer }
  | .setBinding answer => s.onAdapter fun a => { a with binding := answer }
  | .setUnbinding answer => s.onAdapter fun a => { a with unbinding := answer }
  | .addSecret path value => s.onSecrets fun t => { t with secrets := t.secrets.insert path value }
  | .failResolve failure => s.onSecrets fun t => { t with resolveFailure := some failure }
  | .failDeleteSecrets failure => s.onSecrets fun t => { t with deleteFailure := some failure }
  | .setDelay kind delay =>
    (.nothing, { s with delays := fun k => if k = kind then delay else s.delays k })
  | .hook kind steps =>
    (.nothing, { s with hooks := fun k => if k = kind then some steps else s.hooks k })
  | .holdLock kind id => s.holdLock kind id
  | .releaseLock kind id => s.releaseLock kind id
  | .queryLock kind id => (.held ((s.world.locks.registry kind).isHeld id), s)
  | .inspect tasks place => (s.inspect tasks place, s)
  | .describe => (.described s.brokerText s.runnerText, s)
  | .request request => s.request run request

end Stage

mutual

/-- How many hooks a step holds, itself and inside of it. -/
def Step.hookCount : Step → Nat
  | .hook _ steps => 1 + hookCounts steps
  | _ => 0

def hookCounts : List Step → Nat
  | [] => 0
  | step :: rest => step.hookCount + hookCounts rest

end

/-- Carries out steps in turn, with requests interrupted by hooks up to a depth. -/
def runSteps : Nat → List Step → Stage → List Answer × Stage
  | 0, _, s => ([], s)
  | depth + 1, steps, s =>
    steps.foldl (fun (answers, s) step =>
      let (answer, s) := s.perform (runSteps depth) step
      (answers ++ [answer], s)) ([], s)

/-- Carries out a scenario. Each hook happens once, so requests are never interrupted more deeply
than there are hooks. -/
def run (s : Stage) (steps : List Step) : List Answer × Stage :=
  runSteps (hookCounts steps + 1) steps s

end ServiceBroker.Scenario
