import ServiceBroker.Memory.World

/-! Scenarios: what happens to a broker and its collaborators, step by step. Most steps set the
stage; the others are requests to the broker. A hook holds steps that happen in the middle of a
request, just before a collaborator sees its next call of some kind. -/
namespace ServiceBroker.Scenario

/-- A deployment, by its name or by the instance it belongs to. -/
inductive Place where
  | ofInstance (instanceId : String)
  | named (deployment : String)
  deriving DecidableEq, Inhabited

/-- A token, given as it is or kept under a name by an earlier request. -/
inductive TokenSource where
  | given (token : String)
  | kept (name : String)
  deriving DecidableEq, Inhabited

/-- Operation data, given as they are or taken from a token. -/
inductive DataSource where
  | given (data : OperationData)
  | kept (name : String)
  deriving DecidableEq, Inhabited

/-- What the broker is asked to do. -/
inductive Verb where
  | provision (details : ProvisionDetails) (asyncAllowed : Bool)
  | update (details : UpdateDetails) (asyncAllowed : Bool)
  | upgrade (details : UpdateDetails)
  | recreate (planId : String)
  | deprovision (details : DeprovisionDetails) (asyncAllowed : Bool)
  | bind (bindingId : String) (details : BindDetails)
  | unbind (bindingId : String) (details : UnbindDetails)
  | lastOperation (token : TokenSource)
  /-- Takes an operation further without a poll. -/
  | currentTask (place : Place) (data : DataSource)
  /-- The details of the request cannot be read. -/
  | unreadable

/-- A request to the broker. -/
structure Request where
  instanceId : String := ""
  /-- A blank id is replaced by one that nobody used before. -/
  requestId : String := "req-test"
  timeout : Option Millis := none
  /-- The name under which the token of an accepted request is kept. -/
  keepAs : Option String := none
  verb : Verb

/-- How long calls of a kind take before and after the collaborator sees them. -/
structure Delay where
  before : Option Millis := none
  after : Option Millis := none
  deriving DecidableEq, Inhabited

/-- A step of a scenario. -/
inductive Step where
  | addInstance (place : Place) (manifest : Option String)
  | setVms (place : Place) (vms : Topology)
  /-- Adds a task, under the context of a kept token if one is named. -/
  | addTask (place : Place) (task : BackendTask) (contextFrom : Option String)
  | setTaskState (id : TaskId) (state : TaskState)
  | setSubmittedState (state : TaskState)
  | setFailure (kind : CallKind) (failure : Option BackendError)
  | setDeployDelay (length : Millis)
  | setCount (planId : String) (count : UInt32)
  | failCounter (failure : BackendError)
  | setDashboardUrl (answer : Except AdapterError String)
  | setBinding (answer : Except AdapterError Binding)
  | setUnbinding (answer : Except AdapterError Unit)
  | addSecret (path value : String)
  | failResolve (failure : SecretsError)
  | failDeleteSecrets (failure : SecretsError)
  | setDelay (kind : CallKind) (delay : Delay)
  | hook (kind : CallKind) (steps : List Step)
  | holdLock (kind : LockKind) (id : String)
  | releaseLock (kind : LockKind) (id : String)
  | queryLock (kind : LockKind) (id : String)
  | inspect (tasks : Option (List TaskId)) (place : Option Place)
  | describe
  | request (request : Request)

/-- What a request led to. -/
inductive Result where
  | provisioned (service : ProvisionedService)
  | accepted (operation : AcceptedOperation)
  | started (data : OperationData)
  | bound (binding : Binding)
  | unbound
  | polled (operation : LastOperation)
  | task (task : BackendTask)
  | refused (error : BrokerError)
  | stuck (error : LifecycleError)
  | badToken (error : TokenError)
  | unreadable

/-- What a step answers. -/
inductive Answer where
  | nothing
  | acquired (id : String)
  | alreadyHeld (kind : LockKind) (id : String)
  | released (wasHeld : Bool)
  | held (isHeld : Bool)
  /-- The tasks and the deployment asked for, and how many submissions and deploys there were. -/
  | inspected (tasks : Option (List (Option BackendTask))) (deployed : Option Bool)
      (submissions deploys : Nat)
  | described (broker steps : String)
  /-- What a request led to, the calls and events on the way, how many instances and bindings are
  locked afterwards, and what the steps of hooks answered meanwhile. The request may have come
  without an id of its own. -/
  | served (hadId : Bool) (result : Result) (calls : List AnyCall) (events : List Log.Event)
      (lockedInstances lockedBindings : Nat) (meanwhile : List Answer)

end ServiceBroker.Scenario
