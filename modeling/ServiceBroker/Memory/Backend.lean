import ServiceBroker.Broker.Call
import ServiceBroker.Request.Deadline

/-! A deployment backend in memory. It holds deployments and tasks, gives each submission a task of
its own, and fails where it was told to. Tasks stand in the order of their ids, and which deployment
a task works on is written down beside them. -/
namespace ServiceBroker.Memory

/-- Adds a task to a list in the order of ids, in place of one with its id. -/
def insertTask (task : BackendTask) : List BackendTask → List BackendTask
  | [] => [task]
  | held :: rest =>
    if task.id < held.id then task :: held :: rest
    else if task.id = held.id then task :: rest
    else held :: insertTask task rest

/-- The id of the first submitted task, unless a task with a higher id is known. -/
def firstSubmittedId : TaskId := 100

/-- The id after another one. Ids are words of 64 bits, and after the last word comes the first. -/
def nextId (id : TaskId) : TaskId := (id + 1) % Json.wordBound

/-- A deployment backend in memory. -/
structure Backend where
  deployments : NameMap Deployment := .empty
  vms : NameMap Topology := .empty
  tasks : List BackendTask := []
  /-- The deployment that the task with an id works on. -/
  owners : TaskId → Option String := fun _ => none
  nextTaskId : TaskId := firstSubmittedId
  /-- The state of the tasks of later submissions. -/
  submittedState : TaskState := .queued
  /-- The calls that fail, every time until told otherwise. -/
  failures : CallKind → Option BackendError := fun _ => none
  /-- How long the backend works on a deploy before it knows the task. -/
  deployDelay : Option Millis := none

namespace Backend

instance : Inhabited Backend := ⟨{}⟩

/-- Whether there is a deployment of a name. -/
def hasDeployment (b : Backend) (name : String) : Bool := b.deployments.contains name

def addDeployment (b : Backend) (name manifest : String) : Backend :=
  { b with deployments := b.deployments.insert name ⟨name, manifest⟩ }

def task? (b : Backend) (id : TaskId) : Option BackendTask :=
  b.tasks.find? fun task => task.id == id

/-- Keeps a task and writes down which deployment it works on. -/
def keepTask (b : Backend) (deployment : String) (task : BackendTask) : Backend :=
  { b with
    tasks := insertTask task b.tasks
    owners := fun id => if id = task.id then some deployment else b.owners id }

/-- Adds a task that was not submitted here. Later submissions get higher ids. -/
def addTask (b : Backend) (deployment : String) (task : BackendTask) : Backend :=
  ({ b with nextTaskId := max b.nextTaskId (nextId task.id) } : Backend).keepTask deployment task

def setTaskState (b : Backend) (id : TaskId) (state : TaskState) : Backend :=
  { b with tasks := b.tasks.map fun task => if task.id = id then { task with state } else task }

/-- Makes a call fail from now on, or work again. -/
def setFailure (b : Backend) (kind : CallKind) (failure : Option BackendError) : Backend :=
  { b with failures := fun k => if k = kind then failure else b.failures k }

/-- Gives a submission a task with the next id. The id after the last word is left to
`Backend.wrapped`. -/
def submit (b : Backend) (deployment contextId description : String) : TaskId × Backend :=
  let task : BackendTask :=
    { id := b.nextTaskId, state := b.submittedState, description, contextId }
  (b.nextTaskId, ({ b with nextTaskId := b.nextTaskId + 1 } : Backend).keepTask deployment task)

/-- Starts the ids over if the last word has been given out. -/
def wrapped (b : Backend) : Backend := { b with nextTaskId := b.nextTaskId % Json.wordBound }

/-- The tasks of a deployment of which something holds, in the order of their ids. -/
def tasksOf (b : Backend) (deployment : String) (p : BackendTask → Bool) : List BackendTask :=
  b.tasks.filter fun task => p task && b.owners task.id == some deployment

/-- Carries a call out unless it was told to fail. A call that fails changes nothing. -/
def unlessFailing {α : Type} (b : Backend) (kind : CallKind)
    (act : Backend → Except BackendError α × Backend) : Except BackendError α × Backend :=
  match b.failures kind with
  | some failure => (.error failure, b)
  | none => act b

def manifestOf (request : DeployRequest) : String :=
  "name: " ++ request.deployment ++ "\nplan: " ++ request.planId ++ "\n"

/-- Finds out whether a deploy can start: only new instances do without a deployment. -/
def admitDeploy (b : Backend) (request : DeployRequest) : Except BackendError Unit :=
  match b.failures .submitDeploy with
  | some failure => .error failure
  | none =>
    if request.kind ≠ .create ∧ !b.hasDeployment request.deployment then
      .error (.deploymentNotFound request.deployment)
    else .ok ()

def deploy (b : Backend) (request : DeployRequest) : DeployOutcome × Backend :=
  let manifest := manifestOf request
  let (taskId, b) := (b.addDeployment request.deployment manifest).submit request.deployment
    request.contextId ("deploy " ++ request.deployment)
  (⟨taskId, manifest⟩, b)

def submitErrand (b : Backend) (deployment : String) (errand : Errand) (contextId : String) :
    Except BackendError TaskId × Backend :=
  b.unlessFailing .submitErrand fun b =>
    (b.submit deployment contextId ("run errand " ++ errand.name)).map .ok id

/-- Submits a deletion. The deployment is gone at once. -/
def submitDelete (b : Backend) (deployment contextId : String) :
    Except BackendError TaskId × Backend :=
  b.unlessFailing .submitDelete fun b =>
    let b : Backend := { b with deployments := b.deployments.erase deployment }
    (b.submit deployment contextId ("delete deployment " ++ deployment)).map .ok id

def submitRecreate (b : Backend) (deployment contextId : String) :
    Except BackendError TaskId × Backend :=
  b.unlessFailing .submitRecreate fun b =>
    (b.submit deployment contextId ("recreate deployment " ++ deployment)).map .ok id

def getTask (b : Backend) (id : TaskId) : Except BackendError BackendTask × Backend :=
  b.unlessFailing .getTask fun b =>
    (match b.task? id with
      | some task => .ok task
      | none => .error (.taskNotFound id), b)

/-- Looks up the tasks of a context, the oldest first. -/
def getTasksByContext (b : Backend) (deployment contextId : String) :
    Except BackendError (List BackendTask) × Backend :=
  b.unlessFailing .getTasksByContext fun b =>
    (.ok (b.tasksOf deployment fun task => task.contextId == contextId), b)

/-- Looks up the tasks of a deployment that have not come to their end. -/
def getTasksInProgress (b : Backend) (deployment : String) :
    Except BackendError (List BackendTask) × Backend :=
  b.unlessFailing .getTasksInProgress fun b =>
    (.ok (b.tasksOf deployment fun task => !task.state.isTerminal), b)

def getDeployment (b : Backend) (deployment : String) :
    Except BackendError (Option Deployment) × Backend :=
  b.unlessFailing .getDeployment fun b => (.ok (b.deployments.get? deployment), b)

def getVms (b : Backend) (deployment : String) : Except BackendError Topology × Backend :=
  b.unlessFailing .getVms fun b => (.ok ((b.vms.get? deployment).getD .empty), b)

/-- Removes the configuration of a deployment, of which nothing is kept here. -/
def deleteConfigs (b : Backend) : Except BackendError Unit × Backend :=
  b.unlessFailing .deleteConfigs fun b => (.ok (), b)

end Backend

end ServiceBroker.Memory
