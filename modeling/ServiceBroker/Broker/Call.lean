import ServiceBroker.Catalog.Plan
import ServiceBroker.Failure.Collaborator
import ServiceBroker.Request.Details
import ServiceBroker.Task

/-! Outbound calls: everything a broker asks of its collaborators, and what each of them may answer.
A call is a value, so what an operation does can be looked at without carrying it out. -/
namespace ServiceBroker

/-- What the backend needs to know to submit a deploy. -/
structure DeployRequest where
  deployment : String
  planId : String
  previousPlanId : Option String
  parameters : Parameters
  /-- Empty when no errand follows the deploy. -/
  contextId : String
  kind : OperationKind
  deriving Inhabited

/-- A deploy that was submitted. -/
structure DeployOutcome where
  taskId : TaskId
  manifest : String
  deriving DecidableEq, Inhabited

/-- What the service adapter needs to know to create or delete credentials. -/
structure BindingRequest where
  bindingId : String
  vms : Topology
  manifest : String
  parameters : Parameters
  secrets : NameMap String
  deriving Inhabited

/-- The kinds of outbound call. -/
inductive CallKind where
  | submitDeploy
  | submitErrand
  | submitDelete
  | submitRecreate
  | getTask
  | getTasksByContext
  | getTasksInProgress
  | getDeployment
  | getVms
  | deleteConfigs
  | countPlan
  | countOffering
  | dashboardUrl
  | createBinding
  | deleteBinding
  | resolveSecrets
  | deleteSecrets
  deriving DecidableEq, Inhabited

namespace CallKind

/-- The operation that a message about a missed deadline names. -/
def operation : CallKind → String
  | submitDeploy => "submit deploy"
  | submitErrand => "submit errand"
  | submitDelete => "submit delete"
  | submitRecreate => "submit recreate"
  | getTask => "get task"
  | getTasksByContext => "get tasks by context"
  | getTasksInProgress => "get tasks in progress"
  | getDeployment => "get deployment"
  | getVms => "get vms"
  | deleteConfigs => "delete configs"
  | countPlan => "count instances of plan"
  | countOffering => "count instances of service offering"
  | dashboardUrl => "generate dashboard url"
  | createBinding => "create binding"
  | deleteBinding => "delete binding"
  | resolveSecrets => "resolve manifest secrets"
  | deleteSecrets => "delete secrets"

def isSubmission : CallKind → Bool
  | submitDeploy | submitErrand | submitDelete | submitRecreate => true
  | _ => false

def collaborator : CallKind → Collaborator
  | submitDeploy | submitErrand | submitDelete | submitRecreate | getTask | getTasksByContext
  | getTasksInProgress | getDeployment | getVms | deleteConfigs => .backend
  | countPlan | countOffering => .counter
  | dashboardUrl | createBinding | deleteBinding => .adapter
  | resolveSecrets | deleteSecrets => .secrets

/-- How a call of the kind fails. -/
abbrev Failure (k : CallKind) : Type := k.collaborator.Error

def Value : CallKind → Type
  | submitDeploy => DeployOutcome
  | submitErrand | submitDelete | submitRecreate => TaskId
  | getTask => BackendTask
  | getTasksByContext | getTasksInProgress => List BackendTask
  | getDeployment => Option Deployment
  | getVms => Topology
  | deleteConfigs | deleteBinding | deleteSecrets => Unit
  | countPlan => UInt32
  | countOffering => NameMap UInt32
  | dashboardUrl => String
  | createBinding => Binding
  | resolveSecrets => NameMap String

/-- What the collaborator of a call of the kind answers. -/
abbrev Answer (k : CallKind) : Type := Except k.Failure k.Value

/-- The failure of a call that was cut off by the deadline of its request. -/
def expired (k : CallKind) : k.Failure := k.collaborator.expired k.operation

end CallKind

/-- An outbound call of a kind. -/
inductive Call : CallKind → Type where
  | submitDeploy (request : DeployRequest) : Call .submitDeploy
  | submitErrand (deployment : String) (errand : Errand) (contextId : String) : Call .submitErrand
  | submitDelete (deployment contextId : String) (force : Bool) : Call .submitDelete
  | submitRecreate (deployment contextId : String) : Call .submitRecreate
  | getTask (id : TaskId) : Call .getTask
  /-- All tasks of a context, the oldest first. -/
  | getTasksByContext (deployment contextId : String) : Call .getTasksByContext
  /-- The tasks that have not come to their end. -/
  | getTasksInProgress (deployment : String) : Call .getTasksInProgress
  | getDeployment (deployment : String) : Call .getDeployment
  | getVms (deployment : String) : Call .getVms
  /-- Removes what a deployment left in the backend's configuration. -/
  | deleteConfigs (deployment : String) : Call .deleteConfigs
  | countPlan (planId : String) : Call .countPlan
  | countOffering : Call .countOffering
  | dashboardUrl (instanceId : String) (plan : Plan) (manifest : String) : Call .dashboardUrl
  | createBinding (request : BindingRequest) : Call .createBinding
  | deleteBinding (request : BindingRequest) : Call .deleteBinding
  | resolveSecrets (manifest : String) : Call .resolveSecrets
  | deleteSecrets (deployment : String) : Call .deleteSecrets

/-- An outbound call of any kind. -/
structure AnyCall where
  kind : CallKind
  call : Call kind

end ServiceBroker
