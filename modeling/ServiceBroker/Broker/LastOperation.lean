import ServiceBroker.Broker.Lifecycle
import ServiceBroker.Broker.Steps

/-! Polls. The token says what was started, the backend's tasks say how far it has come, and a poll
takes the next step if it is due. A failed task is reported with correlation data alone; its own
words go to the operator. -/
namespace ServiceBroker.Broker

open Procedure Steps

/-- Removes what a deleted deployment left behind. Failures are logged and change nothing. -/
def cleanUpAfterDelete (about : Correlation) (deployment : String) :
    Procedure BrokerError Unit := do
  let outcome : Except BrokerError Unit ← ExceptT.lift (cleanUp about deployment).run
  match outcome with
  | .ok () => return ()
  | .error e =>
    note (Log.errorEvent "broker" "cleanup after delete" e.operatorText
      (some ("deployment " ++ deployment ++ ", request " ++ about.requestId)))

/-- What the operator is told about a task that failed. -/
def failedTaskText (task : BackendTask) : String :=
  "task " ++ task.id.repr ++ " finished in state " ++ task.state.word ++ ": description: " ++
    task.description ++ ", result: " ++ task.result

/-- What a poll answers when it finds the operation at a task. -/
def reportTask (about : Correlation) (deployment : String) (kind : OperationKind)
    (task : BackendTask) : Procedure BrokerError LastOperation := do
  match task.state.outcome with
  | .incomplete => return ⟨.inProgress, kind.subject ++ " in progress"⟩
  | .succeeded =>
    if kind = .delete ∨ kind = .forceDelete then cleanUpAfterDelete about deployment
    info (kind.subject ++ " completed") [("task_id", .number task.id)]
    return ⟨.succeeded, kind.subject ++ " completed"⟩
  | .failed =>
    let refusal := Refusal.generic about (failedTaskText task)
    note refusal.event
    return ⟨.failed, kind.subject ++ " failed: " ++ refusal.error.message⟩

/-- Answers a poll whose token could be read. -/
def pollOperation (config : BrokerConfig) (about : Correlation) (data : OperationData) :
    Procedure BrokerError LastOperation := do
  let deployment := config.deploymentName about.instanceId
  let found : Except LifecycleError BackendTask ←
    ExceptT.lift (Lifecycle.currentTask config.offering deployment data).run
  match found with
  | .error e => refuse (.ofLifecycle about e)
  | .ok task => reportTask { about with taskId := some task.id } deployment data.kind task

/-- Answers a poll: how the operation of a token stands. -/
def lastOperation (config : BrokerConfig) (requestId instanceId token : String) :
    Procedure BrokerError LastOperation :=
  match OperationData.decode token with
  | .error e => refuse (.ofToken { service := config.offering.name, instanceId, requestId } e)
  | .ok data =>
    within (spanOf instanceId requestId data.kind) <|
      pollOperation config
        { config.correlation instanceId requestId data.kind with taskId := some data.taskId } data

end ServiceBroker.Broker
