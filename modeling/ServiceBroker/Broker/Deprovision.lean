import ServiceBroker.Broker.Steps

/-! Deletions. If the plan runs errands before the deletion, the first one is submitted here and
polls take it from there. What an instance without a deployment left behind is removed before the
caller is told that there is no such instance. -/
namespace ServiceBroker.Broker

open Procedure Steps

/-- Submits the deletion of a deployment outside of any context. -/
def submitDelete (about : Correlation) (deployment : String) (force : Bool) :
    Procedure BrokerError TaskId := do
  let taskId ← ask (.submitDelete deployment "" force) (failed about)
  info "delete submitted"
    [("deployment", .plain deployment), ("task_id", .number taskId), ("force", .flag force)]
  return taskId

/-- Submits the first errand before a deletion, under a new context. -/
def submitFirstErrand (about : Correlation) (deployment : String) (plan : Plan) (first : Errand) :
    Procedure BrokerError OperationData := do
  let contextId ← fresh
  let taskId : TaskId ← ask (.submitErrand deployment first contextId) (failed about)
  info "first pre-delete errand submitted"
    [("deployment", .plain deployment), ("errand", .plain first.name), ("task_id", .number taskId),
      ("context_id", .plain contextId)]
  return { kind := .delete, taskId, contextId, planId := some plan.id,
           preDeleteErrands := plan.preDeleteErrands }

def startDelete (about : Correlation) (deployment : String) (plan : Plan) (force : Bool) :
    Procedure BrokerError OperationData := do
  if force then
    return { kind := .forceDelete, taskId := ← submitDelete about deployment true }
  else match plan.preDeleteErrands with
    | first :: _ => submitFirstErrand about deployment plan first
    | [] => return { kind := .delete, taskId := ← submitDelete about deployment false }

/-- Deletes an instance whose id is locked. -/
def deprovisionLocked (config : BrokerConfig) (about : Correlation) (details : DeprovisionDetails) :
    Procedure BrokerError AcceptedOperation := do
  let deployment := config.deploymentName about.instanceId
  if (← findDeployment about deployment).isNone then
    cleanUp about deployment
    refuse (.displayableSentinel about .instanceDoesNotExist
      ("error deprovisioning: instance " ++ about.instanceId ++ ", not found."))
  else
    requireIdle about deployment
    let plan ← findPlan config about details.planId
    let data ← startDelete about deployment plan details.force
    noteAccepted "deprovision" about data.taskId
    return { isAsync := true, operationData := data.encode }

/-- The kind of deletion that a request asks for. -/
def deletionKind (details : DeprovisionDetails) : OperationKind :=
  if details.force then .forceDelete else .delete

def deprovision (config : BrokerConfig) (requestId instanceId : String)
    (details : DeprovisionDetails) (asyncAllowed : Bool) :
    Procedure BrokerError AcceptedOperation :=
  let kind := deletionKind details
  let about := config.correlation instanceId requestId kind
  within (spanOf instanceId requestId kind) <|
    if asyncAllowed then
      holding about .serviceInstance instanceId (deprovisionLocked config about details)
    else
      refuse (.sentinel about .asyncRequired "deprovision requested without accepts_incomplete")

end ServiceBroker.Broker
