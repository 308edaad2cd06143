import ServiceBroker.Broker.Steps

/-! New instances. A request is checked against everything that is known before the backend is asked
to deploy: the client can wait, nobody works on the instance, the plan exists, the deployment does
not, and the quotas allow one more. -/
namespace ServiceBroker.Broker

open Procedure Steps

/-- The dashboard of an instance. Without an answer from the adapter the instance has none. -/
def dashboardUrl (about : Correlation) (plan : Plan) (manifest : String) :
    Procedure BrokerError String := do
  match ← attempt (.dashboardUrl about.instanceId plan manifest) with
  | .ok url => return url
  | .error (e : AdapterError) =>
    if e = .notImplemented then return ""
    else do
      warn "failed to generate dashboard url, continuing without one"
        [("request_id", .plain about.requestId), ("instance_id", .plain about.instanceId),
          ("error", .plain e.message)]
      return ""

/-- Deploys a new instance whose id is locked. -/
def provisionLocked (config : BrokerConfig) (about : Correlation) (details : ProvisionDetails) :
    Procedure BrokerError ProvisionedService := do
  let plan ← findPlan config about details.planId
  let deployment := config.deploymentName about.instanceId
  if (← findDeployment about deployment).isSome then
    refuse (.sentinel about .instanceAlreadyExists
      ("deployment " ++ deployment ++ " already exists"))
  else
    requireQuota config about plan
    let contextId ← deployContext plan
    let request : DeployRequest :=
      { deployment, planId := plan.id, previousPlanId := none, parameters := details.parameters,
        contextId, kind := .create }
    let outcome : DeployOutcome ← ask (.submitDeploy request) (failed about)
    info "deploy submitted"
      [("deployment", .plain deployment), ("task_id", .number outcome.taskId),
        ("context_id", .plain contextId), ("plan_id", .plain plan.id)]
    let data := deployData .create outcome.taskId contextId plan
    let url ← dashboardUrl about plan outcome.manifest
    noteAccepted "provision" about outcome.taskId
    return { isAsync := true, dashboardUrl := url, operationData := data.encode }

def provision (config : BrokerConfig) (requestId instanceId : String) (details : ProvisionDetails)
    (asyncAllowed : Bool) : Procedure BrokerError ProvisionedService :=
  let about := config.correlation instanceId requestId .create
  within (spanOf instanceId requestId .create) <|
    if asyncAllowed then
      holding about .serviceInstance instanceId (provisionLocked config about details)
    else
      refuse (.sentinel about .asyncRequired "provision requested without accepts_incomplete")

end ServiceBroker.Broker
