import ServiceBroker.Broker.Steps

/-! Deploys of instances that exist: updates, upgrades and recreations. They differ in when quotas
are checked and in what the backend is asked for. -/
namespace ServiceBroker.Broker

open Procedure Steps

/-- The ways to deploy an instance again. -/
inductive Redeploy where
  | update
  | upgrade
  | recreate
  deriving DecidableEq, Inhabited

namespace Redeploy

def kind : Redeploy → OperationKind
  | update => .update
  | upgrade => .upgrade
  | recreate => .recreate

/-- An update is checked against quotas if it changes the plan, an upgrade always, and a recreation
never. -/
def checksQuota (details : UpdateDetails) : Redeploy → Bool
  | update => details.isPlanChange
  | upgrade => true
  | recreate => false

end Redeploy

/-- Asks the backend for the deploy or the recreation. -/
def submitRedeploy (way : Redeploy) (about : Correlation) (deployment contextId : String)
    (plan : Plan) (details : UpdateDetails) : Procedure BrokerError TaskId := do
  if way = .recreate then ask (.submitRecreate deployment contextId) (failed about)
  else
    let request : DeployRequest :=
      { deployment, planId := plan.id,
        previousPlanId :=
          if details.previousPlanId.isEmpty then none else some details.previousPlanId,
        parameters := details.parameters, contextId, kind := way.kind }
    let outcome : DeployOutcome ← ask (.submitDeploy request) (failed about)
    return outcome.taskId

/-- Deploys an instance whose id is locked again. -/
def redeployLocked (config : BrokerConfig) (way : Redeploy) (about : Correlation)
    (details : UpdateDetails) : Procedure BrokerError OperationData := do
  let plan ← findPlan config about details.planId
  let deployment := config.deploymentName about.instanceId
  if (← findDeployment about deployment).isNone then refuse (deploymentMissing about deployment)
  else
    requireIdle about deployment
    if way.checksQuota details then requireQuota config about plan
    let contextId ← deployContext plan
    let taskId ← submitRedeploy way about deployment contextId plan details
    info "redeploy submitted"
      [("deployment", .plain deployment), ("task_id", .number taskId),
        ("context_id", .plain contextId), ("plan_id", .plain plan.id),
        ("operation", .plain way.kind.word)]
    noteAccepted way.kind.word about taskId
    return deployData way.kind taskId contextId plan

def redeploy (config : BrokerConfig) (way : Redeploy) (requestId instanceId : String)
    (details : UpdateDetails) : Procedure BrokerError OperationData :=
  let about := config.correlation instanceId requestId way.kind
  holding about .serviceInstance instanceId (redeployLocked config way about details)

def update (config : BrokerConfig) (requestId instanceId : String) (details : UpdateDetails)
    (asyncAllowed : Bool) : Procedure BrokerError AcceptedOperation :=
  within (spanOf instanceId requestId .update) <|
    if asyncAllowed then do
      let data ← redeploy config .update requestId instanceId details
      return { isAsync := true, operationData := data.encode }
    else
      refuse (.sentinel (config.correlation instanceId requestId .update) .asyncRequired
        "update requested without accepts_incomplete")

/-- Starts to deploy an instance onto the current release of the service. -/
def upgrade (config : BrokerConfig) (requestId instanceId : String) (details : UpdateDetails) :
    Procedure BrokerError OperationData :=
  within (spanOf instanceId requestId .upgrade) <|
    redeploy config .upgrade requestId instanceId details

/-- Starts to recreate the machines of an instance under the same manifest. -/
def recreate (config : BrokerConfig) (requestId instanceId planId : String) :
    Procedure BrokerError OperationData :=
  within (spanOf instanceId requestId .recreate) <|
    redeploy config .recreate requestId instanceId
      { serviceId := "", planId, previousPlanId := planId }

end ServiceBroker.Broker
