import ServiceBroker.Broker.Program

/-! Steps that several operations of a broker have in common: looking up a plan and a deployment,
counting instances against quotas, keeping out of the way of unfinished tasks, and writing down
what was done. -/
namespace ServiceBroker

open Procedure

/-- The correlation data of an operation on an instance. -/
def BrokerConfig.correlation (config : BrokerConfig) (instanceId requestId : String)
    (kind : OperationKind) : Correlation :=
  { service := config.offering.name, instanceId, requestId, kind := some kind }

namespace Steps

def findPlan (config : BrokerConfig) (about : Correlation) (planId : String) :
    Procedure BrokerError Plan :=
  match config.offering.findPlan? planId with
  | some plan => return plan
  | none =>
    refuse (.sentinel about (.planNotFound planId) ("plan " ++ planId ++ " not found in catalog"))

/-- The backend or the instance counter failed. -/
def failed {α : Type} (about : Correlation) (e : BackendError) : Procedure BrokerError α :=
  refuse (.ofBackend about e)

/-- The deployment of an instance, if it has one. -/
def findDeployment (about : Correlation) (deployment : String) :
    Procedure BrokerError (Option Deployment) :=
  ask (.getDeployment deployment) (failed about)

/-- There is no deployment for an operation that needs one. -/
def deploymentMissing (about : Correlation) (deployment : String) : Refusal :=
  .sentinel about .instanceDoesNotExist ("deployment " ++ deployment ++ " not found")

/-- Turns the request down while the deployment has unfinished tasks. -/
def requireIdle (about : Correlation) (deployment : String) : Procedure BrokerError Unit := do
  let tasks ← ask (.getTasksInProgress deployment) (failed about)
  if tasks.isEmpty then return ()
  else refuse (.conflict about
    "An operation is in progress for your service instance. Please try again later.")

/-- The counts that decide about the quotas of a plan: those of all plans if the offering is
limited, else that of the plan alone, and none if nothing is limited. -/
def countInstances (config : BrokerConfig) (about : Correlation) (plan : Plan) :
    Procedure BrokerError (Option InstanceCounts) := do
  if config.offering.globalLimits.isLimited then
    return some (← ask .countOffering (failed about))
  else if plan.limits.isLimited then
    return some (.singleton plan.id (← ask (.countPlan plan.id) (failed about)))
  else return none

/-- Turns the request down if one more instance of the plan would break a limit. -/
def requireQuota (config : BrokerConfig) (about : Correlation) (plan : Plan) :
    Procedure BrokerError Unit := do
  match ← countInstances config about plan with
  | none => return ()
  | some counts =>
    match Quota.check plan config.offering.plans counts config.offering.globalLimits with
    | .ok () => return ()
    | .error violations => refuse (.ofQuota about violations)

/-- A context for a deploy: a new one if the plan runs an errand after it, else the empty one. -/
def deployContext (plan : Plan) : Procedure BrokerError String :=
  if plan.postDeployErrand?.isSome then fresh else return ""

/-- The operation data of a deploy that was submitted. Plan and errand are only carried along with a
context. -/
def deployData (kind : OperationKind) (taskId : TaskId) (contextId : String) (plan : Plan) :
    OperationData :=
  if contextId.isEmpty then { kind, taskId }
  else
    { kind, taskId, contextId, planId := some plan.id, postDeployErrand := plan.postDeployErrand? }

/-- Writes down that an operation with a task was accepted. -/
def noteAccepted (operation : String) (about : Correlation) (taskId : TaskId) :
    Procedure BrokerError Unit :=
  note (Log.operationEvent operation about.instanceId about.requestId "accepted"
    (some ("task " ++ taskId.repr)))

/-- Writes down that an operation without a task was carried out. -/
def noteSucceeded (operation : String) (about : Correlation) : Procedure BrokerError Unit :=
  note (Log.operationEvent operation about.instanceId about.requestId "succeeded" none)

/-- Removes the configuration and the secrets that a deployment left behind. -/
def cleanUp (about : Correlation) (deployment : String) : Procedure BrokerError Unit := do
  ask (.deleteConfigs deployment) (failed about)
  ask (.deleteSecrets deployment) fun (e : SecretsError) =>
    refuse (.generic about
      ("error deleting secrets for deployment " ++ deployment ++ ": " ++ e.message))
  info "removed configs and secrets" [("deployment", .plain deployment)]

/-- The request that an operation's events belong to. -/
def spanOf (instanceId requestId : String) (kind : OperationKind) : Log.Span :=
  { requestId, instanceId, kind }

end Steps

end ServiceBroker
