import ServiceBroker.Json.Value

/-! The requests that a broker serves and what it answers them with. -/
namespace ServiceBroker

/-- Parameters of a request: named values that nobody here interprets. -/
abbrev Parameters := NameMap Json.Value

/-- A request for a new instance. -/
structure ProvisionDetails where
  serviceId : String
  planId : String
  organizationGuid : String := ""
  spaceGuid : String := ""
  parameters : Parameters := .empty
  deriving Inhabited

/-- A request to deploy an instance again, with other parameters or onto another plan. -/
structure UpdateDetails where
  serviceId : String
  planId : String
  previousPlanId : String := ""
  parameters : Parameters := .empty
  deriving Inhabited

/-- The request names a plan that the instance is leaving. -/
def UpdateDetails.isPlanChange (d : UpdateDetails) : Bool :=
  !d.previousPlanId.isEmpty && d.previousPlanId != d.planId

/-- A request to delete an instance. -/
structure DeprovisionDetails where
  serviceId : String
  planId : String
  /-- Errands are skipped and the backend is asked to overlook errors. -/
  force : Bool := false
  deriving DecidableEq, Inhabited

/-- A request for credentials. -/
structure BindDetails where
  serviceId : String
  planId : String
  appGuid : Option String := none
  parameters : Parameters := .empty
  deriving Inhabited

/-- A request to revoke credentials. -/
structure UnbindDetails where
  serviceId : String
  planId : String
  deriving DecidableEq, Inhabited

/-- The answer to an accepted request for a new instance. -/
structure ProvisionedService where
  isAsync : Bool
  dashboardUrl : String
  operationData : String
  deriving DecidableEq, Inhabited

/-- The answer to an accepted request for another deploy or for a deletion. -/
structure AcceptedOperation where
  isAsync : Bool
  operationData : String
  deriving DecidableEq, Inhabited

/-- Credentials and routes that the service adapter hands out. -/
structure Binding where
  credentials : Json.Value
  syslogDrainUrl : Option String := none
  routeServiceUrl : Option String := none
  deriving Inhabited

/-- How an operation stands. -/
inductive LastOperationState where
  | inProgress
  | succeeded
  | failed
  deriving DecidableEq, Inhabited

namespace LastOperationState

def text : LastOperationState → String
  | inProgress => "in progress"
  | succeeded => "succeeded"
  | failed => "failed"

def word : LastOperationState → String
  | inProgress => "in_progress"
  | succeeded => "succeeded"
  | failed => "failed"

def ofWord? : String → Option LastOperationState
  | "in_progress" => some inProgress
  | "succeeded" => some succeeded
  | "failed" => some failed
  | _ => none

end LastOperationState

/-- The answer to a poll. -/
structure LastOperation where
  state : LastOperationState
  description : String
  deriving DecidableEq, Inhabited

/-- A deployment, as the backend knows it. -/
structure Deployment where
  name : String
  manifest : String
  deriving DecidableEq, Inhabited

/-- The addresses of the machines of each instance group. -/
abbrev Topology := NameMap (List String)

end ServiceBroker
