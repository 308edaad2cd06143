import ServiceBroker.Operation.Kind

/-! What a broker answers when it cannot do what it was asked. The caller sees a message that is
safe to show; what really happened is kept apart for the operator. -/
namespace ServiceBroker

/-- The errors that the service broker contract knows by name. -/
inductive Sentinel where
  | instanceAlreadyExists
  | instanceDoesNotExist
  | bindingAlreadyExists
  | bindingDoesNotExist
  | appGuidNotProvided
  | asyncRequired
  | planNotFound (planId : String)
  | notImplemented
  deriving DecidableEq, Inhabited

def Sentinel.message : Sentinel → String
  | instanceAlreadyExists => "instance already exists"
  | instanceDoesNotExist => "instance does not exist"
  | bindingAlreadyExists => "binding already exists"
  | bindingDoesNotExist => "binding does not exist"
  | appGuidNotProvided => "app_guid is a required field but was not provided"
  | asyncRequired =>
    "This service plan requires client support for asynchronous service operations."
  | planNotFound planId => "plan " ++ planId ++ " does not exist"
  | notImplemented => "the service adapter does not implement this operation"

/-- What connects an error with the request it belongs to. -/
structure Correlation where
  service : String
  instanceId : String
  requestId : String
  kind : Option OperationKind := none
  /-- The backend task, once there is one. -/
  taskId : Option Nat := none
  deriving DecidableEq, Inhabited

/-- The message of an error that says nothing but whom to ask about which request. -/
def Correlation.message (c : Correlation) : String :=
  "There was a problem completing your request. Please contact your operations team " ++
    "providing the following information: service: " ++ c.service ++
    ", service-instance-guid: " ++ c.instanceId ++ ", broker-request-id: " ++ c.requestId ++
    (match c.taskId with
      | some id => ", task-id: " ++ id.repr
      | none => "") ++
    (match c.kind with
      | some kind => ", operation: " ++ kind.word
      | none => "")

/-- The ways in which errors are treated. -/
inductive ErrorCategory where
  | transient
  | displayable
  | conflict
  | sentinel
  | generic
  deriving DecidableEq, Inhabited

def ErrorCategory.word : ErrorCategory → String
  | transient => "transient"
  | displayable => "displayable"
  | conflict => "conflict"
  | sentinel => "sentinel"
  | generic => "generic"

/-- Only what passes by itself is worth another try. -/
def ErrorCategory.isRetryable : ErrorCategory → Bool
  | transient => true
  | displayable | conflict | sentinel | generic => false

/-- An error that a broker answers with. -/
inductive BrokerError where
  /-- An error that the contract knows by name. -/
  | sentinel (sentinel : Sentinel)
  /-- A message for the user, which may be that of a contract error. -/
  | displayable (userText operatorText : String) (sentinel : Option Sentinel)
  /-- The backend could not be reached in time; the user is asked to try again. -/
  | transient (userText operatorText : String)
  /-- An error whose cause is not shown, only what it is correlated with. -/
  | generic (about : Correlation) (operatorText : String)
  /-- Another operation is in the way. -/
  | conflict (text : String)
  deriving DecidableEq, Inhabited

namespace BrokerError

def message : BrokerError → String
  | sentinel s => s.message
  | displayable userText _ _ => userText
  | transient userText _ => userText
  | generic about _ => about.message
  | conflict text => text

def operatorText : BrokerError → String
  | sentinel s => s.message
  | displayable _ operatorText _ => operatorText
  | transient _ operatorText => operatorText
  | generic _ operatorText => operatorText
  | conflict text => text

def category : BrokerError → ErrorCategory
  | sentinel _ => .sentinel
  | displayable .. => .displayable
  | transient .. => .transient
  | generic .. => .generic
  | conflict _ => .conflict

def isRetryable (e : BrokerError) : Bool := e.category.isRetryable

/-- The contract error that this error stands for. -/
def sentinel? : BrokerError → Option Sentinel
  | sentinel s => some s
  | displayable _ _ s => s
  | _ => none

end BrokerError

end ServiceBroker
