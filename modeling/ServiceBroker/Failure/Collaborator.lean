/-! What can go wrong at the collaborators of a broker: the deployment backend and the instance
counter, the service adapter, and the credential store. -/
namespace ServiceBroker

/-- The text about a call that was cut off by the deadline of its request. -/
def deadlineText (operation : String) : String := "deadline exceeded during " ++ operation

/-- A failure of the service adapter. -/
inductive AdapterError where
  | alreadyExists
  | notFound
  | appGuidMissing
  /-- The adapter has words for the user. -/
  | withMessage (message : String)
  /-- The adapter has nothing that the user may see. -/
  | withoutMessage (detail : String)
  | notImplemented
  | deadlineExceeded (operation : String)
  deriving DecidableEq, Inhabited

def AdapterError.message : AdapterError → String
  | alreadyExists => "service adapter reported that the instance or binding already exists"
  | notFound => "service adapter reported that the binding was not found"
  | appGuidMissing => "service adapter requires an app_guid"
  | withMessage message => message
  | withoutMessage detail => "service adapter failed: " ++ detail
  | notImplemented => "service adapter does not implement this operation"
  | deadlineExceeded operation => deadlineText operation

/-- A failure of the deployment backend or of the instance counter. -/
inductive BackendError where
  /-- The backend could not be reached; a later request may succeed. -/
  | requestFailed (reason : String)
  | deadlineExceeded (operation : String)
  | deploymentNotFound (name : String)
  | taskNotFound (id : Nat)
  /-- The backend asked the adapter for a manifest and got this. -/
  | adapter (error : AdapterError)
  | unexpected (reason : String)
  deriving DecidableEq, Inhabited

def BackendError.message : BackendError → String
  | requestFailed reason => "backend request failed: " ++ reason
  | deadlineExceeded operation => deadlineText operation
  | deploymentNotFound name => "deployment " ++ name ++ " not found"
  | taskNotFound id => "task " ++ id.repr ++ " not found"
  | adapter error => error.message
  | unexpected reason => reason

/-- A failure of the credential store. -/
inductive SecretsError where
  | unavailable (reason : String)
  | unresolvable (secret : String)
  deriving DecidableEq, Inhabited

/-- The text of a credential store failure. -/
def SecretsError.message : SecretsError → String
  | unavailable reason => "credential store unavailable: " ++ reason
  | unresolvable secret => "secret " ++ secret ++ " could not be resolved"

/-- The collaborators of a broker. -/
inductive Collaborator where
  | backend
  | counter
  | adapter
  | secrets
  deriving DecidableEq, Inhabited

namespace Collaborator

def Error : Collaborator → Type
  | backend => BackendError
  | counter => BackendError
  | adapter => AdapterError
  | secrets => SecretsError

/-- The failure of a call that was cut off by the deadline of its request. -/
def expired (operation : String) : (c : Collaborator) → c.Error
  | backend => BackendError.deadlineExceeded operation
  | counter => BackendError.deadlineExceeded operation
  | adapter => AdapterError.deadlineExceeded operation
  | secrets => SecretsError.unavailable (deadlineText operation)

def message : (c : Collaborator) → c.Error → String
  | backend => BackendError.message
  | counter => BackendError.message
  | adapter => AdapterError.message
  | secrets => SecretsError.message

end Collaborator

/-- A failure while an operation with several steps was taken further. -/
inductive LifecycleError where
  /-- The backend knows no task of the operation. -/
  | noTasks (contextId : String)
  /-- The backend knows more tasks of the operation than it has steps. -/
  | unexpectedTasks (contextId : String) (taskIds : List Nat)
  | backend (error : BackendError)
  deriving DecidableEq, Inhabited

def LifecycleError.message : LifecycleError → String
  | noTasks contextId => "no tasks found for context id: " ++ contextId
  | unexpectedTasks contextId taskIds =>
    "unexpected tasks found with context id: " ++ contextId ++ ", tasks: [" ++
      ", ".intercalate (taskIds.map Nat.repr) ++ "]"
  | backend error => error.message

end ServiceBroker
