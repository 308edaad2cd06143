import ServiceBroker.Failure.Broker
import ServiceBroker.Failure.Collaborator
import ServiceBroker.Lock
import ServiceBroker.Log.Event
import ServiceBroker.Operation.Token
import ServiceBroker.Quota

/-! Refusals: how a failure becomes an error for the caller and a line for the operator. Every
refusal is logged once, with everything that was found out, under the correlation data of its
request. -/
namespace ServiceBroker

/-- An error for the caller together with the line that the operator gets about it. -/
structure Refusal where
  error : BrokerError
  about : Correlation
  text : String
  deriving DecidableEq, Inhabited

/-- What an adapter failure is about. -/
inductive AdapterSubject where
  | serviceInstance
  | binding
  deriving DecidableEq, Inhabited

namespace Refusal

def event (r : Refusal) : Log.Event :=
  { level := .error
    message := r.text
    fields :=
      [("request_id", .plain r.about.requestId), ("service", .plain r.about.service),
        ("instance_id", .plain r.about.instanceId),
        ("operation", .plain ((r.about.kind.map OperationKind.word).getD ""))] ++
      Log.optional "task_id" (r.about.taskId.map .number) }

def sentinel (about : Correlation) (s : Sentinel) (text : String) : Refusal :=
  ⟨.sentinel s, about, text⟩

/-- Shows the caller one text and the operator another. -/
def displayable (about : Correlation) (userText text : String) : Refusal :=
  ⟨.displayable userText text none, about, text⟩

/-- Shows the caller the text of a contract error and the operator the cause. -/
def displayableSentinel (about : Correlation) (s : Sentinel) (text : String) : Refusal :=
  ⟨.displayable s.message text (some s), about, text⟩

/-- Shows the caller nothing but the correlation data. -/
def generic (about : Correlation) (text : String) : Refusal := ⟨.generic about text, about, text⟩

def transient (about : Correlation) (text : String) : Refusal :=
  ⟨.transient ("Currently unable to " ++ (about.kind.map OperationKind.verb).getD "process" ++
    " service instance, please try again later") text, about, text⟩

def conflict (about : Correlation) (text : String) : Refusal := ⟨.conflict text, about, text⟩

/-- The id that the request is about is locked. -/
def locked (about : Correlation) (kind : LockKind) (id : String) : Refusal :=
  conflict about (kind.heldText id)

def ofAdapter (about : Correlation) (subject : AdapterSubject) (e : AdapterError) : Refusal :=
  match e with
  | .alreadyExists => match subject with
    | .serviceInstance => sentinel about .instanceAlreadyExists e.message
    | .binding => sentinel about .bindingAlreadyExists e.message
  | .notFound => match subject with
    | .serviceInstance => sentinel about .instanceDoesNotExist e.message
    | .binding => sentinel about .bindingDoesNotExist e.message
  | .appGuidMissing => sentinel about .appGuidNotProvided e.message
  | .notImplemented => sentinel about .notImplemented e.message
  | .withMessage message => displayable about message message
  | .withoutMessage detail => generic about detail
  | .deadlineExceeded _ => transient about e.message

/-- The deployment backend or the instance counter failed. -/
def ofBackend (about : Correlation) (e : BackendError) : Refusal :=
  match e with
  | .requestFailed _ | .deadlineExceeded _ => transient about e.message
  | .deploymentNotFound _ => sentinel about .instanceDoesNotExist e.message
  | .adapter error => ofAdapter about .serviceInstance error
  | .taskNotFound _ | .unexpected _ => generic about e.message

/-- An operation with several steps could not be taken further. -/
def ofLifecycle (about : Correlation) (e : LifecycleError) : Refusal :=
  match e with
  | .backend error => ofBackend about error
  | .noTasks _ | .unexpectedTasks .. => generic about e.message

/-- A token could not be used. What it was found to be about is kept. -/
def ofToken (about : Correlation) (e : TokenError) : Refusal :=
  generic { about with kind := about.kind.or e.kind? } e.message

def ofQuota (about : Correlation) (violations : List QuotaViolation) : Refusal :=
  displayable about (QuotaViolation.messages violations) (QuotaViolation.messages violations)

end Refusal

end ServiceBroker
