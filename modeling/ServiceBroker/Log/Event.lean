import ServiceBroker.Operation.Kind

/-! Log events: a message with named values, inside the request that was being served. -/
namespace ServiceBroker.Log

/-- How much an event matters. -/
inductive Level where
  | error
  | warn
  | info
  | debug
  | trace
  deriving DecidableEq, Inhabited

namespace Level

/-- The place of a level, the most urgent first. -/
def rank : Level → Nat
  | error => 0
  | warn => 1
  | info => 2
  | debug => 3
  | trace => 4

def word : Level → String
  | error => "error"
  | warn => "warn"
  | info => "info"
  | debug => "debug"
  | trace => "trace"

def capitals : Level → String
  | error => "ERROR"
  | warn => "WARN"
  | info => "INFO"
  | debug => "DEBUG"
  | trace => "TRACE"

/-- An event of the level passes a filter that lets `threshold` and what is more urgent through. -/
def passes (level threshold : Level) : Bool := level.rank ≤ threshold.rank

end Level

/-- The value of a field. A text is written as it is or in quotes. -/
inductive FieldValue where
  | plain (text : String)
  | quoted (text : String)
  | number (n : Nat)
  | flag (b : Bool)
  deriving DecidableEq, Inhabited

/-- The request that was being served when an event happened. -/
structure Span where
  requestId : String
  instanceId : String
  kind : OperationKind
  deriving DecidableEq, Inhabited

/-- Something that happened. -/
structure Event where
  level : Level
  message : String
  fields : List (String × FieldValue)
  span : Option Span := none
  deriving DecidableEq, Inhabited

/-- A field that is left out when it has no value. -/
def optional (name : String) (value : Option FieldValue) : List (String × FieldValue) :=
  value.toList.map fun v => (name, v)

/-- The record of a request that was carried out or accepted. -/
def operationEvent (operation instanceId requestId status : String) (details : Option String) :
    Event :=
  { level := .info
    message := "BROKER_OPERATION"
    fields :=
      [("operation", .plain operation), ("instance_id", .plain instanceId),
        ("request_id", .plain requestId), ("status", .plain status)] ++
      optional "details" (details.map .quoted) }

/-- The record of a failure that no caller is told about. -/
def errorEvent (component operation error : String) (context : Option String) : Event :=
  { level := .error
    message := "ERROR"
    fields :=
      [("component", .plain component), ("operation", .plain operation), ("error", .plain error)] ++
      optional "context" (context.map .quoted) }

end ServiceBroker.Log
