import ServiceBroker.Text.Blank
import ServiceBroker.Json.Reader
import ServiceBroker.Json.Writer
import ServiceBroker.Operation.Json

/-! Tokens: operation data as the text that the platform keeps and hands back. A token has to name a
backend task, since a poll without one could not look anything up. -/
namespace ServiceBroker

open Json

/-- Why a token could not be used. -/
inductive TokenError where
  /-- Nothing but white space was handed in. -/
  | missing
  /-- The text does not spell operation data. -/
  | malformed (reason : String)
  /-- The operation data name no backend task. -/
  | withoutTask (kind : OperationKind)
  /-- Operation data could not be written. -/
  | unwritable (reason : String)
  deriving DecidableEq, Inhabited

namespace TokenError

def message : TokenError → String
  | missing => "operation data is missing"
  | malformed reason => "operation data is malformed: " ++ reason
  | withoutTask kind => "operation data for a " ++ kind.word ++ " operation has no backend task id"
  | unwritable reason => "failed to encode operation data: " ++ reason

/-- The kind of operation, if the token got far enough to name it. -/
def kind? : TokenError → Option OperationKind
  | withoutTask kind => some kind
  | _ => none

end TokenError

namespace OperationData

def encode (d : OperationData) : String := d.toDocument.toText

def decode (token : String) : Except TokenError OperationData :=
  if Text.isBlankText token then .error .missing
  else match Document.ofString? token with
    | none => .error (.malformed "the text is not JSON")
    | some document => match ofDocument document with
      | none => .error (.malformed "the text holds no operation data")
      | some d => if d.taskId == 0 then .error (.withoutTask d.kind) else .ok d

end OperationData

end ServiceBroker
