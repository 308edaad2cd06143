import ServiceBroker.Json.Decode
import ServiceBroker.Operation.Data

/-! The JSON form of operation data and errands. Empty lists, empty contexts and absent values are
left out when written and may be left out when read. -/
namespace ServiceBroker

open Json

def OperationKind.ofDocument : Decoder OperationKind := Decode.word OperationKind.ofWord?

namespace Errand

/-- The fields of an errand; both may be written with a small first letter. -/
def fields : List FieldNames := [["Name", "name"], ["Instances", "instances"]]

/-- Reads an errand; a missing name is empty. -/
def read {σ : Type} (form : Form σ) (s : σ) : Option Errand :=
  (form.fields fields s).bind fun
    | [name, instances] => do
      return ⟨← Form.orElse "" form.text name,
        ← Form.orElse [] (form.listOf form.text) instances⟩
    | _ => none

def ofDocument : Decoder Errand := read form

def toDocument (e : Errand) : Document :=
  .record <| ("Name", .text e.name) ::
    (if e.instances.isEmpty then [] else [("Instances", .ofList .text e.instances)])

end Errand

namespace OperationData

def fields : List FieldNames :=
  [["OperationType"], ["BackendTaskID"], ["BackendContextID"], ["PlanID"], ["PostDeployErrand"],
    ["PreDeleteErrand"], ["Errands"]]

/-- Reads operation data. Only the kind of operation has to be there. -/
def ofDocument : Decoder OperationData := fun d =>
  (d.fields? fields).bind fun
    | [kind, taskId, contextId, planId, postDeploy, legacy, errands] => do
      return {
        kind := ← Decode.required OperationKind.ofDocument kind
        taskId := ← Decode.orElse 0 Decode.word64 taskId
        contextId := ← Decode.orElse "" Decode.text contextId
        planId := ← Decode.orElse none (Decode.nullable Decode.text) planId
        postDeployErrand := ← Decode.orElse none (Decode.nullable Errand.ofDocument) postDeploy
        legacyErrand := ← Decode.orElse none (Decode.nullable Errand.ofDocument) legacy
        preDeleteErrands := ← Decode.orElse [] (Decode.list Errand.ofDocument) errands }
    | _ => none

/-- A member that is written only if there is a value. -/
def optionalMember {α : Type} (name : String) (encode : α → Document) :
    Option α → List (String × Document)
  | none => []
  | some a => [(name, encode a)]

def toDocument (d : OperationData) : Document :=
  .record <|
    [("OperationType", .text d.kind.word), ("BackendTaskID", .nat d.taskId)] ++
      (if d.contextId.isEmpty then [] else [("BackendContextID", .text d.contextId)]) ++
      optionalMember "PlanID" .text d.planId ++
      optionalMember "PostDeployErrand" Errand.toDocument d.postDeployErrand ++
      optionalMember "PreDeleteErrand" Errand.toDocument d.legacyErrand ++
      (if d.preDeleteErrands.isEmpty then []
        else [("Errands", .ofList Errand.toDocument d.preDeleteErrands)])

end OperationData

end ServiceBroker
