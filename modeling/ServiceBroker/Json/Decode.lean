import ServiceBroker.Form
import ServiceBroker.Json.Value

/-! Reading documents as typed values. A record is written as an object, whose unknown members are
skipped, or as an array of its fields in order. A known field written twice, under whichever of its
names, is refused, and so is an array with more elements than fields. -/
namespace ServiceBroker.Json

/-- A way to read a document as a value; none if the document does not spell one. -/
abbrev Decoder (α : Type) := Document → Option α

/-- The members of an object that are written under one of a field's names. -/
def occurrences (names : FieldNames) (members : List (Quoted × Document)) :
    List (Quoted × Document) :=
  members.filter fun m => m.1.any fun key => names.contains key

/-- What an object says about a field, or none if it says it twice. -/
def findField? (names : FieldNames) (members : List (Quoted × Document)) :
    Option (Option Document) :=
  match occurrences names members with
  | [] => some none
  | [(_, d)] => some (some d)
  | _ => none

/-- What a document says about each field of a record. -/
def Document.fields? (known : List FieldNames) : Document → Option (List (Option Document))
  | .object members =>
    if members.all fun m => m.1.isSome then known.mapM fun names => findField? names members
    else none
  | .array items =>
    if items.length ≤ known.length then
      some (items.map some ++ List.replicate (known.length - items.length) none)
    else none
  | _ => none

namespace Decode

def text : Decoder String
  | .string text => text
  | _ => none

def bool : Decoder Bool
  | .bool b => some b
  | _ => none

/-- A natural number below a bound, written without sign, point and exponent. -/
def natBelow (bound : Nat) : Decoder Nat
  | .number n => n.toNat?.bind fun v => if v < bound then some v else none
  | _ => none

def word32 : Decoder UInt32 := fun d => (natBelow (Decimal.twoTo 32) d).map UInt32.ofNat

def word64 : Decoder Nat := natBelow wordBound

def items? : Document → Option (List Document)
  | .array items => some items
  | _ => none

/-- The members of an object whose names are data. -/
def entries? : Document → Option (List (String × Document))
  | .object members => members.mapM fun (m : Quoted × Document) => m.1.map fun key => (key, m.2)
  | _ => none

def isNull : Document → Bool
  | .null => true
  | _ => false

/-- A value kept as it is, with `depth` arrays and objects open around it. -/
def value (depth : Nat) : Decoder Value := Value.ofDocument depth

/-- One of several words, written as a text or as an object that gives the word the value null. -/
def word {α : Type} (meaning : String → Option α) : Decoder α
  | .string text => text.bind meaning
  | .object [(key, .null)] => key.bind meaning
  | _ => none

end Decode

def form : Form Document where
  text := Decode.text
  word32 := Decode.word32
  isNothing := Decode.isNull
  list := Decode.items?
  map := Decode.entries?
  fields known d := d.fields? known

namespace Decode

/-- A field that has to be there. -/
abbrev required {α : Type} (decode : Decoder α) (field : Option Document) : Option α :=
  Form.required decode field

/-- A field that has a value when it is absent. -/
abbrev orElse {α : Type} (default : α) (decode : Decoder α) (field : Option Document) : Option α :=
  Form.orElse default decode field

/-- A value or null. -/
abbrev nullable {α : Type} (decode : Decoder α) : Decoder (Option α) := form.nullable decode

/-- An array. -/
abbrev list {α : Type} (decode : Decoder α) : Decoder (List α) := form.listOf decode

/-- An object whose member names are data. -/
abbrev map {α : Type} (decode : Decoder α) : Decoder (NameMap α) := form.mapOf decode

end Decode

/-- An object that gives names their values. -/
def Document.ofMap {α : Type} (encode : α → Document) (m : NameMap α) : Document :=
  .record (m.entries.map fun e => (e.1, encode e.2))

def Document.ofOption {α : Type} (encode : α → Document) : Option α → Document
  | none => .null
  | some a => encode a

def Document.ofList {α : Type} (encode : α → Document) (items : List α) : Document :=
  .array (items.map encode)

end ServiceBroker.Json
