import ServiceBroker.Decimal.Text

/-! Paths to settings: names and places in lists, as in `service_catalog.plans[0].id`. -/
namespace ServiceBroker.Settings

/-- A step of a path: into a table by a name, or into a list by a place, which counts from the end
if it is negative. -/
inductive PathStep where
  | name (name : String)
  | place (index : Int)
  deriving DecidableEq, Inhabited

def isNameChar (c : Char) : Bool := c.isAlphanum || c == '_' || c == '-' || c == ' '

/-- White space that may stand around a place. -/
def isPlaceBlank (c : Char) : Bool := c == ' ' || c == '\t'

def place? (text : List Char) : Option Int :=
  let trimmed := ((text.dropWhile isPlaceBlank).reverse.dropWhile isPlaceBlank).reverse
  if trimmed.head? == some '+' then none else Decimal.int64? trimmed

/-- Reads the steps behind the first name of a path. -/
def pathRest? : Nat → List Char → Option (List PathStep)
  | _, [] => some []
  | fuel + 1, '.' :: rest =>
    let name := rest.takeWhile isNameChar
    if name.isEmpty then none
    else
      (pathRest? fuel (rest.dropWhile isNameChar)).map fun steps =>
        .name (String.ofList name) :: steps
  | fuel + 1, '[' :: rest =>
    match rest.dropWhile (· != ']') with
    | [] => none
    | _ :: after => (place? (rest.takeWhile (· != ']'))).bind fun index =>
        (pathRest? fuel after).map fun steps => .place index :: steps
  | _, _ => none

/-- The path that a text spells. A text that spells none is a single name. -/
def path (text : String) : List PathStep :=
  let chars := text.toList
  let name := chars.takeWhile isNameChar
  let steps := if name.isEmpty then none else pathRest? chars.length (chars.dropWhile isNameChar)
  match steps with
  | some steps => .name (String.ofList name) :: steps
  | none => [.name text]

end ServiceBroker.Settings
