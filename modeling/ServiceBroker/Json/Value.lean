import ServiceBroker.NameMap
import ServiceBroker.Decimal.Shortest
import ServiceBroker.Json.Document

/-! JSON values that are carried without being interpreted: request parameters and credentials.
Members stand in name order and a name occurs once, the last member of a repeated name being the
one that counts. Whole numbers of a 64-bit word are exact; all others are doubles. -/
namespace ServiceBroker.Json

open Decimal

/-- A number: whole if it is written whole and fits a 64-bit word, else a double. -/
inductive Number where
  | whole (n : Int)
  | real (d : Double)
  deriving DecidableEq, Inhabited

/-- A JSON value. The entries of an object are in name order. -/
inductive Value where
  | null
  | bool (b : Bool)
  | number (n : Number)
  | string (s : String)
  | array (items : List Value)
  | object (entries : List (String × Value))
  deriving Inhabited

/-- One more than the largest number of an unsigned 64-bit word. -/
def wordBound : Nat := twoTo 64

/-- How many arrays and objects may stand inside each other around a value that is kept. -/
def nestingLimit : Nat := 127

namespace Numeral

/-- Leading digits as a number below `wordBound`, and what follows the last digit that fits. -/
def significand (start : Nat) : List Char → Nat × List Char
  | [] => (start, [])
  | c :: rest =>
    let next := start * 10 + (c.toNat - '0'.toNat)
    if next < wordBound then significand next rest else (start, c :: rest)

/-- A double times a power of ten, by multiplying or dividing with doubles that are powers of ten
no larger than ten to the power 308. No value if the result is too large. -/
def scaled (f : Double) (power : Int) : Option Double :=
  let rec go : Nat → Double → Int → Option Double
    | 0, _, _ => some (.zero false)
    | fuel + 1, f, power =>
      match f, Double.ofNat (tenTo (min power.natAbs 308)) with
      | .finite _ m e, .finite _ pm pe =>
        let (n, d) := Double.ratio m e
        let (pn, pd) := Double.ratio pm pe
        if power.natAbs ≤ 308 then
          if 0 ≤ power then
            match Double.ofRatio false (n * pn) (d * pd) with
            | .infinite _ => none
            | product => some product
          else some (.ofRatio false (n * pd) (d * pn))
        else if m == 0 then some f
        else if 0 ≤ power then none
        else go fuel (.ofRatio false (n * pd) (d * pn)) (power + 308)
      | _, _ => none
  go 4 f power

/-- The largest exponent that is told apart from larger ones. -/
def exponentBound : Nat := twoTo 31

/-- The double of a numeral. As many leading digits count as fit a 64-bit word; the others only
move the point if they stand in front of it. No value if the number is too large for a double. -/
def toDouble? (n : Numeral) : Option Double :=
  let (whole, dropped) := significand 0 n.whole
  let (digits, unread) := significand whole n.fraction
  let shift : Int := (dropped.length : Int) - (n.fraction.length - unread.length : Nat)
  let exponent := Nat.ofDigitChars 10 n.exponent 0
  let magnitude :=
    if exponent ≥ exponentBound then
      if digits != 0 && n.exponentSign != .minus then none else some (Double.zero false)
    else
      scaled (Double.ofNat digits)
        (shift + if n.exponentSign == .minus then -(exponent : Int) else exponent)
  magnitude.map fun d => if n.negative then d.neg else d

/-- The number that a numeral denotes, unless it is too large. Minus zero is a double. -/
def toNumber? (n : Numeral) : Option Number :=
  let value := Nat.ofDigitChars 10 n.whole 0
  if n.isWhole && !n.negative && value < wordBound then some (.whole value)
  else if n.isWhole && n.negative && 0 < value && value ≤ twoTo 63 then
    some (.whole (-(value : Int)))
  else n.toDouble?.map .real

/-- The numeral of a finite double: positional between ten to the power -5 and ten to the power 16,
with at least one digit after the point; else with a signed exponent behind the first digit. -/
def ofDouble (negative : Bool) (mantissa : Nat) (exponent : Int) : Numeral :=
  if mantissa == 0 then ⟨negative, ['0'], ['0'], .none, []⟩
  else
    let d := shortest mantissa exponent
    if -5 < d.point && d.point ≤ 16 then
      let (whole, fraction) := d.positional
      ⟨negative, whole, if fraction.isEmpty then ['0'] else fraction, .none, []⟩
    else
      let power := d.point - 1
      ⟨negative, d.digits.take 1, d.digits.drop 1, if power < 0 then .minus else .plus,
        Nat.toDigits 10 power.natAbs⟩

end Numeral

/-- The document of a number. Infinities and what is not a number have no numeral and become null.
-/
def Number.toDocument : Number → Document
  | .whole n => .number (.ofInt n)
  | .real (.finite negative m e) => .number (.ofDouble negative m e)
  | .real _ => .null

namespace Value

mutual

/-- Reads a document as a value around which `depth` arrays and objects are open. -/
def ofDocument (depth : Nat) : Document → Option Value
  | .null => some .null
  | .bool b => some (.bool b)
  | .number n => n.toNumber?.map .number
  | .string text => text.map .string
  | .array items =>
    if depth < nestingLimit then (ofItems (depth + 1) items).map .array else none
  | .object members =>
    if depth < nestingLimit then (ofMembers (depth + 1) [] members).map .object else none

def ofItems (depth : Nat) : List Document → Option (List Value)
  | [] => some []
  | d :: rest => (ofDocument depth d).bind fun v => (ofItems depth rest).map fun vs => v :: vs

/-- Reads the members of an object into entries in name order. -/
def ofMembers (depth : Nat) (entries : List (String × Value)) :
    List (Quoted × Document) → Option (List (String × Value))
  | [] => some entries
  | (key, d) :: rest => key.bind fun k => (ofDocument depth d).bind fun v =>
      ofMembers depth (insertEntry k v entries) rest

end

mutual

def toDocument : Value → Document
  | .null => .null
  | .bool b => .bool b
  | .number n => n.toDocument
  | .string s => .text s
  | .array items => .array (itemDocuments items)
  | .object entries => .object (entryDocuments entries)

/-- The documents of the values of an array. -/
def itemDocuments : List Value → List Document
  | [] => []
  | v :: rest => v.toDocument :: itemDocuments rest

def entryDocuments : List (String × Value) → List (Quoted × Document)
  | [] => []
  | (key, v) :: rest => (some key, v.toDocument) :: entryDocuments rest

end

end Value

end ServiceBroker.Json
