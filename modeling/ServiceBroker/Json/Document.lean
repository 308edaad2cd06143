/-! JSON texts as trees. A document keeps what a text says before anyone decides what it means: the
order of members, members that repeat a name, and numbers digit by digit. -/
namespace ServiceBroker.Json

/-- The sign written in front of an exponent. -/
inductive ExponentSign where
  | none
  | plus
  | minus
  deriving DecidableEq, Inhabited

/-- A number as its digits stand in the text. No digits after the point means no point, and no
digits in the exponent means no exponent. -/
structure Numeral where
  negative : Bool
  whole : List Char
  fraction : List Char
  exponentSign : ExponentSign
  exponent : List Char
  deriving DecidableEq, Inhabited

namespace Numeral

/-- The numeral of a natural number: its decimal digits, without a leading zero. -/
def ofNat (n : Nat) : Numeral := ⟨false, Nat.toDigits 10 n, [], .none, []⟩

def ofInt (n : Int) : Numeral := ⟨decide (n < 0), Nat.toDigits 10 n.natAbs, [], .none, []⟩

def isWhole (n : Numeral) : Bool := n.fraction.isEmpty && n.exponent.isEmpty

/-- The natural number of a numeral without sign, point and exponent. -/
def toNat? (n : Numeral) : Option Nat :=
  if n.isWhole && !n.negative then some (Nat.ofDigitChars 10 n.whole 0) else none

end Numeral

/-- A piece of text in quotes. It has no characters to speak of when an escape in it names one half
of a surrogate pair without the other. -/
abbrev Quoted := Option String

/-- A JSON text as a tree. -/
inductive Document where
  | null
  | bool (b : Bool)
  | number (n : Numeral)
  | string (text : Quoted)
  | array (items : List Document)
  | object (members : List (Quoted × Document))
  deriving Inhabited

namespace Document

def text (s : String) : Document := .string (some s)

def nat (n : Nat) : Document := .number (.ofNat n)

/-- The object with the given members, in the given order. -/
def record (members : List (String × Document)) : Document :=
  .object (members.map fun m => (some m.1, m.2))

/-- The value of a member, of the first one if several have the name. -/
def member? (name : String) : Document → Option Document
  | .object members => (members.find? fun m => m.1 == some name).map Prod.snd
  | _ => none

end Document

end ServiceBroker.Json
