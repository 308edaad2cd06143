import ServiceBroker.Decimal.Shortest
import ServiceBroker.Decimal.Text
import ServiceBroker.Form
import ServiceBroker.Settings.Setting
import ServiceBroker.Text.Lower

/-! Settings as a form of data. Sources differ in what they can say, so single values are taken for
what is wanted: numbers and truth values for texts, and texts for numbers. -/
namespace ServiceBroker.Settings

namespace Setting

/-- A single value as a text. Numbers take as few digits as they need and no exponent. -/
def text? : Setting → Option String
  | .text s => some s
  | .flag b => some (if b then "true" else "false")
  | .whole n => some (if n < 0 then "-" ++ n.natAbs.repr else n.natAbs.repr)
  | .real d => some (String.ofList d.positional)
  | .nothing | .list _ | .table _ => none

/-- The number that a word or digits denote. -/
def wordNumber? (s : String) : Option Nat :=
  let word := Text.lower s
  if word = "true" ∨ word = "on" ∨ word = "yes" then some 1
  else if word = "false" ∨ word = "off" ∨ word = "no" then some 0
  else Decimal.word64? s.toList

/-- A single value as a natural number. Fractions are rounded, halves up; nothing is below zero
except whole numbers, which are refused then. -/
def natural? : Setting → Option Nat
  | .text s => wordNumber? s
  | .flag b => some (if b then 1 else 0)
  | .whole n => if 0 ≤ n then some n.toNat else none
  | .real d => some (d.toNatSaturating (Decimal.twoTo 64 - 1))
  | .nothing | .list _ | .table _ => none

/-- A single value as a number of an unsigned 32-bit word. -/
def word32? (s : Setting) : Option UInt32 :=
  s.natural?.bind fun n => if n < Decimal.twoTo 32 then some (UInt32.ofNat n) else none

def isNothing : Setting → Bool
  | .nothing => true
  | _ => false

def list? : Setting → Option (List Setting)
  | .list items => some items
  | _ => none

/-- What a table says about a field, or none if it says it twice. -/
def findField? (names : FieldNames) (entries : List (String × Setting)) : Option (Option Setting) :=
  match entries.filter fun e => names.contains e.1 with
  | [] => some none
  | [(_, s)] => some (some s)
  | _ => none

/-- What a setting says about the fields of a record: a table by their names, a list in their order.
Further entries and items are skipped. -/
def fields? (known : List FieldNames) : Setting → Option (List (Option Setting))
  | .table entries => known.mapM fun names => findField? names entries
  | .list items =>
    some ((items.take known.length).map some ++ List.replicate (known.length - items.length) none)
  | _ => none

end Setting

def form : Form Setting where
  text := Setting.text?
  word32 := Setting.word32?
  isNothing := Setting.isNothing
  list := Setting.list?
  map := Setting.table?
  fields := Setting.fields?

end ServiceBroker.Settings
