import ServiceBroker.Decimal.Double
import ServiceBroker.NameMap

/-! Settings as a source states them: tables of named settings, lists, and single values that have
not been turned into what the broker needs yet. -/
namespace ServiceBroker.Settings

/-- A setting. The entries of a table are in name order, and a name occurs once. -/
inductive Setting where
  | nothing
  | flag (b : Bool)
  | whole (n : Int)
  | real (d : Decimal.Double)
  | text (s : String)
  | list (items : List Setting)
  | table (entries : List (String × Setting))
  deriving Inhabited

namespace Setting

def emptyTable : Setting := .table []

/-- The entries of a table; everything else has none. -/
def entries : Setting → List (String × Setting)
  | table entries => entries
  | _ => []

def table? : Setting → Option (List (String × Setting))
  | table entries => some entries
  | _ => none

/-- The items of a list; everything else has none. -/
def items : Setting → List Setting
  | list items => items
  | _ => []

end Setting

end ServiceBroker.Settings
