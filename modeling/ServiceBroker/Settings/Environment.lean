import ServiceBroker.Decimal.Text
import ServiceBroker.Settings.Setting
import ServiceBroker.Text.Lower

/-! Settings from environment variables. A variable gives a setting if its name begins with the
broker's mark; the rest of the name is a path with doubled underscores between its parts. What looks
like a truth value or a number is one. -/
namespace ServiceBroker.Settings

/-- The variables of an environment. -/
abbrev Variables := NameMap String

/-- The variable that names the environment which the broker runs in. -/
def environmentVariable : String := "BROKER_ENV"

/-- What the names of variables with settings begin with. -/
def variableMark : List Char := "broker__".toList

def pointed : List Char → List Char
  | '_' :: '_' :: rest => '.' :: pointed rest
  | c :: rest => c :: pointed rest
  | [] => []

/-- The path of a variable, if it gives a setting. Capitals count as small letters. -/
def variablePath? (name : String) : Option String :=
  let chars := (Text.lower name).toList
  if variableMark.isPrefixOf chars then
    some (String.ofList (pointed (chars.drop variableMark.length)))
  else none

/-- The setting that the value of a variable denotes. -/
def variableSetting (value : String) : Setting :=
  let word := Text.lower value
  if word = "true" then .flag true
  else if word = "false" then .flag false
  else match Decimal.int64? value.toList with
    | some n => .whole n
    | none => match Decimal.double? value.toList with
      | some d => .real d
      | none => .text value

def ofVariables (vars : Variables) : List (String × Setting) :=
  vars.entries.filterMap fun (name, value) =>
    (variablePath? name).map fun path => (path, variableSetting value)

end ServiceBroker.Settings
