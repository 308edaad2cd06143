import ServiceBroker.Json.Value
import ServiceBroker.Json.Reader
import ServiceBroker.Settings.Toml.Text
import ServiceBroker.Settings.Yaml.Node

/-! Files with settings. The end of a file's name says in which language its settings are written.
-/
namespace ServiceBroker.Settings

/-- A language for settings. -/
inductive Language where
  | yaml
  | toml
  | json
  deriving DecidableEq, Inhabited

namespace Language

/-- The language that an ending stands for, spelled exactly so. -/
def ofEnding? : String → Option Language
  | "yml" => some yaml
  | "yaml" => some yaml
  | "toml" => some toml
  | "json" => some json
  | _ => none

end Language

/-- A file, by its name and what it holds. -/
structure File where
  name : String
  content : String
  deriving DecidableEq, Inhabited

namespace File

/-- What stands behind the last point of a file's name. A point in front of everything else does not
count. -/
def ending? (f : File) : Option String :=
  let chars := f.name.toList.reverse
  match chars.dropWhile (· != '.') with
  | [] => none
  | [_] => none
  | _ => some (String.ofList (chars.takeWhile (· != '.')).reverse)

def language? (f : File) : Option Language := f.ending?.bind Language.ofEnding?

end File

mutual

/-- The setting that a JSON value gives. Whole numbers that do not fit a signed 64-bit word are
rounded. -/
def ofJson : Json.Value → Setting
  | .null => .nothing
  | .bool b => .flag b
  | .number (.whole n) => if n < Decimal.twoTo 63 then .whole n else .real (.ofNat n.toNat)
  | .number (.real d) => .real d
  | .string s => .text s
  | .array items => .list (ofJsonItems items)
  | .object entries => .table (ofJsonEntries entries)

def ofJsonItems : List Json.Value → List Setting
  | [] => []
  | v :: rest => ofJson v :: ofJsonItems rest

/-- The settings that the entries of an object give. -/
def ofJsonEntries : List (String × Json.Value) → List (String × Setting)
  | [] => []
  | (name, v) :: rest => (name, ofJson v) :: ofJsonEntries rest

end

def jsonSettings? (text : List Char) : Option Setting :=
  (Json.Document.read text).bind fun document => (Json.Value.ofDocument 0 document).map ofJson

/-- The settings of a text in a language; on the outside there has to be a table. -/
def Language.settings? (language : Language) (text : List Char) :
    Option (List (String × Setting)) :=
  let setting := match language with
    | yaml => Yaml.settings? text
    | toml => Toml.settings? text
    | json => jsonSettings? text
  setting.bind Setting.table?

def File.settings? (f : File) : Option (List (String × Setting)) :=
  f.language?.bind fun language => language.settings? f.content.toList

end ServiceBroker.Settings
