import ServiceBroker.Settings.Setting

/-! Tables of a TOML text while it is read. A table comes into being under a header, behind a point
in a key, or because a header names something inside of it, and this decides who may add to it
later. -/
namespace ServiceBroker.Settings.Toml

/-- An entry of a table. A table is `implicit` until a header of its own is read, and `dotted` if it
came from a point in a key. The elements of a list of tables stand newest first. -/
inductive Item where
  | value (setting : Setting)
  | table (implicit dotted : Bool) (entries : List (String × Item))
  | tables (elements : List (List (String × Item)))
  deriving Inhabited

/-- The entries of a table, in the order of the text. -/
abbrev Entries := List (String × Item)

namespace Entries

/-- Changes the entry of a name, or makes one. -/
def alter (name : String) (f : Option Item → Option Item) : Entries → Option Entries
  | [] => (f none).map fun item => [(name, item)]
  | (key, item) :: rest =>
    if key = name then (f (some item)).map fun item => (key, item) :: rest
    else (alter name f rest).map fun rest => (key, item) :: rest

/-- Changes the table that a header leads to. Of a list of tables the newest is meant. -/
def within (f : Entries → Option Entries) : List String → Entries → Option Entries
  | [], entries => f entries
  | name :: rest, entries => entries.alter name fun
    | none => (within f rest []).map fun inner => .table true false inner
    | some (.table implicit dotted inner) =>
      (within f rest inner).map fun inner => .table implicit dotted inner
    | some (.tables (newest :: others)) =>
      (within f rest newest).map fun newest => .tables (newest :: others)
    | some (.tables []) => none
    | some (.value _) => none

/-- Adds a value under a key with points in it. The table in front of the last part has to come from
a point as well, and none of those before it may have a header; of a list of tables the newest is
meant. -/
def assign (setting : Setting) (name : String) : List String → Entries → Option Entries
  | [], entries => entries.alter name fun
    | none => some (.value setting)
    | some _ => none
  | step :: rest, entries => entries.alter step fun
    | none => (assign setting name rest []).map fun inner => .table true true inner
    | some (.table implicit dotted inner) =>
      if implicit && (dotted || !rest.isEmpty) then
        (assign setting name rest inner).map fun inner => .table implicit dotted inner
      else none
    | some (.tables (newest :: others)) =>
      if rest.isEmpty then none
      else (assign setting name rest newest).map fun newest => .tables (newest :: others)
    | some _ => none

/-- Reads the header of a table. No table has two. -/
def openTable (name : String) (entries : Entries) : Option Entries :=
  entries.alter name fun
    | none => some (.table false false [])
    | some (.table true false inner) => some (.table false false inner)
    | some _ => none

/-- Reads the header of a further element of a list of tables. -/
def openElement (name : String) (entries : Entries) : Option Entries :=
  entries.alter name fun
    | none => some (.tables [[]])
    | some (.tables elements) => some (.tables ([] :: elements))
    | some _ => none

end Entries

mutual

def Item.toSetting : Item → Setting
  | .value setting => setting
  | .table _ _ entries => .table (settingsOf [] entries)
  | .tables elements => .list (elementSettings [] elements)

/-- The settings of entries, laid upon those before them. -/
def settingsOf (before : List (String × Setting)) : List (String × Item) → List (String × Setting)
  | [] => before
  | (name, item) :: rest => settingsOf (insertEntry name item.toSetting before) rest

/-- The settings of the elements of a list of tables, the oldest first. -/
def elementSettings (newer : List Setting) : List (List (String × Item)) → List Setting
  | [] => newer
  | element :: older => elementSettings (.table (settingsOf [] element) :: newer) older

end

end ServiceBroker.Settings.Toml
