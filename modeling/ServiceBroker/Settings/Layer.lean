import ServiceBroker.Settings.Path
import ServiceBroker.Settings.Setting
import ServiceBroker.Text.Lower

/-! Layers of settings. A later source wins over an earlier one, entry by entry where both have
tables. Names of entries become small on the way, at every level that is reached through tables;
what is inside of a list stays as its source wrote it. -/
namespace ServiceBroker.Settings

namespace Setting

mutual

def laidOver : Setting → Setting → Setting
  | .table entries, below => .table (entriesOver entries below.entries)
  | .nothing, _ => .nothing
  | .flag b, _ => .flag b
  | .whole n, _ => .whole n
  | .real d, _ => .real d
  | .text s, _ => .text s
  | .list items, _ => .list items

/-- Entries laid over others, one after the other. -/
def entriesOver : List (String × Setting) → List (String × Setting) → List (String × Setting)
  | [], below => below
  | (name, setting) :: rest, below =>
    let name := Text.lower name
    entriesOver rest
      (insertEntry name (laidOver setting ((findEntry name below).getD .nothing)) below)

end

/-- The place in a list that a number means. -/
def placeIn (length : Nat) (index : Int) : Nat :=
  if 0 ≤ index then index.toNat else length - index.natAbs

/-- Lays a setting over what a path leads to, or puts it into a list as it is. Tables and lists on
the way that are not there come into being, in place of whatever else was there. -/
def put (setting : Setting) : List PathStep → Setting → Setting
  | [], below => setting.laidOver below
  | .name name :: rest, below =>
    let name := Text.lower name
    .table (insertEntry name (put setting rest ((findEntry name below.entries).getD .nothing))
      below.entries)
  | .place index :: rest, below =>
    let place := placeIn below.items.length index
    let items := below.items ++ List.replicate (place + 1 - below.items.length) .nothing
    .list (items.set place
      (if rest.isEmpty then setting else put setting rest (items.getD place .nothing)))

/-- Lays the entries of a source over the settings below it. Their names are paths. -/
def layer (below : Setting) (source : List (String × Setting)) : Setting :=
  source.foldl (fun below (name, setting) => put setting (path name) below) below

end Setting

end ServiceBroker.Settings
