import ServiceBroker.Settings.Toml.Value

/-! TOML texts as settings. A text is a sequence of headers and assignments, one on a line;
assignments belong to the table of the header before them. -/
namespace ServiceBroker.Settings.Toml

/-- A line of a text. -/
inductive Line where
  | table (path : List String)
  | element (path : List String)
  | assignment (key : List String) (setting : Setting)

def line? (text : List Char) : Read Line :=
  match text with
  | '[' :: '[' :: rest => (key? rest).bind fun
    | (path, ']' :: ']' :: rest) => some (.element path, rest)
    | _ => none
  | '[' :: rest => (key? rest).bind fun
    | (path, ']' :: rest) => some (.table path, rest)
    | _ => none
  | _ => (key? text).bind fun
    | (key, '=' :: rest) =>
      let rest := pastBlanks rest
      (value? 0 (rest.length + 1) rest).map fun (setting, rest) => (.assignment key setting, rest)
    | _ => none

def lines? : Nat → List Char → Option (List Line)
  | 0, _ => none
  | fuel + 1, text => (pastLines? (text.length + 1) text).bind fun text =>
      if text.isEmpty then some []
      else (line? text).bind fun (line, rest) => (pastComment? rest).bind fun rest =>
        if rest.isEmpty then some [line]
        else (pastBreak? rest).bind fun rest => (lines? fuel rest).map fun lines => line :: lines

/-- Carries out a line: `current` is the path of the last header. -/
def obey (current : List String) (entries : Entries) : Line → Option (List String × Entries)
  | .table path => path.getLast?.bind fun name =>
      (entries.within (Entries.openTable name) path.dropLast).map fun entries => (path, entries)
  | .element path => path.getLast?.bind fun name =>
      (entries.within (Entries.openElement name) path.dropLast).map fun entries => (path, entries)
  | .assignment key setting => key.getLast?.bind fun name =>
      (entries.within (Entries.assign setting name key.dropLast) current).map fun entries =>
        (current, entries)

/-- A text without the mark that some editors put in front of it. -/
def unmarked : List Char → List Char
  | c :: rest => if c.toNat = 0xfeff then rest else c :: rest
  | [] => []

def settings? (text : List Char) : Option Setting :=
  let text := unmarked text
  (lines? (text.length + 1) text).bind fun lines =>
    let start : List String × Entries := ([], [])
    (lines.foldlM (fun state line => obey state.1 state.2 line) start).map fun state =>
      .table (settingsOf [] state.2)

end ServiceBroker.Settings.Toml
