/-! White space, line ends and comments of TOML texts. Readers of texts say what they read and what
text stands behind it. -/
namespace ServiceBroker.Settings.Toml

/-- What was read, and the text behind it. -/
abbrev Read (α : Type) := Option (Prod α (List Char))

def isBlank (c : Char) : Bool := c == ' ' || c == '\t'

def pastBlanks (text : List Char) : List Char := text.dropWhile isBlank

/-- The text behind a line end, if there is one. -/
def pastBreak? : List Char → Option (List Char)
  | '\n' :: rest => some rest
  | '\r' :: '\n' :: rest => some rest
  | _ => none

/-- The text behind white space and line ends. -/
def pastBlankLines : List Char → List Char
  | '\n' :: rest => pastBlankLines rest
  | '\r' :: '\n' :: rest => pastBlankLines rest
  | c :: rest => if isBlank c then pastBlankLines rest else c :: rest
  | [] => []

/-- A control character other than the tab may stand nowhere. -/
def isControl (c : Char) : Bool := (c.toNat < 0x20 && c != '\t') || c.toNat == 0x7f

/-- The text behind white space and a comment. -/
def pastComment? (text : List Char) : Option (List Char) :=
  match pastBlanks text with
  | '#' :: rest =>
    let comment := rest.takeWhile fun c => c != '\n' && c != '\r'
    if comment.any isControl then none else some (rest.drop comment.length)
  | rest => some rest

/-- The text behind white space, comments and line ends. -/
def pastLines? : Nat → List Char → Option (List Char)
  | 0, _ => none
  | fuel + 1, text => (pastComment? text).bind fun rest =>
      match pastBreak? rest with
      | some rest => pastLines? fuel rest
      | none => some rest

end ServiceBroker.Settings.Toml
