/-! A place in a YAML text, and how to move on from it. Line and column matter in YAML: blocks are
told apart by their columns, and a key ends with its line. -/
namespace ServiceBroker.Settings.Yaml

/-- A place in a text. -/
structure Cursor where
  rest : List Char
  line : Nat := 0
  column : Nat := 0
  offset : Nat := 0
  /-- Nothing but white space stands before the place in its line. -/
  atLineStart : Bool := true
  deriving Inhabited

def isBlank (c : Char) : Bool := c == ' ' || c == '\t'

def isBreak (c : Char) : Bool := c == '\n' || c == '\r'

/-- The characters that structure flow collections. -/
def isFlow (c : Char) : Bool :=
  c == ',' || c == '[' || c == ']' || c == '\x7b' || c == '\x7d'

def lineEnds : List Char → Bool
  | [] => true
  | c :: _ => isBreak c

/-- White space, the end of a line or of the text. -/
def wordEnds : List Char → Bool
  | [] => true
  | c :: _ => isBlank c || isBreak c

/-- A character of flow collections comes next. -/
def flowFollows : List Char → Bool
  | [] => false
  | c :: _ => isFlow c

namespace Cursor

def pastBlank (c : Cursor) (n : Nat) : Cursor :=
  { c with rest := c.rest.drop n, column := c.column + n, offset := c.offset + n }

/-- Moves over other characters within a line. -/
def past (c : Cursor) (n : Nat) : Cursor := { c.pastBlank n with atLineStart := false }

/-- Moves over the end of a line. A carriage return with a line feed is one end. -/
def pastBreak (c : Cursor) : Cursor :=
  let n := match c.rest with
    | '\r' :: '\n' :: _ => 2
    | _ => 1
  { rest := c.rest.drop n, line := c.line + 1, column := 0, offset := c.offset + n,
    atLineStart := true }

def pastComment (c : Cursor) : Cursor := c.past (c.rest.takeWhile fun x => !isBreak x).length

/-- Moves over white space and a comment, and says whether the white space held tabs and spaces. A
comment has to stand apart from what is before it. -/
def pastSpace (c : Cursor) : Option (Cursor × Bool × Bool) :=
  let blanks := c.rest.takeWhile isBlank
  let after := c.pastBlank blanks.length
  let found := (blanks.contains '\t', blanks.contains ' ')
  match after.rest with
  | '#' :: _ => if blanks.isEmpty then none else some (after.pastComment, found)
  | _ => some (after, found)

def pastSpace? (c : Cursor) : Option Cursor := c.pastSpace.map Prod.fst

/-- A line of three dashes or dots begins or ends a document. -/
def atMark (c : Cursor) (mark : Char) : Bool :=
  c.column == 0 && (c.rest.take 3 == [mark, mark, mark]) && wordEnds (c.rest.drop 3)

def atDocumentMark (c : Cursor) : Bool := c.atMark '-' || c.atMark '.'

end Cursor

end ServiceBroker.Settings.Yaml
