import ServiceBroker.Decimal.Text
import ServiceBroker.Json.Reader
import ServiceBroker.Settings.Setting
import ServiceBroker.Settings.Yaml.Cursor

/-! Scalars: texts without quotes, in single or in double quotes. A scalar may go on over several
lines; a line end within it counts as a space, and empty lines as line ends. -/
namespace ServiceBroker.Settings.Yaml

/-- A scalar that is being read, newest characters first. `spaces` is the white space since the last
character; after a line end it no longer counts, and `breaks` counts the line ends after the
first one instead. -/
structure ScalarSoFar where
  text : List Char := []
  spaces : List Char := []
  /-- A line end has been read since the last character. -/
  onNewLine : Bool := false
  /-- The line end is escaped and does not count. -/
  glued : Bool := false
  breaks : Nat := 0

namespace ScalarSoFar

def push (s : ScalarSoFar) (c : Char) : ScalarSoFar := { s with text := c :: s.text }

/-- Settles what the white space since the last character means. -/
def join (s : ScalarSoFar) : ScalarSoFar :=
  let between :=
    if !s.onNewLine then s.spaces
    else if s.breaks > 0 then List.replicate s.breaks '\n'
    else if s.glued then [] else [' ']
  { text := between ++ s.text }

def pushBreak (s : ScalarSoFar) : ScalarSoFar :=
  if s.onNewLine then { s with breaks := s.breaks + 1 }
  else { s with onNewLine := true, spaces := [] }

/-- The characters in the order of the text. -/
def chars (s : ScalarSoFar) : List Char := s.text.reverse

end ScalarSoFar

/-- A character may stand in a scalar without quotes: not a colon before white space, and within
flow collections nothing that structures them. -/
def mayBePlain (inFlow : Bool) : List Char → Bool
  | [] => false
  | ':' :: next => !(wordEnds next || (inFlow && flowFollows next))
  | c :: _ => !(inFlow && isFlow c)

/-- How many characters of a scalar without quotes come next in the line. -/
def plainRun (inFlow : Bool) : List Char → Nat
  | [] => 0
  | c :: next =>
    if isBlank c || isBreak c || !mayBePlain inFlow (c :: next) then 0 else plainRun inFlow next + 1

/-- Reads white space behind a part of a scalar without quotes, up to what follows it. Tabs may not
stand for indentation in front of further text; in front of a comment they may, and the end of such
a line counts as the first one again. -/
def plainSpace (indent : Int) : Nat → Cursor → ScalarSoFar → Option (Cursor × ScalarSoFar)
  | 0, _, _ => none
  | fuel + 1, cursor, s =>
    match cursor.rest with
    | [] => some (cursor, s)
    | c :: _ =>
      if isBreak c then plainSpace indent fuel cursor.pastBreak s.pushBreak
      else if !isBlank c then some (cursor, s)
      else if !s.onNewLine then
        plainSpace indent fuel (cursor.pastBlank 1) { s with spaces := c :: s.spaces }
      else if c == '\t' && (cursor.column : Int) < indent then
        cursor.pastSpace?.bind fun after =>
          if lineEnds after.rest then
            plainSpace indent fuel after { s with onNewLine := after.atLineStart }
          else none
      else plainSpace indent fuel (cursor.pastBlank 1) s

/-- A dash that stands in front of what structures flow collections. -/
def dashBeforeFlow : List Char → Bool
  | '-' :: next => flowFollows next
  | _ => false

/-- Reads a scalar without quotes. Outside of flow collections it ends before a line that is not
indented more than the block around it; inside of them, none of its words is a dash that the
collection goes on behind. -/
def plainScalar (inFlow : Bool) (indent : Int) :
    Nat → Cursor → ScalarSoFar → Option (Cursor × ScalarSoFar)
  | 0, _, _ => none
  | fuel + 1, cursor, s =>
    if cursor.atDocumentMark || cursor.rest.head? == some '#' then some (cursor, s)
    else if inFlow && dashBeforeFlow cursor.rest then none
    else
      let n := plainRun inFlow cursor.rest
      let (cursor, s) :=
        if n == 0 then (cursor, s)
        else (cursor.past n, { s.join with text := (cursor.rest.take n).reverse ++ s.join.text })
      if !wordEnds cursor.rest || cursor.rest.isEmpty then some (cursor, s)
      else
        (plainSpace indent (cursor.rest.length + 1) cursor s).bind fun (cursor, s) =>
          if !inFlow && (cursor.column : Int) < indent then some (cursor, s)
          else plainScalar inFlow indent fuel cursor s

/-- The character of an escape sequence without digits. -/
def escapedChar? : Char → Option Char
  | '0' => some '\x00'
  | 'a' => some '\x07'
  | 'b' => some '\x08'
  | 't' => some '\t'
  | '\t' => some '\t'
  | 'n' => some '\n'
  | 'v' => some '\x0b'
  | 'f' => some '\x0c'
  | 'r' => some '\r'
  | 'e' => some '\x1b'
  | ' ' => some ' '
  | '"' => some '"'
  | '/' => some '/'
  | '\\' => some '\\'
  | 'N' => some (Char.ofNat 0x85)
  | '_' => some (Char.ofNat 0xa0)
  | 'L' => some (Char.ofNat 0x2028)
  | 'P' => some (Char.ofNat 0x2029)
  | _ => none

def hexNumber? (digits : List Char) : Option Nat :=
  digits.foldl (fun n c => n.bind fun n => (Json.hexValue? c).map fun d => n * 16 + d) (some 0)

/-- The character that a number stands for. -/
def charOf? (n : Nat) : Option Char := if n.isValidChar then some (Char.ofNat n) else none

/-- Reads what follows a backslash: the character meant, and how many characters were read. -/
def escapeSequence? : List Char → Option (Char × Nat)
  | [] => none
  | mark :: rest =>
    let coded (count : Nat) : Option (Char × Nat) :=
      if rest.length < count then none
      else (hexNumber? (rest.take count)).bind fun n => (charOf? n).map fun c => (c, count + 1)
    match mark with
    | 'x' => coded 2
    | 'u' => coded 4
    | 'U' => coded 8
    | _ => (escapedChar? mark).map fun c => (c, 1)

/-- Reads a scalar in quotes, from behind the opening quote to behind the closing one. Further lines
are indented at least as much as the block around it; only a closing quote may begin a line below an
escaped line end at any column. -/
def quotedScalar (single : Bool) (indent : Int) :
    Nat → Cursor → ScalarSoFar → Option (Cursor × ScalarSoFar)
  | 0, _, _ => none
  | fuel + 1, cursor, s =>
    let again := quotedScalar single indent fuel
    match cursor.rest with
    | [] => none
    | c :: next =>
      let outside := decide ((cursor.column : Int) < indent)
      if isBreak c then again cursor.pastBreak s.pushBreak
      else if isBlank c then
        if !s.onNewLine then again (cursor.pastBlank 1) { s with spaces := c :: s.spaces }
        else if c == '\t' && outside then none
        else again (cursor.pastBlank 1) s
      else if outside || cursor.atDocumentMark then none
      else
        let s := s.join
        if single then
          if c != '\'' then again (cursor.past 1) (s.push c)
          else if next.head? == some '\'' then again (cursor.past 2) (s.push '\'')
          else some (cursor.past 1, s)
        else if c == '"' then some (cursor.past 1, s)
        else if c != '\\' then again (cursor.past 1) (s.push c)
        else if !next.isEmpty && lineEnds next then
          let below := (cursor.past 1).pastBreak
          if below.rest.head? == some '"' then some (below.past 1, s)
          else again below { s with onNewLine := true, glued := true }
        else (escapeSequence? next).bind fun (meant, n) =>
          again (cursor.past (n + 1)) (s.push meant)

/-- A whole number in digits of a base, with an optional sign. -/
def wholeInBase? (base : Nat) (text : List Char) : Option Int :=
  let (negative, digits) := Decimal.splitSign text
  if digits.isEmpty then none
  else
    let value := digits.foldl (fun n c => n.bind fun n =>
      (Json.hexValue? c).bind fun d => if d < base then some (n * base + d) else none) (some 0)
    value.bind fun n =>
      if negative then (if n ≤ Decimal.twoTo 63 then some (-(n : Int)) else none)
      else if n < Decimal.twoTo 63 then some (n : Int) else none

/-- The whole number that a scalar without quotes denotes. -/
def wholeScalar? (text : List Char) : Option Int :=
  match text with
  | '0' :: 'x' :: digits => (wholeInBase? 16 digits).or (Decimal.int64? text)
  | '0' :: 'o' :: digits => (wholeInBase? 8 digits).or (Decimal.int64? text)
  | '+' :: digits => (Decimal.int64? digits).or (Decimal.int64? text)
  | _ => Decimal.int64? text

/-- The words for infinity and for what is not a number that begin with a point. They are numbers,
but no number that can be used. -/
def unusableNumbers : List (List Char) :=
  ["inf", "Inf", "INF"].flatMap (fun w =>
    ['.' :: w.toList, '+' :: '.' :: w.toList, '-' :: '.' :: w.toList]) ++
    [['.', 'n', 'a', 'n'], ['.', 'N', 'A', 'N']]

/-- The setting that a scalar without quotes denotes: nothing, a truth value, a number or a text. -/
def plainSetting? (text : List Char) : Option Setting :=
  if text.isEmpty || text == ['~'] || text == ['n', 'u', 'l', 'l'] then some .nothing
  else if text == ['t', 'r', 'u', 'e'] then some (.flag true)
  else if text == ['f', 'a', 'l', 's', 'e'] then some (.flag false)
  else match wholeScalar? text with
    | some n => some (.whole n)
    | none =>
      if unusableNumbers.contains text then none
      else match Decimal.double? text with
        | some d => some (.real d)
        | none => some (.text (String.ofList text))

end ServiceBroker.Settings.Yaml
