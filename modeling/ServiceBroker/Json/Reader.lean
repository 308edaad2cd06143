import ServiceBroker.Json.Document

/-! Reading JSON text one character at a time. What has been read so far is a state: what may come
next, and the arrays and objects that are still open around it. Nesting costs a list entry and no
call depth, so a text may nest as deep as it is long. The text is well formed when the state after
its last character holds one finished document. -/
namespace ServiceBroker.Json

/-- An open array or object around the place that is being read, newest element first. -/
inductive Frame where
  | items (before : List Document)
  | member (before : List (Quoted × Document)) (key : Quoted)

/-- The characters read of a text in quotes, newest first. `half` is a leading half of a surrogate
pair that waits for the other one; `sound` turns false for good when a half stays alone. -/
structure TextSoFar where
  chars : List Char
  half : Option Nat
  sound : Bool

/-- How far the reading of an escape sequence has come. -/
inductive Escape where
  | none
  | begun
  | unit (digits : Nat) (value : Nat)

/-- Which part of a number was read last. -/
inductive NumeralPart where
  | minus
  | zero
  | whole
  | point
  | fraction
  | exponentMark
  | exponentSign
  | exponent

/-- What may come next. -/
inductive Mode where
  /-- A value has to come. -/
  | value
  /-- A value or the end of an array that was just opened. -/
  | firstItem
  /-- The end of an array or a comma after one of its values. -/
  | afterItem (before : List Document)
  /-- A key or the end of an object that was just opened. -/
  | firstKey
  /-- A key has to come. -/
  | nextKey (before : List (Quoted × Document))
  /-- A key is being read. -/
  | key (before : List (Quoted × Document)) (text : TextSoFar) (escape : Escape)
  /-- A colon has to come. -/
  | colon (before : List (Quoted × Document)) (key : Quoted)
  /-- The end of an object or a comma after one of its members. -/
  | afterMember (before : List (Quoted × Document))
  /-- A text value is being read. -/
  | text (text : TextSoFar) (escape : Escape)
  /-- A number is being read; the digits of each of its parts stand newest first. -/
  | number (soFar : Numeral) (part : NumeralPart)
  /-- The rest of `null`, `true` or `false`. -/
  | word (rest : List Char) (meaning : Document)
  /-- The document is complete; only white space may follow. -/
  | finished (document : Document)

/-- What may come next, and the open arrays and objects around it, innermost first. -/
structure ReaderState where
  mode : Mode
  frames : List Frame

namespace ReaderState

def start : ReaderState := ⟨.value, []⟩

/-- A value has ended: it joins the innermost open array or object, or is the whole document. -/
def complete (document : Document) : List Frame → ReaderState
  | [] => ⟨.finished document, []⟩
  | .items before :: frames => ⟨.afterItem (document :: before), frames⟩
  | .member before key :: frames => ⟨.afterMember ((key, document) :: before), frames⟩

end ReaderState

def isSpace (c : Char) : Bool := c == ' ' || c == '\n' || c == '\t' || c == '\r'

namespace TextSoFar

def empty : TextSoFar := ⟨[], none, true⟩

/-- Adds a character. A half pair in front of it stays alone. -/
def push (t : TextSoFar) (c : Char) : TextSoFar := ⟨c :: t.chars, none, t.sound && t.half.isNone⟩

/-- Adds a UTF-16 unit. Two halves in the right order are one character. -/
def pushUnit (t : TextSoFar) (unit : Nat) : TextSoFar :=
  if 0xdc00 ≤ unit && unit ≤ 0xdfff then
    match t.half with
    | some high =>
      ⟨Char.ofNat (0x10000 + (high - 0xd800) * 0x400 + (unit - 0xdc00)) :: t.chars, none, t.sound⟩
    | none => { t with sound := false }
  else if 0xd800 ≤ unit && unit ≤ 0xdbff then
    { t with half := some unit, sound := t.sound && t.half.isNone }
  else t.push (Char.ofNat unit)

def close (t : TextSoFar) : Quoted :=
  if t.sound && t.half.isNone then some (String.ofList t.chars.reverse) else none

end TextSoFar

def hexValue? (c : Char) : Option Nat :=
  if c.isDigit then some (c.toNat - '0'.toNat)
  else if 'a' ≤ c && c ≤ 'f' then some (c.toNat - 'a'.toNat + 10)
  else if 'A' ≤ c && c ≤ 'F' then some (c.toNat - 'A'.toNat + 10)
  else none

/-- The character that a letter after a backslash stands for. -/
def escaped? : Char → Option Char
  | '"' => some '"'
  | '\\' => some '\\'
  | '/' => some '/'
  | 'b' => some '\x08'
  | 'f' => some '\x0c'
  | 'n' => some '\n'
  | 'r' => some '\r'
  | 't' => some '\t'
  | _ => none

/-- What one more character does to a text in quotes. -/
inductive TextStep where
  | more (text : TextSoFar) (escape : Escape)
  | closed (text : Quoted)

/-- Reads one character of a text in quotes. Control characters have to be escaped. -/
def TextSoFar.step (t : TextSoFar) (escape : Escape) (c : Char) : Option TextStep :=
  match escape with
  | .none =>
    if c == '"' then some (.closed t.close)
    else if c == '\\' then some (.more t .begun)
    else if c.toNat < 0x20 then none
    else some (.more (t.push c) .none)
  | .begun =>
    if c == 'u' then some (.more t (.unit 0 0))
    else (escaped? c).map fun meant => .more (t.push meant) .none
  | .unit digits value =>
    (hexValue? c).map fun digit =>
      if digits == 3 then .more (t.pushUnit (value * 16 + digit)) .none
      else .more t (.unit (digits + 1) (value * 16 + digit))

namespace Numeral

/-- The numeral read, its digits put in the order of the text. -/
def close (n : Numeral) : Numeral :=
  { n with
    whole := n.whole.reverse
    fraction := n.fraction.reverse
    exponent := n.exponent.reverse }

/-- Reads one more character of a number, if it can belong to the number. A leading zero takes no
further digits in front of the point. -/
def step (n : Numeral) (part : NumeralPart) (c : Char) : Option (Numeral × NumeralPart) :=
  match part with
  | .minus =>
    if c == '0' then some ({ n with whole := [c] }, .zero)
    else if c.isDigit then some ({ n with whole := [c] }, .whole)
    else none
  | .zero =>
    if c == '.' then some (n, .point)
    else if c == 'e' || c == 'E' then some (n, .exponentMark)
    else none
  | .whole =>
    if c.isDigit then some ({ n with whole := c :: n.whole }, .whole)
    else if c == '.' then some (n, .point)
    else if c == 'e' || c == 'E' then some (n, .exponentMark)
    else none
  | .point =>
    if c.isDigit then some ({ n with fraction := c :: n.fraction }, .fraction) else none
  | .fraction =>
    if c.isDigit then some ({ n with fraction := c :: n.fraction }, .fraction)
    else if c == 'e' || c == 'E' then some (n, .exponentMark)
    else none
  | .exponentMark =>
    if c.isDigit then some ({ n with exponent := [c] }, .exponent)
    else if c == '+' then some ({ n with exponentSign := .plus }, .exponentSign)
    else if c == '-' then some ({ n with exponentSign := .minus }, .exponentSign)
    else none
  | .exponentSign =>
    if c.isDigit then some ({ n with exponent := [c] }, .exponent) else none
  | .exponent =>
    if c.isDigit then some ({ n with exponent := c :: n.exponent }, .exponent) else none

end Numeral

def NumeralPart.mayEnd : NumeralPart → Bool
  | .zero | .whole | .fraction | .exponent => true
  | .minus | .point | .exponentMark | .exponentSign => false

namespace ReaderState

def beginValue (frames : List Frame) (c : Char) : Option ReaderState :=
  if c == '"' then some ⟨.text .empty .none, frames⟩
  else if c == '[' then some ⟨.firstItem, frames⟩
  else if c == '\x7b' then some ⟨.firstKey, frames⟩
  else if c == 'n' then some ⟨.word ['u', 'l', 'l'] .null, frames⟩
  else if c == 't' then some ⟨.word ['r', 'u', 'e'] (.bool true), frames⟩
  else if c == 'f' then some ⟨.word ['a', 'l', 's', 'e'] (.bool false), frames⟩
  else if c == '-' then some ⟨.number ⟨true, [], [], .none, []⟩ .minus, frames⟩
  else if c == '0' then some ⟨.number ⟨false, [c], [], .none, []⟩ .zero, frames⟩
  else if c.isDigit then some ⟨.number ⟨false, [c], [], .none, []⟩ .whole, frames⟩
  else none

/-- Reads one character outside of texts, numbers and words. -/
def structural (mode : Mode) (frames : List Frame) (c : Char) : Option ReaderState :=
  if isSpace c then some ⟨mode, frames⟩
  else match mode with
  | .value => beginValue frames c
  | .firstItem =>
    if c == ']' then some (complete (.array []) frames)
    else beginValue (.items [] :: frames) c
  | .afterItem before =>
    if c == ',' then some ⟨.value, .items before :: frames⟩
    else if c == ']' then some (complete (.array before.reverse) frames)
    else none
  | .firstKey =>
    if c == '"' then some ⟨.key [] .empty .none, frames⟩
    else if c == '\x7d' then some (complete (.object []) frames)
    else none
  | .nextKey before => if c == '"' then some ⟨.key before .empty .none, frames⟩ else none
  | .colon before key => if c == ':' then some ⟨.value, .member before key :: frames⟩ else none
  | .afterMember before =>
    if c == ',' then some ⟨.nextKey before, frames⟩
    else if c == '\x7d' then some (complete (.object before.reverse) frames)
    else none
  | _ => none

def step (s : ReaderState) (c : Char) : Option ReaderState :=
  match s.mode with
  | .key before text escape =>
    (text.step escape c).map fun
      | .more text escape => ⟨.key before text escape, s.frames⟩
      | .closed key => ⟨.colon before key, s.frames⟩
  | .text text escape =>
    (text.step escape c).map fun
      | .more text escape => ⟨.text text escape, s.frames⟩
      | .closed text => complete (.string text) s.frames
  | .number soFar part =>
    match soFar.step part c with
    | some (soFar, part) => some ⟨.number soFar part, s.frames⟩
    | none =>
      if part.mayEnd then
        let after := complete (.number soFar.close) s.frames
        structural after.mode after.frames c
      else none
  | .word [] _ => none
  | .word (expected :: rest) meaning =>
    if c == expected then
      if rest.isEmpty then some (complete meaning s.frames) else some ⟨.word rest meaning, s.frames⟩
    else none
  | mode => structural mode s.frames c

/-- Reads the characters of a text in turn. -/
def run (s : ReaderState) : List Char → Option ReaderState
  | [] => some s
  | c :: rest => (s.step c).bind fun s => s.run rest

/-- The document, if the text may end here. -/
def result? (s : ReaderState) : Option Document :=
  match s.mode with
  | .finished document => some document
  | .number soFar part =>
    if part.mayEnd && s.frames.isEmpty then some (.number soFar.close) else none
  | _ => none

end ReaderState

/-- The document that a text spells, if it is well-formed JSON with nothing around it but space. -/
def Document.read (text : List Char) : Option Document :=
  (ReaderState.start.run text).bind ReaderState.result?

def Document.ofString? (s : String) : Option Document := Document.read s.toList

end ServiceBroker.Json
