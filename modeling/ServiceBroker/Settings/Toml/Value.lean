import ServiceBroker.Decimal.Text
import ServiceBroker.Json.Reader
import ServiceBroker.Settings.Toml.DateTime
import ServiceBroker.Settings.Toml.Table

/-! Keys and values of TOML texts: strings in four spellings, numbers, truth values, dates, lists and
tables in a line. -/
namespace ServiceBroker.Settings.Toml

/-- The character of an escape sequence, read behind the backslash. -/
def escaped? : List Char → Read Char
  | 'b' :: rest => some ('\x08', rest)
  | 't' :: rest => some ('\t', rest)
  | 'n' :: rest => some ('\n', rest)
  | 'f' :: rest => some ('\x0c', rest)
  | 'r' :: rest => some ('\r', rest)
  | '"' :: rest => some ('"', rest)
  | '\\' :: rest => some ('\\', rest)
  | mark :: rest =>
    let count := if mark == 'u' then 4 else if mark == 'U' then 8 else 0
    if count == 0 || rest.length < count then none
    else
      let number := (rest.take count).foldl (fun n c =>
        n.bind fun n => (Json.hexValue? c).map fun d => n * 16 + d) (some 0)
      number.bind fun n =>
        if n.isValidChar then some (Char.ofNat n, rest.drop count) else none
  | [] => none

/-- A line end with nothing but white space in front of it. -/
def endsLine (text : List Char) : Bool := (pastBreak? (pastBlanks text)).isSome

/-- Reads a string up to its closing quotes, newest characters first. A string in quotes without
escapes is `literal`, one in three quotes goes over several lines and may hold up to two quotes at a
time. -/
def stringBody (literal long : Bool) : Nat → List Char → List Char → Read String
  | 0, _, _ => none
  | fuel + 1, soFar, text =>
    let quote := if literal then '\'' else '"'
    let run := (text.takeWhile (· == quote)).length
    if run > 0 then
      if !long then some (String.ofList soFar.reverse, text.drop 1)
      else if run ≥ 6 then none
      else if run ≥ 3 then
        some (String.ofList (List.replicate (run - 3) quote ++ soFar).reverse, text.drop run)
      else stringBody literal long fuel (List.replicate run quote ++ soFar) (text.drop run)
    else match pastBreak? text with
      | some rest => if long then stringBody literal long fuel ('\n' :: soFar) rest else none
      | none => match text with
        | [] => none
        | c :: rest =>
          if isControl c then none
          else if c == '\\' && !literal then
            if long && endsLine rest then
              stringBody literal long fuel soFar (pastBlankLines rest)
            else (escaped? rest).bind fun (meant, rest) =>
              stringBody literal long fuel (meant :: soFar) rest
          else stringBody literal long fuel (c :: soFar) rest

/-- Reads a string, from its opening quotes. -/
def string? (allowLong : Bool) (text : List Char) : Read String :=
  let body (literal long : Bool) (rest : List Char) : Read String :=
    let rest := if long then (pastBreak? rest).getD rest else rest
    stringBody literal long (rest.length + 1) [] rest
  match text with
  | '"' :: '"' :: '"' :: rest => if allowLong then body false true rest else none
  | '\'' :: '\'' :: '\'' :: rest => if allowLong then body true true rest else none
  | '"' :: rest => body false false rest
  | '\'' :: rest => body true false rest
  | _ => none

def isKeyChar (c : Char) : Bool := c.isAlphanum || c == '_' || c == '-'

def keyPart? (text : List Char) : Read String :=
  match text with
  | '"' :: _ => string? false text
  | '\'' :: _ => string? false text
  | _ =>
    let name := text.takeWhile isKeyChar
    if name.isEmpty then none else some (String.ofList name, text.drop name.length)

/-- How many lists and tables may stand inside each other, and how many parts a key may have. -/
def deepest : Nat := 79

/-- Reads the parts of a key, which have points between them. -/
def keyParts? : Nat → List Char → Read (List String)
  | 0, _ => none
  | fuel + 1, text => (keyPart? (pastBlanks text)).bind fun (part, rest) =>
      match pastBlanks rest with
      | '.' :: rest => (keyParts? fuel rest).map fun (parts, rest) => (part :: parts, rest)
      | rest => some ([part], rest)

def key? (text : List Char) : Read (List String) :=
  (keyParts? (text.length + 1) text).bind fun (parts, rest) =>
    if parts.length ≤ deepest then some (parts, rest) else none

/-- Digits of a base without the underscores, each of which has to stand between two digits. -/
def digits? (isDigit : Char → Bool) (text : List Char) : Option (List Char) :=
  let parts := text.splitOn '_'
  if parts.all fun part => !part.isEmpty && part.all isDigit then some parts.flatten else none

def isNumeric (c : Char) : Bool := c.isDigit || c == '_'

def isUnpadded (digits : List Char) : Bool := digits.length == 1 || digits.head? != some '0'

/-- A whole number of a signed 64-bit word in digits of a base. -/
def wholeInBase? (base : Nat) (text : List Char) : Option Int :=
  let isDigit (c : Char) : Bool := (Json.hexValue? c).any fun d => d < base
  (digits? isDigit text).bind fun digits =>
    let n := digits.foldl (fun n c => n * base + (Json.hexValue? c).getD 0) 0
    if n < Decimal.twoTo 63 then some (n : Int) else none

/-- A number with a point or an exponent. One that is too large for a double is refused, one that is
too far below zero is infinite. -/
def realNumber? (text : List Char) : Option Setting :=
  (Decimal.double? text).bind fun d => if d = .infinite false then none else some (.real d)

def number? (word : List Char) : Option Setting :=
  match word with
  | '0' :: 'x' :: rest => (wholeInBase? 16 rest).map .whole
  | '0' :: 'o' :: rest => (wholeInBase? 8 rest).map .whole
  | '0' :: 'b' :: rest => (wholeInBase? 2 rest).map .whole
  | _ =>
    let (negative, unsigned) := Decimal.splitSign word
    let sign := if negative then ['-'] else []
    if unsigned == ['i', 'n', 'f'] || unsigned == ['n', 'a', 'n'] then
      (Decimal.double? word).map .real
    else
      let whole := unsigned.takeWhile isNumeric
      let rest := unsigned.drop whole.length
      (digits? Char.isDigit whole).bind fun whole =>
        if !isUnpadded whole then none
        else if rest.isEmpty then (Decimal.int64? (sign ++ whole)).map .whole
        else
          let (fraction, exponent) := match rest with
            | '.' :: rest => (rest.takeWhile isNumeric, rest.dropWhile isNumeric)
            | rest => (['0'], rest)
          (digits? Char.isDigit fraction).bind fun fraction =>
            let number (tail : List Char) : Option Setting :=
              realNumber? (sign ++ whole ++ '.' :: fraction ++ tail)
            match exponent with
            | [] => number []
            | mark :: rest =>
              if mark == 'e' || mark == 'E' then
                let (down, power) := Decimal.splitSign rest
                (digits? Char.isDigit power).bind fun power =>
                  number ('e' :: (if down then ['-'] else []) ++ power)
              else none

/-- A character of a number or a truth value. -/
def isWordChar (c : Char) : Bool := c.isAlphanum || c == '_' || c == '+' || c == '-' || c == '.'

def word? (text : List Char) : Read Setting :=
  let word := text.takeWhile isWordChar
  let meaning :=
    if word == "true".toList then some (.flag true)
    else if word == "false".toList then some (.flag false)
    else number? word
  meaning.map fun setting => (setting, text.drop word.length)

/-- Reads a value that is not in quotes, brackets or braces. -/
def bareValue? (text : List Char) : Read Setting :=
  match dateTime? text with
  | some (dateTime, rest) => some (.text (String.ofList dateTime.text), rest)
  | none => word? text

mutual

/-- Reads a value around which `depth` lists and tables are open. -/
def value? (depth : Nat) : Nat → List Char → Read Setting
  | 0, _ => none
  | fuel + 1, text =>
    match text with
    | '"' :: _ => (string? true text).map fun (s, rest) => (.text s, rest)
    | '\'' :: _ => (string? true text).map fun (s, rest) => (.text s, rest)
    | '[' :: rest =>
      if depth < deepest then
        (listItems? (depth + 1) fuel rest).map fun (items, rest) => (.list items, rest)
      else none
    | '\x7b' :: rest =>
      if depth < deepest then
        match pastBlanks rest with
        | '\x7d' :: rest => some (.emptyTable, rest)
        | rest => (members? (depth + 1) fuel [] rest).map fun (entries, rest) =>
            (.table (settingsOf [] entries), rest)
      else none
    | _ => bareValue? text

def listItems? (depth : Nat) : Nat → List Char → Read (List Setting)
  | 0, _ => none
  | fuel + 1, text => (pastLines? (text.length + 1) text).bind fun text =>
      match text with
      | ']' :: rest => some ([], rest)
      | _ => (value? depth fuel text).bind fun (item, rest) =>
          (pastLines? (rest.length + 1) rest).bind fun
            | ']' :: rest => some ([item], rest)
            | ',' :: rest =>
              (listItems? depth fuel rest).map fun (items, rest) => (item :: items, rest)
            | _ => none

/-- Reads the members of a table in a line. -/
def members? (depth : Nat) : Nat → Entries → List Char → Read Entries
  | 0, _, _ => none
  | fuel + 1, entries, text => (key? text).bind fun (parts, rest) =>
      match rest, parts.getLast? with
      | '=' :: rest, some name => (value? depth fuel (pastBlanks rest)).bind fun (setting, rest) =>
          (entries.assign setting name parts.dropLast).bind fun entries =>
            match pastBlanks rest with
            | ',' :: rest => members? depth fuel entries rest
            | '\x7d' :: rest => some (entries, rest)
            | _ => none
      | _, _ => none

end

end ServiceBroker.Settings.Toml
