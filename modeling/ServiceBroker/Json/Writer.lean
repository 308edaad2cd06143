import ServiceBroker.Json.Document

/-! Writing documents as JSON text: no space between tokens, members in their order, every character
as it is unless JSON forbids it. -/
namespace ServiceBroker.Json

def hexDigit (n : Nat) : Char := Nat.digitChar n

/-- A character inside quotes: quotes, backslashes and control characters are escaped, with the
short escape where there is one. -/
def escape (c : Char) : List Char :=
  if c == '"' then ['\\', '"']
  else if c == '\\' then ['\\', '\\']
  else if c == '\x08' then ['\\', 'b']
  else if c == '\x0c' then ['\\', 'f']
  else if c == '\n' then ['\\', 'n']
  else if c == '\r' then ['\\', 'r']
  else if c == '\t' then ['\\', 't']
  else if c.toNat < 0x20 then
    ['\\', 'u', '0', '0', hexDigit (c.toNat / 16), hexDigit (c.toNat % 16)]
  else [c]

def quote (s : String) : List Char := '"' :: s.toList.flatMap escape ++ ['"']

/-- A text in quotes, or an escape without a meaning where the text has no characters to speak of.
-/
def Quoted.render : Quoted → List Char
  | some s => quote s
  | none => ['"', '\\', 'u', 'd', '8', '0', '0', '"']

def Numeral.render (n : Numeral) : List Char :=
  (if n.negative then ['-'] else []) ++ n.whole ++
    (if n.fraction.isEmpty then [] else '.' :: n.fraction) ++
    (if n.exponent.isEmpty then [] else
      'e' :: (match n.exponentSign with | .none => [] | .plus => ['+'] | .minus => ['-']) ++
        n.exponent)

mutual

def Document.render : Document → List Char
  | .null => ['n', 'u', 'l', 'l']
  | .bool true => ['t', 'r', 'u', 'e']
  | .bool false => ['f', 'a', 'l', 's', 'e']
  | .number n => n.render
  | .string text => Quoted.render text
  | .array items => '[' :: Document.renderItems items
  | .object members => '\x7b' :: Document.renderMembers members

/-- The values of an array and its closing bracket. -/
def Document.renderItems : List Document → List Char
  | [] => [']']
  | d :: rest => d.render ++ Document.renderMoreItems rest

/-- The values of an array after the first, each behind a comma, and its closing bracket. -/
def Document.renderMoreItems : List Document → List Char
  | [] => [']']
  | d :: rest => ',' :: d.render ++ Document.renderMoreItems rest

/-- The members of an object and its closing brace. -/
def Document.renderMembers : List (Quoted × Document) → List Char
  | [] => ['\x7d']
  | (key, d) :: rest => Quoted.render key ++ ':' :: d.render ++ Document.renderMoreMembers rest

/-- The members of an object after the first, each behind a comma, and its closing brace. -/
def Document.renderMoreMembers : List (Quoted × Document) → List Char
  | [] => ['\x7d']
  | (key, d) :: rest =>
    ',' :: Quoted.render key ++ ':' :: d.render ++ Document.renderMoreMembers rest

end

def Document.toText (d : Document) : String := String.ofList d.render

end ServiceBroker.Json
