import ServiceBroker.Text.Unprintable

/-! Texts in quotes, for people to read: a quote or a backslash inside is marked with a backslash,
and what would not show is written by its name or its number. -/
namespace ServiceBroker.Text

/-- A character by its number in lower-case hexadecimal digits. -/
def byNumber (c : Char) : List Char := ['\\', 'u', '\x7b'] ++ Nat.toDigits 16 c.toNat ++ ['\x7d']

def showChar (c : Char) : List Char :=
  if c == '"' then ['\\', '"']
  else if c == '\\' then ['\\', '\\']
  else if c == '\n' then ['\\', 'n']
  else if c == '\r' then ['\\', 'r']
  else if c == '\t' then ['\\', 't']
  else if c == '\x00' then ['\\', '0']
  else if isUnprintable c then byNumber c
  else [c]

def quoted (s : String) : String := String.ofList ('"' :: s.toList.flatMap showChar ++ ['"'])

end ServiceBroker.Text
