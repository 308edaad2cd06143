/-! White space as Unicode defines it. Identifiers, names and tokens made of nothing else count as
not given, so every check for a missing text asks `isBlankText`. -/
namespace ServiceBroker.Text

/-- A character has the Unicode property White_Space. -/
def isBlank (c : Char) : Bool :=
  let n := c.toNat
  (9 ≤ n && n ≤ 13) || n == 32 || n == 0x85 || n == 0xa0 || n == 0x1680 ||
    (0x2000 ≤ n && n ≤ 0x200a) || n == 0x2028 || n == 0x2029 || n == 0x202f || n == 0x205f ||
    n == 0x3000

/-- A text holds white space only; the empty text does. -/
def isBlankText (s : String) : Bool := s.toList.all isBlank

end ServiceBroker.Text
