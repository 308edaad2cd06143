/-! Identifiers that nobody used before. They have the shape of random identifiers of version 4,
five groups of lower-case hexadecimal digits, and differ in the last group, which counts. -/
namespace ServiceBroker.Identifier

/-- A number in hexadecimal digits, at least twelve of them. -/
def lastGroup (n : Nat) : List Char :=
  let digits := Nat.toDigits 16 n
  List.replicate (12 - digits.length) '0' ++ digits

def nth (n : Nat) : String := "b10c4e7a-5d02-4f6e-9a31-" ++ String.ofList (lastGroup n)

end ServiceBroker.Identifier
