/-! Powers of the two bases in use: two for words and doubles, ten for written numbers. -/
namespace ServiceBroker.Decimal

/-- Two to a power, which is how many values a word of so many bits has. -/
def twoTo (n : Nat) : Nat := Nat.pow 2 n

/-- Ten to a power, which is how many numbers are written in so many digits. -/
def tenTo (n : Nat) : Nat := Nat.pow 10 n

end ServiceBroker.Decimal
