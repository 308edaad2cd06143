import ServiceBroker.Decimal.Double

/-! Numbers written in ordinary decimal notation: whole numbers in a signed 64-bit word, and doubles
with or without point and exponent. A text that is neither stays a text. -/
namespace ServiceBroker.Decimal

/-- The double nearest to `digits * 10 ^ power`. Powers far outside the range of doubles are
answered without computing them. -/
def Double.ofDecimal (negative : Bool) (digits : Nat) (power : Int) : Double :=
  if digits == 0 then .zero negative
  else
    let top : Int := (Nat.toDigits 10 digits).length + power
    if top > 310 then .infinite negative
    else if top < -330 then .zero negative
    else if 0 ≤ power then .ofRatio negative (digits * tenTo power.toNat) 1
    else .ofRatio negative digits (tenTo (-power).toNat)

/-- A text without an optional sign, and whether the sign was a minus. -/
def splitSign : List Char → Bool × List Char
  | '-' :: rest => (true, rest)
  | '+' :: rest => (false, rest)
  | rest => (false, rest)

/-- A text of decimal digits, at least one. -/
def natural? (text : List Char) : Option Nat :=
  if text.isEmpty || !text.all Char.isDigit then none else some (Nat.ofDigitChars 10 text 0)

/-- A whole number of a signed 64-bit word, with an optional sign. -/
def int64? (text : List Char) : Option Int :=
  let (negative, digits) := splitSign text
  (natural? digits).bind fun n =>
    if negative then (if n ≤ twoTo 63 then some (-(n : Int)) else none)
    else if n < twoTo 63 then some (n : Int) else none

/-- A whole number of an unsigned 64-bit word; a plus sign is allowed. -/
def word64? (text : List Char) : Option Nat :=
  let digits := match text with
    | '+' :: rest => rest
    | rest => rest
  (natural? digits).bind fun n => if n < twoTo 64 then some n else none

/-- The letters of a text, capitals made small. -/
def lowered (text : List Char) : List Char := text.map Char.toLower

/-- A double in decimal notation: digits with an optional point somewhere, an optional exponent, or
the words for infinity and for what is not a number, under an optional sign. -/
def double? (text : List Char) : Option Double :=
  let (negative, rest) := splitSign text
  let word := lowered rest
  if word == ['i', 'n', 'f'] || word == ['i', 'n', 'f', 'i', 'n', 'i', 't', 'y'] then
    some (.infinite negative)
  else if word == ['n', 'a', 'n'] then some .nan
  else
    let whole := rest.takeWhile Char.isDigit
    let rest := rest.dropWhile Char.isDigit
    let (fraction, rest) := match rest with
      | '.' :: rest => (rest.takeWhile Char.isDigit, rest.dropWhile Char.isDigit)
      | rest => ([], rest)
    if whole.isEmpty && fraction.isEmpty then none
    else
      let digits := Nat.ofDigitChars 10 (whole ++ fraction) 0
      match rest with
      | [] => some (.ofDecimal negative digits (-(fraction.length : Int)))
      | mark :: rest =>
        if mark == 'e' || mark == 'E' then
          let (down, power) := splitSign rest
          (natural? power).map fun p =>
            .ofDecimal negative digits ((if down then -(p : Int) else p) - fraction.length)
        else none

end ServiceBroker.Decimal
