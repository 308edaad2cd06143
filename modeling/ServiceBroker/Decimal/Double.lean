import ServiceBroker.Decimal.Power

/-! Floating-point numbers with 53 significant bits, in exact arithmetic. A finite one is a natural
number times a power of two, and `Double.ofRatio` is the one nearest to a fraction, so whatever
is computed with doubles here is computed exactly first and rounded once. -/
namespace ServiceBroker.Decimal

/-- A floating-point number. A finite one has the value `mantissa * 2 ^ exponent` under its sign. -/
inductive Double where
  | finite (negative : Bool) (mantissa : Nat) (exponent : Int)
  | infinite (negative : Bool)
  | nan
  deriving DecidableEq, Inhabited

/-- The exponent of the smallest positive double. -/
def leastExponent : Int := -1074

/-- The exponent of the largest finite double. -/
def greatestExponent : Int := 971

/-- A quotient rounded to the nearest natural number; a half goes to the even neighbour. -/
def roundHalfEven (num den : Nat) : Nat :=
  let q := num / den
  let twice := 2 * (num % den)
  if twice < den || (twice == den && q % 2 == 0) then q else q + 1

/-- A fraction times a power of two, as numerator and denominator. -/
def scale (num den : Nat) (power : Int) : Nat × Nat :=
  if 0 ≤ power then (num * twoTo power.toNat, den) else (num, den * twoTo (-power).toNat)

namespace Double

def zero (negative : Bool) : Double := .finite negative 0 leastExponent

/-- The double nearest to a fraction; a half goes to the even mantissa, and what is too large for
every finite double is infinite. -/
def ofRatio (negative : Bool) (num den : Nat) : Double :=
  if num == 0 then zero negative
  else
    let guess := max leastExponent ((num.log2 : Int) - (den.log2 : Int) - 53)
    let (n, d) := scale num den (-guess)
    let exponent := if n / d ≥ twoTo 53 then guess + 1 else guess
    let (n, d) := scale num den (-exponent)
    let mantissa := roundHalfEven n d
    let (mantissa, exponent) :=
      if mantissa ≥ twoTo 53 then (twoTo 52, exponent + 1) else (mantissa, exponent)
    if exponent > greatestExponent then .infinite negative else .finite negative mantissa exponent

/-- The double nearest to a natural number. -/
def ofNat (n : Nat) : Double := ofRatio false n 1

/-- The value without its sign, as a fraction. -/
def ratio (mantissa : Nat) (exponent : Int) : Nat × Nat := scale mantissa 1 exponent

def neg : Double → Double
  | .finite negative m e => .finite (!negative) m e
  | .infinite negative => .infinite (!negative)
  | .nan => .nan

/-- The nearest natural number, halves going up; nothing below zero, and nothing above `top`. -/
def toNatSaturating (top : Nat) : Double → Nat
  | .finite false m e =>
    let (n, d) := ratio m e
    min top ((2 * n + d) / (2 * d))
  | .finite true _ _ => 0
  | .infinite false => top
  | .infinite true => 0
  | .nan => 0

end Double

end ServiceBroker.Decimal
