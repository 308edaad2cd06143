import ServiceBroker.Decimal.Double

/-! The shortest decimal digits of a double: the fewest digits that lie nearer to it than to every
other double, and of those the digits nearest to it. Grids of one digit, two digits and so on are
tried in turn; if a grid has a point near enough, one of the two points around the value is near
enough, so only those two are looked at. -/
namespace ServiceBroker.Decimal

/-- Digits with the place of the decimal point: the value is `0.d₁d₂…` times ten to the power
`point`. -/
structure Digits where
  digits : List Char
  point : Int
  deriving DecidableEq

/-- The power of ten of the leading digit of a fraction that is not zero. -/
def leadingPower (num den : Nat) : Int :=
  if num / den > 0 then ((Nat.toDigits 10 (num / den)).length : Int) - 1
  else
    let rec climb : Nat → Nat → Int
      | 0, t => -(t : Int)
      | fuel + 1, t => if num * tenTo t / den > 0 then -(t : Int) else climb fuel (t + 1)
    climb 400 1

/-- The numbers between `low` and `high` read back as the value; the ends do too if `closed`. All
three are fractions over `den`. -/
structure Neighbourhood where
  low : Nat
  value : Nat
  high : Nat
  den : Nat
  closed : Bool

/-- The reals that round to a mantissa and exponent. The double below is nearer than the one above
exactly when the mantissa is the least normal one and the exponent can still go down. -/
def neighbourhood (mantissa : Nat) (exponent : Int) : Neighbourhood :=
  let gap := if mantissa == twoTo 52 && exponent > leastExponent then 1 else 2
  let (value, den) := scale (4 * mantissa) 1 (exponent - 2)
  let unit := if exponent - 2 ≥ 0 then twoTo (exponent - 2).toNat else 1
  ⟨value - gap * unit, value, value + 2 * unit, den, mantissa % 2 == 0⟩

/-- A point of a decimal grid, `n` times ten to the power `power`, reads back as the value. -/
def Neighbourhood.admits (h : Neighbourhood) (n : Nat) (power : Int) : Bool :=
  let point := if power ≥ 0 then n * tenTo power.toNat * h.den else n * h.den
  let factor := if power ≥ 0 then 1 else tenTo (-power).toNat
  if h.closed then h.low * factor ≤ point && point ≤ h.high * factor
  else h.low * factor < point && point < h.high * factor

/-- The point of the grid with step ten to the power `power` that reads back as the value and is
nearest to it. -/
def Neighbourhood.onGrid? (h : Neighbourhood) (power : Int) : Option Nat :=
  let num := if power ≥ 0 then h.value else h.value * tenTo (-power).toNat
  let den := if power ≥ 0 then h.den * tenTo power.toNat else h.den
  let below := num / den
  let nearest := roundHalfEven num den
  let other := if nearest == below then below + 1 else below
  if h.admits nearest power then some nearest
  else if h.admits other power then some other
  else none

/-- The shortest digits of a finite double that is not zero. -/
def shortest (mantissa : Nat) (exponent : Int) : Digits :=
  let h := neighbourhood mantissa exponent
  let top := leadingPower h.value h.den
  let rec grids : Nat → Int → Digits
    | 0, power => ⟨Nat.toDigits 10 (h.value / h.den), power⟩
    | fuel + 1, power =>
      match h.onGrid? power with
      | some n =>
        let ds := Nat.toDigits 10 n
        ⟨(ds.reverse.dropWhile (· == '0')).reverse, (ds.length : Int) + power⟩
      | none => grids fuel (power - 1)
  grids 18 top

/-- Digits with a point and zeros put where they belong, and nothing after the point if the number
is whole. -/
def Digits.positional (d : Digits) : List Char × List Char :=
  let n : Int := d.digits.length
  if d.point ≤ 0 then (['0'], List.replicate (-d.point).toNat '0' ++ d.digits)
  else if n ≤ d.point then (d.digits ++ List.replicate (d.point - n).toNat '0', [])
  else (d.digits.take d.point.toNat, d.digits.drop d.point.toNat)

/-- A double in positional notation with its shortest digits: no exponent, no point if it is
whole. -/
def Double.positional : Double → List Char
  | .nan => ['N', 'a', 'N']
  | .infinite negative => (if negative then ['-'] else []) ++ ['i', 'n', 'f']
  | .finite negative mantissa exponent =>
    (if negative then ['-'] else []) ++
      if mantissa == 0 then ['0']
      else
        let (whole, fraction) := (shortest mantissa exponent).positional
        whole ++ if fraction.isEmpty then [] else '.' :: fraction

end ServiceBroker.Decimal
