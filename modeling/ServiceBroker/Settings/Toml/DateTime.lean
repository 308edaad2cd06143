import ServiceBroker.Settings.Toml.Space

/-! Dates and times of TOML texts. A date, a time of day or both may be given, and with both how far
the clocks are ahead of universal time. They are settings only as the text that `DateTime.text`
gives, so two spellings of one point in time are one setting. -/
namespace ServiceBroker.Settings.Toml

/-- A day of a year. -/
structure Date where
  year : Nat
  month : Nat
  day : Nat
  deriving DecidableEq

/-- A time of day. The last minute before a leap second has a second of number sixty. -/
structure TimeOfDay where
  hour : Nat
  minute : Nat
  second : Nat
  nanosecond : Nat
  deriving DecidableEq

/-- How far clocks are ahead of universal time: not at all, or by so many minutes, which are
negative where clocks are behind. -/
inductive ClockOffset where
  | universal
  | minutes (n : Int)
  deriving DecidableEq

/-- A date, a time of day, or both. -/
inductive DateTime where
  | date (date : Date)
  | time (time : TimeOfDay)
  | both (date : Date) (time : TimeOfDay) (offset : Option ClockOffset)
  deriving DecidableEq

/-- A decimal number with zeros in front up to a width. -/
def padded (width n : Nat) : List Char :=
  let digits := Nat.toDigits 10 n
  List.replicate (width - digits.length) '0' ++ digits

namespace Date

def isLeap (year : Nat) : Bool := year % 4 == 0 && (year % 100 != 0 || year % 400 == 0)

def daysIn (year month : Nat) : Nat :=
  if month == 2 then (if isLeap year then 29 else 28)
  else if [4, 6, 9, 11].contains month then 30
  else 31

def text (d : Date) : List Char :=
  padded 4 d.year ++ '-' :: padded 2 d.month ++ '-' :: padded 2 d.day

end Date

/-- The time as hour, minute, second and as much of a second as there is. -/
def TimeOfDay.text (t : TimeOfDay) : List Char :=
  padded 2 t.hour ++ ':' :: padded 2 t.minute ++ ':' :: padded 2 t.second ++
    if t.nanosecond == 0 then []
    else '.' :: ((padded 9 t.nanosecond).reverse.dropWhile (· == '0')).reverse

/-- The offset as hours and minutes under a sign. -/
def ClockOffset.text : ClockOffset → List Char
  | universal => ['Z']
  | minutes n =>
    (if n < 0 then '-' else '+') :: padded 2 (n.natAbs / 60) ++ ':' :: padded 2 (n.natAbs % 60)

/-- The text of a date or time. A `T` stands between the two. -/
def DateTime.text : DateTime → List Char
  | date d => d.text
  | time t => t.text
  | both d t offset => d.text ++ 'T' :: t.text ++ (offset.map ClockOffset.text).getD []

/-- Reads a number of exactly so many digits that lies between two bounds. -/
def numberWithin? (width low high : Nat) (text : List Char) : Read Nat :=
  let digits := text.take width
  let n := Nat.ofDigitChars 10 digits 0
  if digits.length == width && digits.all Char.isDigit && low ≤ n && n ≤ high then
    some (n, text.drop width)
  else none

def pastMark? (mark : Char) : List Char → Option (List Char)
  | c :: rest => if c == mark then some rest else none
  | [] => none

/-- Reads a date that there is in the calendar. -/
def date? (text : List Char) : Option (Date × List Char) := do
  let (year, rest) ← numberWithin? 4 0 9999 text
  let (month, rest) ← numberWithin? 2 1 12 (← pastMark? '-' rest)
  let (day, rest) ← numberWithin? 2 1 (Date.daysIn year month) (← pastMark? '-' rest)
  return (⟨year, month, day⟩, rest)

/-- Reads a part of a second, if one is written. Digits after the ninth do not count. -/
def partOfSecond (text : List Char) : Nat × List Char :=
  match text with
  | '.' :: rest =>
    let digits := rest.takeWhile Char.isDigit
    if digits.isEmpty then (0, text)
    else
      (Nat.ofDigitChars 10 ((digits ++ List.replicate 9 '0').take 9) 0, rest.drop digits.length)
  | _ => (0, text)

def timeOfDay? (text : List Char) : Option (TimeOfDay × List Char) := do
  let (hour, rest) ← numberWithin? 2 0 23 text
  let (minute, rest) ← numberWithin? 2 0 59 (← pastMark? ':' rest)
  let (second, rest) ← numberWithin? 2 0 60 (← pastMark? ':' rest)
  let (nanosecond, rest) := partOfSecond rest
  return (⟨hour, minute, second, nanosecond⟩, rest)

/-- Reads how far clocks are ahead, if that is written. -/
def clockOffset? (text : List Char) : Option (ClockOffset × List Char) :=
  match text with
  | 'Z' :: rest => some (.universal, rest)
  | 'z' :: rest => some (.universal, rest)
  | sign :: rest =>
    if sign == '+' || sign == '-' then do
      let (hours, rest) ← numberWithin? 2 0 23 rest
      let (minutes, rest) ← numberWithin? 2 0 59 (← pastMark? ':' rest)
      let n : Int := hours * 60 + minutes
      return (.minutes (if sign == '-' then -n else n), rest)
    else none
  | [] => none

/-- The text behind what stands between a date and a time. -/
def pastDelimiter? : List Char → Option (List Char)
  | c :: rest => if c == 'T' || c == 't' || c == ' ' then some rest else none
  | [] => none

def dateTime? (text : List Char) : Read DateTime :=
  match date? text with
  | none => (timeOfDay? text).map fun (time, rest) => (.time time, rest)
  | some (date, rest) =>
    match (pastDelimiter? rest).bind timeOfDay? with
    | none => some (.date date, rest)
    | some (time, rest) =>
      match clockOffset? rest with
      | none => some (.both date time none, rest)
      | some (offset, rest) => some (.both date time (some offset), rest)

end ServiceBroker.Settings.Toml
