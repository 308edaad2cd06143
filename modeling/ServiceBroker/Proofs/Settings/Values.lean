import Mathlib.Data.List.Basic
import ServiceBroker.Settings.Environment
import ServiceBroker.Settings.Form
import ServiceBroker.Settings.Layer
import ServiceBroker.Text.Blank

/-! What a text setting becomes of the value of a variable. The value is taken for a truth value or
a number where it can be and written as a text again, so it stays as it was if that is how the truth
value or the number is written, and otherwise it changes. -/
namespace ServiceBroker

/-- A text begins as numbers do when they are written. -/
def beginsNumber : List Char → Bool
  | [] => false
  | c :: _ => c.isDigit || c == '-' || c == 'i' || c == 'N'

theorem beginsNumber_append {text : List Char} (begins : beginsNumber text = true)
    (rest : List Char) : beginsNumber (text ++ rest) = true := by
  cases text with
  | nil => cases begins
  | cons => exact begins

theorem beginsNumber_of_digits {text : List Char} (some : text ≠ [])
    (digits : ∀ c ∈ text, c.isDigit = true) : beginsNumber text = true := by
  cases text with
  | nil => exact absurd rfl some
  | cons c rest => simp [beginsNumber, digits c List.mem_cons_self]

/-! ### Whole numbers -/

namespace Decimal

/-- A whole number in decimal digits. -/
def digits (n : Int) : String := if n < 0 then "-" ++ n.natAbs.repr else n.natAbs.repr

theorem toList_digits (n : Int) : (digits n).toList =
    if n < 0 then '-' :: Nat.toDigits 10 n.natAbs else Nat.toDigits 10 n.natAbs := by
  unfold digits
  split
  · simp [Nat.repr]
  · simp [Nat.repr]

theorem isDigit_of_mem_toDigits {n : Nat} {c : Char} (member : c ∈ Nat.toDigits 10 n) :
    c.isDigit = true := Nat.isDigit_of_mem_toDigits (by decide) (by decide) member

theorem natural?_toDigits (n : Nat) : natural? (Nat.toDigits 10 n) = some n := by
  have all : (Nat.toDigits 10 n).all Char.isDigit = true :=
    List.all_eq_true.mpr fun _ member => isDigit_of_mem_toDigits member
  have some : (Nat.toDigits 10 n).isEmpty = false := by simp [Nat.toDigits_ne_nil]
  simp [natural?, all, some, Nat.ofDigitChars_ten_toDigits]

theorem splitSign_of_digits {text : List Char} (digits : ∀ c ∈ text, c.isDigit = true) :
    splitSign text = (false, text) := by
  unfold splitSign
  split
  · exact absurd (digits '-' List.mem_cons_self) (by decide)
  · exact absurd (digits '+' List.mem_cons_self) (by decide)
  · rfl

/-- A whole number of a machine word is read back from its digits. -/
theorem int64?_digits {n : Int} (above : -(twoTo 63 : Int) ≤ n) (below : n < twoTo 63) :
    int64? (digits n).toList = some n := by
  rw [toList_digits]
  by_cases negative : n < 0
  · have fits : n.natAbs ≤ twoTo 63 := by omega
    have back : -(n.natAbs : Int) = n := by omega
    have sign : splitSign ('-' :: Nat.toDigits 10 n.natAbs) =
        (true, Nat.toDigits 10 n.natAbs) := rfl
    rw [if_pos negative, int64?, sign]
    dsimp only
    rw [natural?_toDigits, Option.bind_some, if_pos rfl, if_pos fits, back]
  · have fits : n.natAbs < twoTo 63 := by omega
    have back : (n.natAbs : Int) = n := by omega
    rw [if_neg negative, int64?, splitSign_of_digits fun _ => isDigit_of_mem_toDigits]
    dsimp only
    rw [natural?_toDigits, Option.bind_some, if_neg Bool.false_ne_true, if_pos fits, back]

theorem bounds_of_int64? {text : List Char} {n : Int} (read : int64? text = some n) :
    -(twoTo 63 : Int) ≤ n ∧ n < twoTo 63 := by
  unfold int64? at read
  generalize splitSign text = signed at read
  obtain ⟨negative, rest⟩ := signed
  obtain ⟨m, _, fits⟩ := Option.bind_eq_some_iff.mp read
  have positive : 0 < twoTo 63 := by decide
  cases negative with
  | true =>
    obtain ⟨bound, same⟩ := Option.ite_none_right_eq_some.mp fits
    cases same
    omega
  | false =>
    obtain ⟨bound, same⟩ := Option.ite_none_right_eq_some.mp fits
    cases same
    omega

theorem beginsNumber_digits (n : Int) : beginsNumber (digits n).toList = true := by
  rw [toList_digits]
  split
  · rfl
  · exact beginsNumber_of_digits Nat.toDigits_ne_nil fun _ => isDigit_of_mem_toDigits

/-! ### Doubles -/

theorem isDigit_of_mem_grids (h : Neighbourhood) {fuel : Nat} {power : Int} {c : Char}
    (member : c ∈ (shortest.grids h fuel power).digits) : c.isDigit = true := by
  induction fuel generalizing power with
  | zero => exact isDigit_of_mem_toDigits member
  | succ fuel ih =>
    rw [shortest.grids] at member
    split at member
    · have kept := List.mem_reverse.mp member
      exact isDigit_of_mem_toDigits
        (List.mem_reverse.mp ((List.dropWhile_sublist _).subset kept))
    · exact ih member

/-- In front of the point there are digits. -/
theorem Digits.beginsNumber_positional {d : Digits} (digits : ∀ c ∈ d.digits, c.isDigit = true) :
    beginsNumber d.positional.1 = true := by
  unfold positional
  split
  · rfl
  · rename_i positive
    dsimp only
    split
    · refine beginsNumber_of_digits (fun empty => ?_) fun c member => ?_
      · obtain ⟨none, noZeros⟩ := List.append_eq_nil_iff.mp empty
        rw [none, List.replicate_eq_nil_iff, List.length_nil] at noZeros
        omega
      · rcases List.mem_append.mp member with digit | zero
        · exact digits c digit
        · rw [List.eq_of_mem_replicate zero]
          rfl
    · refine beginsNumber_of_digits (fun empty => ?_) fun c member => ?_
      · have length := congrArg List.length empty
        rw [List.length_take, List.length_nil] at length
        omega
      · exact digits c (List.mem_of_mem_take member)

theorem Double.beginsNumber_positional (d : Double) : beginsNumber d.positional = true := by
  cases d with
  | nan => rfl
  | infinite negative => cases negative <;> rfl
  | finite negative mantissa exponent =>
    cases negative with
    | true => rfl
    | false =>
      change beginsNumber (if mantissa == 0 then ['0'] else
        (shortest mantissa exponent).positional.1 ++ _) = true
      split
      · rfl
      · exact beginsNumber_append
          (Digits.beginsNumber_positional fun _ => isDigit_of_mem_grids _) _

end Decimal

namespace Settings

variable {value : String}

theorem toNat_of_isDigit {c : Char} (digit : c.isDigit = true) : 48 ≤ c.toNat ∧ c.toNat ≤ 57 := by
  simpa [Char.isDigit, UInt32.le_iff_toNat_le] using digit

theorem toLower_of_isDigit {c : Char} (digit : c.isDigit = true) : c.toLower = c := by
  have bounds : 48 ≤ c.val.toNat ∧ c.val.toNat ≤ 57 := toNat_of_isDigit digit
  have noCapital : ¬(c.val ≥ 'A'.val ∧ c.val ≤ 'Z'.val) := by
    simp only [ge_iff_le, UInt32.le_iff_toNat_le]
    change ¬(65 ≤ c.val.toNat ∧ _)
    omega
  exact dif_neg noCapital

/-- A number is no truth value. -/
theorem lower_of_beginsNumber (begins : beginsNumber value.toList = true) :
    Text.lower value ≠ "true" ∧ Text.lower value ≠ "false" := by
  cases shape : value.toList with
  | nil =>
    rw [shape] at begins
    cases begins
  | cons c rest =>
    rw [shape] at begins
    have ascii : c.toNat < 128 ∧ c.toLower ≠ 't' ∧ c.toLower ≠ 'f' := by
      simp only [beginsNumber, Bool.or_eq_true, beq_iff_eq] at begins
      rcases begins with ((digit | rfl) | rfl) | rfl
      · rw [toLower_of_isDigit digit]
        refine ⟨Nat.lt_of_le_of_lt (toNat_of_isDigit digit).2 (by decide), ?_, ?_⟩
        · rintro rfl
          cases digit
        · rintro rfl
          cases digit
      · decide
      · decide
      · decide
    have noSigma : (c == Text.capitalSigma) = false := by
      rw [beq_eq_false_iff_ne]
      rintro rfl
      exact absurd ascii.1 (by decide)
    have small : (Text.lower value).toList = c.toLower :: Text.lowerAfter [c] rest := by
      rw [Text.lower, shape, String.toList_ofList, Text.lowerAfter, noSigma, Text.lowerChar,
        if_pos ascii.1]
      rfl
    constructor
    · intro isTrue
      rw [isTrue] at small
      exact ascii.2.1 (List.cons.inj small).1.symm
    · intro isFalse
      rw [isFalse] at small
      exact ascii.2.2 (List.cons.inj small).1.symm

theorem filled_of_beginsNumber (begins : beginsNumber value.toList = true) :
    Text.isBlankText value = false := by
  cases shape : value.toList with
  | nil =>
    rw [shape] at begins
    cases begins
  | cons c rest =>
    rw [shape] at begins
    have filled : Text.isBlank c = false := by
      simp only [beginsNumber, Bool.or_eq_true, beq_iff_eq] at begins
      rcases begins with ((digit | rfl) | rfl) | rfl
      · have bounds := toNat_of_isDigit digit
        unfold Text.isBlank
        grind
      · decide
      · decide
      · decide
    rw [Text.isBlankText, shape, List.all_cons, filled, Bool.false_and]

theorem beginsNumber_positional (d : Decimal.Double) :
    beginsNumber (String.ofList d.positional).toList = true := by
  rw [String.toList_ofList]
  exact d.beginsNumber_positional

/-- The text that a text setting holds if a variable gives it a value. -/
def textOf (value : String) : String := ((variableSetting value).text?).getD ""

/-- A value that a text setting keeps: a text that is nothing else, a truth value in small letters,
a whole number in its digits, or another number in as few digits as it needs. -/
inductive Verbatim : String → Prop where
  | text {value : String} (noFlag : Text.lower value ≠ "true" ∧ Text.lower value ≠ "false")
      (noWhole : Decimal.int64? value.toList = none)
      (noReal : Decimal.double? value.toList = none) : Verbatim value
  | flag (b : Bool) : Verbatim (if b then "true" else "false")
  | whole {n : Int} (above : -(Decimal.twoTo 63 : Int) ≤ n) (below : n < Decimal.twoTo 63) :
      Verbatim (Decimal.digits n)
  | real {d : Decimal.Double} (noWhole : Decimal.int64? d.positional = none)
      (back : Decimal.double? d.positional = some d) : Verbatim (String.ofList d.positional)

/-- What the value of a variable is taken for. -/
inductive Denotes (value : String) : Setting → Prop where
  | flag {b : Bool} (word : Text.lower value = if b then "true" else "false") :
      Denotes value (.flag b)
  | whole {n : Int} (read : Decimal.int64? value.toList = some n) : Denotes value (.whole n)
  | real {d : Decimal.Double} (noWhole : Decimal.int64? value.toList = none)
      (read : Decimal.double? value.toList = some d) : Denotes value (.real d)
  | text (noFlag : Text.lower value ≠ "true" ∧ Text.lower value ≠ "false")
      (noWhole : Decimal.int64? value.toList = none)
      (noReal : Decimal.double? value.toList = none) : Denotes value (.text value)

theorem denotes_variableSetting (value : String) : Denotes value (variableSetting value) := by
  unfold variableSetting
  dsimp only
  split
  · rename_i isTrue
    exact .flag (b := true) isTrue
  · rename_i noTrue
    split
    · rename_i isFalse
      exact .flag (b := false) isFalse
    · rename_i noFalse
      cases whole : Decimal.int64? value.toList with
      | some n => exact .whole whole
      | none =>
        cases real : Decimal.double? value.toList with
        | some d => exact .real whole real
        | none => exact .text ⟨noTrue, noFalse⟩ whole real

theorem text?_variableSetting (value : String) :
    (variableSetting value).text? = some (textOf value) := by
  have denotes := denotes_variableSetting value
  rw [textOf]
  generalize variableSetting value = setting at denotes
  cases denotes <;> rfl

/-- Single values take the place of whatever was there. -/
theorem laidOver_variableSetting (value : String) (below : Setting) :
    (variableSetting value).laidOver below = variableSetting value := by
  have denotes := denotes_variableSetting value
  generalize variableSetting value = setting at denotes
  cases denotes <;> rw [Setting.laidOver]

theorem filled_textOf (filled : Text.isBlankText value = false) :
    Text.isBlankText (textOf value) = false := by
  have denotes := denotes_variableSetting value
  rw [textOf]
  generalize variableSetting value = setting at denotes
  cases denotes with
  | @flag b => cases b <;> decide
  | whole => exact filled_of_beginsNumber (Decimal.beginsNumber_digits _)
  | real => exact filled_of_beginsNumber (beginsNumber_positional _)
  | text => exact filled

/-- The values that arrive as they are. -/
theorem textOf_eq_self_iff : textOf value = value ↔ Verbatim value := by
  constructor
  · intro same
    have denotes := denotes_variableSetting value
    rw [textOf] at same
    generalize variableSetting value = setting at same denotes
    cases denotes with
    | @flag b => exact same ▸ .flag b
    | whole read =>
      obtain ⟨above, below⟩ := Decimal.bounds_of_int64? read
      exact same ▸ .whole above below
    | @real d noWhole read =>
      have shape : value.toList = d.positional := by
        rw [← same]
        exact String.toList_ofList
      rw [shape] at noWhole read
      exact same ▸ .real noWhole read
    | text noFlag noWhole noReal => exact .text noFlag noWhole noReal
  · intro verbatim
    cases verbatim with
    | text noFlag noWhole noReal =>
      rw [textOf, variableSetting, if_neg noFlag.1, if_neg noFlag.2, noWhole, noReal]
      rfl
    | flag b => cases b <;> decide +kernel
    | @whole n above below =>
      have noFlag := lower_of_beginsNumber (Decimal.beginsNumber_digits n)
      rw [textOf, variableSetting, if_neg noFlag.1, if_neg noFlag.2,
        Decimal.int64?_digits above below]
      rfl
    | @real d noWhole back =>
      have noFlag := lower_of_beginsNumber (beginsNumber_positional d)
      rw [textOf, variableSetting, if_neg noFlag.1, if_neg noFlag.2, String.toList_ofList, noWhole,
        back]
      rfl

example : textOf "007" = "7" ∧ textOf "True" = "true" ∧ textOf "1e3" = "1000" := by
  decide +kernel

end Settings

end ServiceBroker
