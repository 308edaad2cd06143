import ServiceBroker.Json.Reader
import ServiceBroker.Json.Writer

/-! The grammar of JSON: which texts spell a document. One document has many texts, with white space
between the tokens, with characters as they are or escaped, and with either mark of an exponent. The
reader is followed through any of them: at the end of each value it stands where a value has been
completed, except that a number ends only with the character after it. -/
namespace ServiceBroker.Json

/-- White space between tokens. -/
def Blank (text : List Char) : Prop := ∀ c ∈ text, c ∈ [' ', '\n', '\t', '\r']

/-- A token or a value with white space around it. -/
def Padded (spells : List Char → Prop) (text : List Char) : Prop :=
  ∃ before inside after, Blank before ∧ spells inside ∧ Blank after ∧
    text = before ++ (inside ++ after)

/-! ### Texts in quotes -/

/-- The characters that letters stand for behind a backslash. -/
def shortEscapes : List (Char × Char) :=
  [('"', '"'), ('\\', '\\'), ('/', '/'), ('b', '\x08'), ('f', '\x0c'), ('n', '\n'), ('r', '\r'),
    ('t', '\t')]

/-- A hexadecimal digit, small or capital. -/
def IsHexDigit (c : Char) (n : Nat) : Prop := n < 16 ∧ (c = hexDigit n ∨ c = (hexDigit n).toUpper)

/-- A piece of a text in quotes: a character, or a unit of UTF-16 by its number. -/
inductive Piece where
  | char (c : Char)
  | unit (n : Nat)

namespace Piece

/-- How a piece may be written. -/
inductive Spells : Piece → List Char → Prop where
  | plain {c : Char} (shown : 0x20 ≤ c.toNat) (quoteless : c ≠ '"') (unescaped : c ≠ '\\') :
      Spells (.char c) [c]
  | short {letter c : Char} (escape : (letter, c) ∈ shortEscapes) :
      Spells (.char c) ['\\', letter]
  | unit {a b c d : Char} {i j k l : Nat} (first : IsHexDigit a i) (second : IsHexDigit b j)
      (third : IsHexDigit c k) (fourth : IsHexDigit d l) :
      Spells (.unit (((i * 16 + j) * 16 + k) * 16 + l)) ['\\', 'u', a, b, c, d]

def AllSpell : List Piece → List Char → Prop
  | [], text => text = []
  | piece :: rest, text => ∃ first more, piece.Spells first ∧ AllSpell rest more ∧
      text = first ++ more

/-- The first half of a surrogate pair. -/
def isLeading (unit : Nat) : Bool := 0xd800 ≤ unit && unit ≤ 0xdbff

/-- The second half of a surrogate pair. -/
def isTrailing (unit : Nat) : Bool := 0xdc00 ≤ unit && unit ≤ 0xdfff

/-- The character of a surrogate pair. -/
def paired (leading trailing : Nat) : Char :=
  Char.ofNat (0x10000 + (leading - 0xd800) * 0x400 + (trailing - 0xdc00))

/-- The characters that pieces stand for, if no half of a surrogate pair stands alone. -/
def meaning : List Piece → Option (List Char)
  | [] => some []
  | .char c :: rest => (meaning rest).map (c :: ·)
  | .unit n :: rest =>
    if isTrailing n then none
    else if isLeading n then match rest with
      | .unit m :: rest => if isTrailing m then (meaning rest).map (paired n m :: ·) else none
      | _ => none
    else (meaning rest).map (Char.ofNat n :: ·)

variable {n m : Nat} {rest : List Piece}

theorem isTrailing_of_isLeading (leads : isLeading n) : isTrailing n = false := by
  simp only [isLeading, Bool.and_eq_true, decide_eq_true_eq] at leads
  simp only [isTrailing, Bool.and_eq_false_iff, decide_eq_false_iff_not]
  omega

theorem meaning_trailing (trails : isTrailing n) : meaning (.unit n :: rest) = none := by
  simp only [meaning.eq_def (.unit n :: rest), trails, if_true]

theorem meaning_pair (leads : isLeading n) (trails : isTrailing m) :
    meaning (.unit n :: .unit m :: rest) = (meaning rest).map (paired n m :: ·) := by
  simp only [meaning.eq_def (.unit n :: _), isTrailing_of_isLeading leads, leads, trails, if_true,
    Bool.false_eq_true, if_false]

theorem meaning_half (leads : isLeading n)
    (alone : ∀ m more, rest = .unit m :: more → isTrailing m = false) :
    meaning (.unit n :: rest) = none := by
  simp only [meaning.eq_def (.unit n :: rest), isTrailing_of_isLeading leads, leads, if_true,
    Bool.false_eq_true, if_false]
  split
  · rename_i m more
    simp [alone m more rfl]
  · rfl

theorem meaning_unit (follows : isTrailing n = false) (whole : isLeading n = false) :
    meaning (.unit n :: rest) = (meaning rest).map (Char.ofNat n :: ·) := by
  simp only [meaning.eq_def (.unit n :: rest), follows, whole, Bool.false_eq_true, if_false]

end Piece

/-- How a text in quotes may be written. -/
def Quoted.Spells (text : Quoted) (spelled : List Char) : Prop :=
  ∃ pieces inside, Piece.AllSpell pieces inside ∧ text = (Piece.meaning pieces).map String.ofList ∧
    spelled = '"' :: (inside ++ ['"'])

/-! ### Numbers -/

namespace Numeral

/-- A number of the grammar: a zero stands alone in front of the point, and an exponent with a sign
has digits. -/
structure WellFormed (n : Numeral) : Prop where
  whole : n.whole = ['0'] ∨ ∃ first rest, n.whole = first :: rest ∧ first ≠ '0' ∧ first.isDigit ∧
    ∀ c ∈ rest, c.isDigit
  fraction : ∀ c ∈ n.fraction, c.isDigit
  exponent : ∀ c ∈ n.exponent, c.isDigit
  exponentSign : n.exponent = [] → n.exponentSign = .none

/-- The sign and the digits in front of the point. -/
def wholeText (n : Numeral) : List Char := (if n.negative then ['-'] else []) ++ n.whole

/-- The point and the digits behind it. -/
def fractionText (n : Numeral) : List Char := if n.fraction.isEmpty then [] else '.' :: n.fraction

/-- The exponent behind its mark. -/
def exponentText (n : Numeral) (mark : Char) : List Char :=
  if n.exponent.isEmpty then [] else
    mark :: (match n.exponentSign with | .none => [] | .plus => ['+'] | .minus => ['-']) ++
      n.exponent

/-- How a number may be written. -/
def Spells (n : Numeral) (text : List Char) : Prop :=
  n.WellFormed ∧ ∃ mark, (mark = 'e' ∨ mark = 'E') ∧
    text = n.wholeText ++ (n.fractionText ++ n.exponentText mark)

end Numeral

/-! ### Documents -/

mutual

/-- How a document may be written. -/
def Document.Spells : Document → List Char → Prop
  | .null, text => text = ['n', 'u', 'l', 'l']
  | .bool true, text => text = ['t', 'r', 'u', 'e']
  | .bool false, text => text = ['f', 'a', 'l', 's', 'e']
  | .number n, text => n.Spells text
  | .string s, text => Quoted.Spells s text
  | .array items, text => ∃ inside, Document.ItemsSpell items inside ∧ text = '[' :: inside
  | .object members, text =>
    ∃ inside, Document.MembersSpell members inside ∧ text = '\x7b' :: inside

/-- The values of an array and its closing bracket. -/
def Document.ItemsSpell : List Document → List Char → Prop
  | [], text => ∃ space, Blank space ∧ text = space ++ [']']
  | d :: rest, text => ∃ first more, Padded (fun value => d.Spells value) first ∧
      Document.MoreItemsSpell rest more ∧ text = first ++ more

/-- The values of an array after the first, each behind a comma, and its closing bracket. -/
def Document.MoreItemsSpell : List Document → List Char → Prop
  | [], text => text = [']']
  | d :: rest, text => ∃ first more, Padded (fun value => d.Spells value) first ∧
      Document.MoreItemsSpell rest more ∧ text = ',' :: (first ++ more)

/-- The members of an object and its closing brace. -/
def Document.MembersSpell : List (Quoted × Document) → List Char → Prop
  | [], text => ∃ space, Blank space ∧ text = space ++ ['\x7d']
  | (key, d) :: rest, text => ∃ name first more, Padded (Quoted.Spells key) name ∧
      Padded (fun value => d.Spells value) first ∧ Document.MoreMembersSpell rest more ∧
      text = name ++ ':' :: (first ++ more)

/-- The members of an object after the first, each behind a comma, and its closing brace. -/
def Document.MoreMembersSpell : List (Quoted × Document) → List Char → Prop
  | [], text => text = ['\x7d']
  | (key, d) :: rest, text => ∃ name first more, Padded (Quoted.Spells key) name ∧
      Padded (fun value => d.Spells value) first ∧ Document.MoreMembersSpell rest more ∧
      text = ',' :: (name ++ ':' :: (first ++ more))

end

/-- A whole text spells a document. -/
def Document.SpelledBy (d : Document) (text : String) : Prop := Padded d.Spells text.toList

theorem Padded.of_bare {spells : List Char → Prop} {text : List Char} (bare : spells text) :
    Padded spells text := ⟨[], text, [], nofun, bare, nofun, by simp⟩

/-! ### Reading texts in quotes -/

namespace TextSoFar

/-- Reads characters up to a closing quote. -/
def run (t : TextSoFar) (escape : Escape) : List Char → Option (TextSoFar × Escape)
  | [] => some (t, escape)
  | c :: rest => match t.step escape c with
    | some (.more t escape) => t.run escape rest
    | _ => none

theorem run_append (t : TextSoFar) (escape : Escape) (first second : List Char) :
    t.run escape (first ++ second) = (t.run escape first).bind fun r => r.1.run r.2 second := by
  induction first generalizing t escape with
  | nil => rfl
  | cons c rest ih =>
    simp only [List.cons_append, run]
    split
    · exact ih _ _
    · rfl

/-- What a piece adds to a text. -/
def add (t : TextSoFar) : Piece → TextSoFar
  | .char c => t.push c
  | .unit n => t.pushUnit n

private theorem hexValue?_digit {c : Char} {n : Nat} (digit : IsHexDigit c n) :
    hexValue? c = some n := by
  have either : ∀ n < 16, hexValue? (hexDigit n) = some n ∧
      hexValue? (hexDigit n).toUpper = some n := by decide
  obtain ⟨bound, rfl | rfl⟩ := digit
  · exact (either n bound).1
  · exact (either n bound).2

private theorem escaped?_short : ∀ e ∈ shortEscapes, e.1 ≠ 'u' ∧ escaped? e.1 = some e.2 := by
  decide

/-- A piece is read as what it adds. -/
theorem run_piece (t : TextSoFar) {piece : Piece} {text : List Char} (spells : piece.Spells text) :
    t.run .none text = some (t.add piece, .none) := by
  cases spells with
  | plain shown quoteless unescaped =>
    simp [run, step, add, quoteless, unescaped, Nat.not_lt.mpr shown]
  | @short letter c escape =>
    obtain ⟨other, meant⟩ := escaped?_short _ escape
    simp [run, step, add, other, meant]
  | unit first second third fourth =>
    simp [run, step, add, hexValue?_digit first, hexValue?_digit second, hexValue?_digit third,
      hexValue?_digit fourth]

theorem run_pieces (t : TextSoFar) {pieces : List Piece} {text : List Char}
    (spells : Piece.AllSpell pieces text) :
    t.run .none text = some (pieces.foldl add t, .none) := by
  induction pieces generalizing t text with
  | nil =>
    cases spells
    rfl
  | cons piece rest ih =>
    obtain ⟨first, more, spelled, others, rfl⟩ := spells
    rw [run_append, run_piece t spelled, Option.bind_some, ih _ others, List.foldl_cons]

/-- A text that holds half of a surrogate pair for good has no meaning any more. -/
theorem close_unsound (pieces : List Piece) (t : TextSoFar) (unsound : t.sound = false) :
    (pieces.foldl add t).close = none := by
  induction pieces generalizing t with
  | nil => simp [close, unsound]
  | cons piece rest ih =>
    refine ih _ ?_
    cases piece with
    | char c => simp [add, push, unsound]
    | unit n =>
      simp only [add, pushUnit]
      split
      · split <;> simp [unsound]
      · split <;> simp [push, unsound]

/-- Units are told apart in the same way. -/
theorem pushUnit_eq (t : TextSoFar) (n : Nat) : t.pushUnit n =
    if Piece.isTrailing n then match t.half with
      | some high => ⟨Piece.paired high n :: t.chars, none, t.sound⟩
      | none => { t with sound := false }
    else if Piece.isLeading n then
      { t with half := some n, sound := t.sound && t.half.isNone }
    else t.push (Char.ofNat n) := rfl

/-- What pieces mean behind the characters that were read already, where the last one may be half of
a surrogate pair. -/
theorem close_pieces (pieces : List Piece) (chars : List Char) :
    (pieces.foldl add ⟨chars, none, true⟩).close =
        (Piece.meaning pieces).map (fun more => String.ofList (chars.reverse ++ more)) ∧
      ∀ n, Piece.isLeading n → (pieces.foldl add ⟨chars, some n, true⟩).close =
        (Piece.meaning (.unit n :: pieces)).map fun more => String.ofList (chars.reverse ++ more) := by
  induction pieces generalizing chars with
  | nil =>
    refine ⟨by simp [close, Piece.meaning], fun n leads => ?_⟩
    have half : Piece.meaning [.unit n] = none := Piece.meaning_half leads nofun
    rw [half]
    rfl
  | cons piece rest ih =>
    -- One more character continues what the rest means.
    have onward (c : Char) : (rest.foldl add ⟨c :: chars, none, true⟩).close =
        ((Piece.meaning rest).map (c :: ·)).map fun more => String.ofList (chars.reverse ++ more) := by
      rw [(ih (c :: chars)).1, Option.map_map]
      simp [Function.comp_def]
    cases piece with
    | char c =>
      refine ⟨onward c, fun n leads => ?_⟩
      have half : Piece.meaning (.unit n :: .char c :: rest) = none :=
        Piece.meaning_half leads nofun
      rw [half]
      exact close_unsound rest _ rfl
    | unit m =>
      rw [List.foldl_cons]
      by_cases trails : Piece.isTrailing m
      · refine ⟨?_, fun n leads => ?_⟩
        · rw [Piece.meaning_trailing trails]
          refine close_unsound rest _ ?_
          simp [add, pushUnit_eq, trails]
        · rw [Piece.meaning_pair leads trails, ← onward (Piece.paired n m)]
          simp [add, pushUnit_eq, trails]
      · have trails := eq_false_of_ne_true trails
        have alone {n : Nat} (leads : Piece.isLeading n) :
            Piece.meaning (.unit n :: .unit m :: rest) = none :=
          Piece.meaning_half leads fun _ _ same => by
            cases same
            exact trails
        refine ⟨?_, fun n leads => ?_⟩
        · by_cases begins : Piece.isLeading m
          · rw [← (ih chars).2 m begins]
            simp [add, pushUnit_eq, trails, begins]
          · have begins := eq_false_of_ne_true begins
            rw [Piece.meaning_unit trails begins, ← onward (Char.ofNat m)]
            simp [add, pushUnit_eq, trails, begins, push]
        · rw [alone leads]
          refine close_unsound rest _ ?_
          by_cases begins : Piece.isLeading m <;> simp [add, pushUnit_eq, trails, begins, push]

end TextSoFar

/-- What stands between the quotes of a text is read as the text. -/
theorem Quoted.Spells.inside {text : Quoted} {spelled : List Char}
    (spells : Quoted.Spells text spelled) : ∃ inside t,
      TextSoFar.empty.run .none inside = some (t, .none) ∧ t.close = text ∧
        spelled = '"' :: (inside ++ ['"']) := by
  obtain ⟨pieces, inside, spells, rfl, rfl⟩ := spells
  refine ⟨inside, _, TextSoFar.run_pieces _ spells, ?_, rfl⟩
  exact (TextSoFar.close_pieces pieces []).1

namespace ReaderState

theorem run_append (s : ReaderState) (first second : List Char) :
    s.run (first ++ second) = (s.run first).bind fun s => s.run second := by
  induction first generalizing s with
  | nil => rfl
  | cons c rest ih =>
    simp only [List.cons_append, run]
    cases s.step c with
    | none => rfl
    | some next => exact ih next

/-- Inside quotes the characters are read into the text, be it a value or a key. -/
theorem run_inside (place : TextSoFar → Escape → Mode) (frames : List Frame)
    (steps : ∀ t escape c more escape', t.step escape c = some (.more more escape') →
      step ⟨place t escape, frames⟩ c = some ⟨place more escape', frames⟩)
    {t t' : TextSoFar} {escape escape' : Escape} {cs : List Char}
    (reads : t.run escape cs = some (t', escape')) :
    run ⟨place t escape, frames⟩ cs = some ⟨place t' escape', frames⟩ := by
  induction cs generalizing t escape with
  | nil =>
    cases reads
    rfl
  | cons c rest ih =>
    simp only [TextSoFar.run] at reads
    split at reads
    · rename_i stepped
      rw [run, steps _ _ _ _ _ stepped, Option.bind_some]
      exact ih reads
    · cases reads

/-- A text value is read however it is written. -/
theorem run_quoted_text {text : Quoted} {spelled : List Char} (spells : Quoted.Spells text spelled)
    (frames : List Frame) :
    run ⟨.value, frames⟩ spelled = some (complete (.string text) frames) := by
  obtain ⟨inside, t, reads, closes, rfl⟩ := spells.inside
  change run ⟨.text .empty .none, frames⟩ (inside ++ ['"']) = _
  have inner := run_inside .text frames (fun _ _ _ _ _ stepped => by simp [step, stepped]) reads
  rw [run_append, inner]
  simp [run, step, TextSoFar.step, closes]

/-- So is a key. -/
theorem run_quoted_key {text : Quoted} {spelled : List Char} (spells : Quoted.Spells text spelled)
    (before : List (Quoted × Document)) (frames : List Frame) :
    run ⟨.nextKey before, frames⟩ spelled = some ⟨.colon before text, frames⟩ := by
  obtain ⟨inside, t, reads, closes, rfl⟩ := spells.inside
  change run ⟨.key before .empty .none, frames⟩ (inside ++ ['"']) = _
  have inner := run_inside (.key before) frames (fun _ _ _ _ _ stepped => by simp [step, stepped])
    reads
  rw [run_append, inner]
  simp [run, step, TextSoFar.step, closes]

/-! ### White space -/

theorem isSpace_of_blank {space : List Char} (blank : Blank space) {c : Char}
    (member : c ∈ space) : isSpace c := by
  have listed := blank c member
  simp only [List.mem_cons, List.not_mem_nil, or_false] at listed
  rcases listed with rfl | rfl | rfl | rfl <;> rfl

/-- White space is skipped where the reader stays as it is. -/
theorem run_blank {s : ReaderState} {space : List Char} (blank : Blank space)
    (skips : ∀ c, isSpace c → s.step c = some s) : s.run space = some s := by
  induction space with
  | nil => rfl
  | cons c rest ih =>
    rw [run, skips c (isSpace_of_blank blank List.mem_cons_self), Option.bind_some]
    exact ih fun d member => blank d (List.mem_cons_of_mem c member)

theorem structural_space (mode : Mode) (frames : List Frame) {c : Char} (space : isSpace c) :
    structural mode frames c = some ⟨mode, frames⟩ := by
  unfold structural
  exact if_pos space

/-! ### Numbers -/

/-- The reader stands behind a value: it has been completed, or it is a number that the next
character ends. -/
inductive Behind (document : Document) (frames : List Frame) : ReaderState → Prop where
  | complete : Behind document frames (complete document frames)
  | number {soFar : Numeral} {part : NumeralPart} (ends : part.mayEnd)
      (spells : document = .number soFar.close) :
      Behind document frames ⟨.number soFar part, frames⟩

/-- A character that may stand behind a value. -/
def isDelimiter (c : Char) : Bool := c == ',' || c == ']' || c == '\x7d' || isSpace c

/-- A character behind a value is read as if the value had been completed. -/
theorem Behind.step {document : Document} {frames : List Frame} {s : ReaderState}
    (behind : Behind document frames s) {c : Char} (delimiter : isDelimiter c) :
    s.step c = structural (ReaderState.complete document frames).mode
      (ReaderState.complete document frames).frames c := by
  cases behind with
  | complete => cases frames with
    | nil => rfl
    | cons frame rest => cases frame <;> rfl
  | @number soFar part ends spells =>
    have stops : soFar.step part c = none := by
      simp only [isDelimiter, isSpace, Bool.or_eq_true, beq_iff_eq, or_assoc] at delimiter
      rcases delimiter with rfl | rfl | rfl | rfl | rfl | rfl | rfl <;> cases part <;> rfl
    simp [ReaderState.step, stops, ends, spells]

/-- The text may end behind a value outside of all arrays and objects. -/
theorem Behind.result? {document : Document} {s : ReaderState} (behind : Behind document [] s) :
    s.result? = some document := by
  cases behind with
  | complete => rfl
  | number ends spells => simp [ReaderState.result?, ends, spells]

/-- Space behind a value changes nothing, but that it ends a number. -/
theorem Behind.run_blank {document : Document} {frames : List Frame} {s : ReaderState}
    (behind : Behind document frames s) {space : List Char} (blank : Blank space) :
    ∃ next, s.run space = some next ∧ Behind document frames next := by
  have skips (c : Char) (space : isSpace c) {s : ReaderState}
      (behind : Behind document frames s) :
      s.step c = some (ReaderState.complete document frames) := by
    rw [behind.step (by simp [isDelimiter, space]), structural_space _ _ space]
  cases space with
  | nil => exact ⟨s, rfl, behind⟩
  | cons c rest =>
    refine ⟨ReaderState.complete document frames, ?_, .complete⟩
    rw [run, skips c (isSpace_of_blank blank List.mem_cons_self) behind, Option.bind_some]
    exact ReaderState.run_blank (fun d member => blank d (List.mem_cons_of_mem c member))
      fun d space => skips d space .complete

end ReaderState

namespace Numeral

/-- More digits of a part, which stand newest first. -/
def extend (n : Numeral) (digits : List Char) : NumeralPart → Numeral
  | .fraction => { n with fraction := digits.reverse ++ n.fraction }
  | .exponent => { n with exponent := digits.reverse ++ n.exponent }
  | _ => { n with whole := digits.reverse ++ n.whole }

end Numeral

namespace ReaderState

/-- Digits after the first one of a part are read one by one. -/
theorem run_digits (soFar : Numeral) {part : NumeralPart} (frames : List Frame)
    (repeats : part = .whole ∨ part = .fraction ∨ part = .exponent) {digits : List Char}
    (allDigits : ∀ c ∈ digits, c.isDigit) : run ⟨.number soFar part, frames⟩ digits =
      some ⟨.number (soFar.extend digits part) part, frames⟩ := by
  induction digits generalizing soFar with
  | nil => rcases repeats with rfl | rfl | rfl <;> rfl
  | cons c rest ih =>
    have digit := allDigits c List.mem_cons_self
    have stepped : soFar.step part c = some (soFar.extend [c] part, part) := by
      rcases repeats with rfl | rfl | rfl <;> simp [Numeral.step, Numeral.extend, digit]
    simp only [run, step, stepped, Option.bind_some]
    rw [ih _ fun d member => allDigits d (List.mem_cons_of_mem c member)]
    rcases repeats with rfl | rfl | rfl <;> simp [Numeral.extend]

/-- A number may begin with any digit; after a zero no further one follows. -/
theorem beginValue_digit (frames : List Frame) (c : Char) (digit : c.isDigit)
    (leads : c ≠ '0') : beginValue frames c =
      some ⟨.number ⟨false, [c], [], .none, []⟩ .whole, frames⟩ := by
  have other (d : Char) (plain : d.isDigit = false) : c ≠ d := by
    rintro rfl
    rw [plain] at digit
    cases digit
  simp [beginValue, digit, leads, other '"' rfl, other '[' rfl, other '\x7b' rfl, other 'n' rfl,
    other 't' rfl, other 'f' rfl, other '-' rfl]

theorem isSpace_digit {c : Char} (digit : c.isDigit) : isSpace c = false := by
  rw [Bool.eq_false_iff]
  intro space
  simp only [isSpace, Bool.or_eq_true, beq_iff_eq] at space
  rcases space with ((rfl | rfl) | rfl) | rfl <;> cases digit

/-- The part of a number in front of its point. -/
theorem run_wholeText {n : Numeral} (wellFormed : n.WellFormed) (frames : List Frame) :
    ∃ part, (part = .zero ∨ part = .whole) ∧ run ⟨.value, frames⟩ n.wholeText =
      some ⟨.number ⟨n.negative, n.whole.reverse, [], .none, []⟩ part, frames⟩ := by
  obtain ⟨negative, whole, fraction, sign, exponent⟩ := n
  obtain rfl | ⟨first, rest, rfl, leads, digit, digits⟩ := wellFormed.whole
  · exact ⟨.zero, .inl rfl, by cases negative <;> rfl⟩
  · refine ⟨.whole, .inr rfl, ?_⟩
    have begins := beginValue_digit frames first digit leads
    have more := run_digits ⟨negative, [first], [], .none, []⟩ frames (.inl rfl) digits
    simp only [Numeral.extend] at more
    cases negative
    · simpa [Numeral.wholeText, run, step, structural, isSpace_digit digit, begins] using more
    · have minus : beginValue frames '-' =
          some ⟨.number ⟨true, [], [], .none, []⟩ .minus, frames⟩ := rfl
      simpa [Numeral.wholeText, run, step, structural, isSpace, minus, Numeral.step, leads, digit]
        using more

/-- The point and what follows it. -/
theorem run_fractionText {n : Numeral} (wellFormed : n.WellFormed) (frames : List Frame)
    {part : NumeralPart} (begun : part = .zero ∨ part = .whole) (negative : Bool)
    (whole : List Char) : ∃ next, (next = .zero ∨ next = .whole ∨ next = .fraction) ∧
      run ⟨.number ⟨negative, whole, [], .none, []⟩ part, frames⟩ n.fractionText =
        some ⟨.number ⟨negative, whole, n.fraction.reverse, .none, []⟩ next, frames⟩ := by
  cases digits : n.fraction with
  | nil =>
    refine ⟨part, begun.imp_right .inl, ?_⟩
    simp [Numeral.fractionText, digits, run]
  | cons first rest =>
    refine ⟨.fraction, .inr (.inr rfl), ?_⟩
    have all := wellFormed.fraction
    rw [digits] at all
    have digit := all first List.mem_cons_self
    have more := run_digits ⟨negative, whole, [first], .none, []⟩ frames (.inr (.inl rfl))
      fun c member => all c (List.mem_cons_of_mem first member)
    rcases begun with rfl | rfl <;>
      simpa [Numeral.fractionText, digits, run, step, Numeral.step, digit, Numeral.extend]
        using more

/-- The exponent. -/
theorem run_exponentText {n : Numeral} (wellFormed : n.WellFormed) {mark : Char}
    (marked : mark = 'e' ∨ mark = 'E') (frames : List Frame) {part : NumeralPart}
    (begun : part = .zero ∨ part = .whole ∨ part = .fraction) (negative : Bool)
    (whole fraction : List Char) : ∃ next, next.mayEnd ∧
      run ⟨.number ⟨negative, whole, fraction, .none, []⟩ part, frames⟩ (n.exponentText mark) =
        some ⟨.number ⟨negative, whole, fraction, n.exponentSign, n.exponent.reverse⟩ next,
          frames⟩ := by
  cases digits : n.exponent with
  | nil =>
    refine ⟨part, by rcases begun with rfl | rfl | rfl <;> rfl, ?_⟩
    simp [Numeral.exponentText, digits, run, wellFormed.exponentSign digits]
  | cons first rest =>
    refine ⟨.exponent, rfl, ?_⟩
    have all := wellFormed.exponent
    rw [digits] at all
    have digit := all first List.mem_cons_self
    have more := run_digits ⟨negative, whole, fraction, n.exponentSign, [first]⟩ frames
      (.inr (.inr rfl)) fun c member => all c (List.mem_cons_of_mem first member)
    have toMark : step ⟨.number ⟨negative, whole, fraction, .none, []⟩ part, frames⟩ mark =
        some ⟨.number ⟨negative, whole, fraction, .none, []⟩ .exponentMark, frames⟩ := by
      rcases begun with rfl | rfl | rfl <;> rcases marked with rfl | rfl <;> rfl
    simp only [Numeral.exponentText, digits, List.isEmpty_cons, Bool.false_eq_true, if_false,
      List.cons_append, run, toMark, Option.bind_some]
    cases sign : n.exponentSign <;> rw [sign] at more <;>
      simpa [run, step, Numeral.step, digit, Numeral.extend] using more

/-- A number is read however it is written. -/
theorem run_number {n : Numeral} {text : List Char} (spells : n.Spells text)
    (frames : List Frame) :
    ∃ s, run ⟨.value, frames⟩ text = some s ∧ Behind (.number n) frames s := by
  obtain ⟨wellFormed, mark, marked, rfl⟩ := spells
  obtain ⟨part, begun, wholes⟩ := run_wholeText wellFormed frames
  obtain ⟨next, continued, fractions⟩ :=
    run_fractionText wellFormed frames begun n.negative n.whole.reverse
  obtain ⟨last, ends, exponents⟩ :=
    run_exponentText wellFormed marked frames continued n.negative n.whole.reverse
      n.fraction.reverse
  let digits : Numeral :=
    ⟨n.negative, n.whole.reverse, n.fraction.reverse, n.exponentSign, n.exponent.reverse⟩
  refine ⟨⟨.number digits last, frames⟩, ?_, .number ends ?_⟩
  · rw [run_append, wholes, Option.bind_some, run_append, fractions, Option.bind_some, exponents]
  · simp [digits, Numeral.close]

/-! ### Reading documents -/

/-- Every text of a document begins with a character that begins a value. -/
theorem spells_begins {d : Document} {text : List Char} (spells : d.Spells text) :
    ∃ c rest, text = c :: rest ∧ isSpace c = false ∧ c ≠ ']' := by
  cases d with
  | null =>
    cases spells
    exact ⟨_, _, rfl, rfl, by decide⟩
  | bool b => cases b <;> cases spells <;> exact ⟨_, _, rfl, rfl, by decide⟩
  | string s =>
    obtain ⟨_, _, _, _, rfl⟩ := spells
    exact ⟨_, _, rfl, rfl, by decide⟩
  | array items =>
    obtain ⟨_, _, rfl⟩ := spells
    exact ⟨_, _, rfl, rfl, by decide⟩
  | object members =>
    obtain ⟨_, _, rfl⟩ := spells
    exact ⟨_, _, rfl, rfl, by decide⟩
  | number n =>
    obtain ⟨wellFormed, mark, _, rfl⟩ := spells
    obtain ⟨negative, whole, fraction, sign, exponent⟩ := n
    cases negative with
    | true => exact ⟨_, _, rfl, rfl, by decide⟩
    | false =>
      obtain rfl | ⟨first, rest, rfl, _, digit, _⟩ := wellFormed.whole
      · exact ⟨_, _, rfl, rfl, by decide⟩
      · refine ⟨first, _, rfl, isSpace_digit digit, ?_⟩
        rintro rfl
        cases digit

/-- A value with space around it is read like the value alone. -/
theorem run_padded {d : Document} {text : List Char} {frames : List Frame}
    (padded : Padded d.Spells text)
    (reads : ∀ value, d.Spells value →
      ∃ s, run ⟨.value, frames⟩ value = some s ∧ Behind d frames s) :
    ∃ s, run ⟨.value, frames⟩ text = some s ∧ Behind d frames s := by
  obtain ⟨before, value, after, space, spells, trailing, rfl⟩ := padded
  obtain ⟨s, read, behind⟩ := reads value spells
  obtain ⟨last, rest, still⟩ := behind.run_blank trailing
  refine ⟨last, ?_, still⟩
  rw [run_append, run_blank space fun c => structural_space _ _, Option.bind_some, run_append, read,
    Option.bind_some, rest]

/-- The first value of an array is read like any value. -/
theorem run_firstItem {d : Document} {text more : List Char} (padded : Padded d.Spells text)
    (frames : List Frame) : run ⟨.firstItem, frames⟩ (text ++ more) =
      run ⟨.value, .items [] :: frames⟩ (text ++ more) := by
  obtain ⟨before, value, after, space, spells, _, rfl⟩ := padded
  obtain ⟨c, rest, rfl, solid, opens⟩ := spells_begins spells
  rw [List.append_assoc, run_append, run_append ⟨.value, _⟩,
    run_blank space fun c => structural_space _ _, run_blank space fun c => structural_space _ _]
  simp [run, step, structural, solid, opens]

/-- A key with space around it and the colon behind it, which have to be followed by a value. -/
theorem run_name {key : Quoted} {name : List Char} (padded : Padded (Quoted.Spells key) name)
    (before : List (Quoted × Document)) (frames : List Frame) :
    run ⟨.nextKey before, frames⟩ (name ++ [':']) =
      some ⟨.value, .member before key :: frames⟩ := by
  obtain ⟨space, spelled, trailing, blank, spells, behind, rfl⟩ := padded
  rw [List.append_assoc, run_append, run_blank blank fun c => structural_space _ _,
    Option.bind_some, List.append_assoc, run_append, run_quoted_key spells, Option.bind_some,
    run_append, run_blank behind fun c => structural_space _ _]
  rfl

/-- The first key of an object is read like any key. -/
theorem run_firstName {key : Quoted} {name : List Char} (padded : Padded (Quoted.Spells key) name)
    (frames : List Frame) : run ⟨.firstKey, frames⟩ (name ++ [':']) =
      some ⟨.value, .member [] key :: frames⟩ := by
  rw [← run_name padded]
  obtain ⟨space, spelled, trailing, blank, ⟨_, _, _, _, rfl⟩, _, rfl⟩ := padded
  rw [List.append_assoc, run_append, run_append ⟨.nextKey [], frames⟩,
    run_blank blank fun c => structural_space _ _, run_blank blank fun c => structural_space _ _]
  rfl

mutual

/-- A document is read however it is written, wherever a value may stand. -/
theorem run_spelled (d : Document) {text : List Char} (spells : d.Spells text)
    (frames : List Frame) : ∃ s, run ⟨.value, frames⟩ text = some s ∧ Behind d frames s := by
  cases d with
  | null =>
    cases spells
    exact ⟨_, rfl, .complete⟩
  | bool b => cases b <;> cases spells <;> exact ⟨_, rfl, .complete⟩
  | number n => exact run_number spells frames
  | string s => exact ⟨_, run_quoted_text spells frames, .complete⟩
  | array items =>
    obtain ⟨inside, spells, rfl⟩ := spells
    refine ⟨complete (.array items) frames, ?_, .complete⟩
    change run ⟨.firstItem, frames⟩ inside = _
    cases items with
    | nil =>
      obtain ⟨space, blank, rfl⟩ := spells
      rw [run_append, run_blank blank fun c => structural_space _ _]
      rfl
    | cons first rest =>
      obtain ⟨value, more, padded, others, rfl⟩ := spells
      obtain ⟨s, reads, behind⟩ := run_padded padded
        fun _ spells => run_spelled first spells (.items [] :: frames)
      rw [run_firstItem padded, run_append, reads, Option.bind_some]
      exact run_moreItems rest others [] frames behind
  | object members =>
    obtain ⟨inside, spells, rfl⟩ := spells
    refine ⟨complete (.object members) frames, ?_, .complete⟩
    change run ⟨.firstKey, frames⟩ inside = _
    cases members with
    | nil =>
      obtain ⟨space, blank, rfl⟩ := spells
      rw [run_append, run_blank blank fun c => structural_space _ _]
      rfl
    | cons first rest =>
      obtain ⟨key, d⟩ := first
      obtain ⟨name, value, more, named, padded, others, rfl⟩ := spells
      obtain ⟨s, reads, behind⟩ := run_padded padded
        fun _ spells => run_spelled d spells (.member [] key :: frames)
      rw [List.append_cons, run_append, run_firstName named, Option.bind_some, run_append, reads,
        Option.bind_some]
      exact run_moreMembers rest others [] frames behind

/-- The values of an array after one of them. -/
theorem run_moreItems (rest : List Document) {text : List Char}
    (spells : Document.MoreItemsSpell rest text) (before : List Document) (frames : List Frame)
    {last : Document} {s : ReaderState} (behind : Behind last (.items before :: frames) s) :
    s.run text = some (complete (.array (before.reverse ++ last :: rest)) frames) := by
  cases rest with
  | nil =>
    cases spells
    simp [run, behind.step, isDelimiter, complete, structural, isSpace]
  | cons d rest =>
    obtain ⟨value, more, padded, others, rfl⟩ := spells
    obtain ⟨next, reads, still⟩ := run_padded padded
      fun _ spells => run_spelled d spells (.items (last :: before) :: frames)
    have comma : s.step ',' = some ⟨.value, .items (last :: before) :: frames⟩ := by
      simp [behind.step, isDelimiter, complete, structural, isSpace]
    rw [run, comma, Option.bind_some, run_append, reads, Option.bind_some,
      run_moreItems rest others (last :: before) frames still]
    simp

/-- The members of an object after one of them. -/
theorem run_moreMembers (rest : List (Quoted × Document)) {text : List Char}
    (spells : Document.MoreMembersSpell rest text) (before : List (Quoted × Document))
    (frames : List Frame) {key : Quoted} {last : Document} {s : ReaderState}
    (behind : Behind last (.member before key :: frames) s) : s.run text =
      some (complete (.object (before.reverse ++ (key, last) :: rest)) frames) := by
  cases rest with
  | nil =>
    cases spells
    simp [run, behind.step, isDelimiter, complete, structural, isSpace]
  | cons first rest =>
    obtain ⟨name, d⟩ := first
    obtain ⟨spelled, value, more, named, padded, others, rfl⟩ := spells
    obtain ⟨next, reads, still⟩ := run_padded padded
      fun _ spells => run_spelled d spells (.member ((key, last) :: before) name :: frames)
    have comma : s.step ',' = some ⟨.nextKey ((key, last) :: before), frames⟩ := by
      simp [behind.step, isDelimiter, complete, structural, isSpace]
    rw [run, comma, Option.bind_some, List.append_cons, run_append, run_name named,
      Option.bind_some, run_append, reads, Option.bind_some,
      run_moreMembers rest others ((key, last) :: before) frames still]
    simp

end

end ReaderState

/-- A text is read as the document that it spells, so it spells one at most. -/
theorem Document.SpelledBy.read {d : Document} {text : String} (spelled : d.SpelledBy text) :
    ofString? text = some d := by
  obtain ⟨s, reads, behind⟩ :=
    ReaderState.run_padded spelled fun _ spells => ReaderState.run_spelled d spells []
  simp only [ofString?, Document.read, ReaderState.start, reads, Option.bind_some]
  exact behind.result?

end ServiceBroker.Json
