import ServiceBroker.Proofs.Json.Spelling

/-! Writing a document and reading it again. What the writer makes of a document is one of the texts
that spell it, so the reader makes the document of it. -/
namespace ServiceBroker.Json

/-- A number as the writer makes numbers of integers: digits without a leading zero. -/
def Numeral.Plain (n : Numeral) : Prop :=
  n.fraction = [] ∧ n.exponent = [] ∧ n.exponentSign = .none ∧
    (n.whole = ['0'] ∨ ∃ first rest, n.whole = first :: rest ∧ first ≠ '0' ∧ first.isDigit ∧
      ∀ c ∈ rest, c.isDigit)

mutual

/-- All numbers of a document are plain. -/
def Document.Plain : Document → Prop
  | .null | .bool _ | .string _ => True
  | .number n => n.Plain
  | .array items => Document.AllPlain items
  | .object members => Document.MembersPlain members

/-- All numbers of the values of an array are plain. -/
def Document.AllPlain : List Document → Prop
  | [] => True
  | d :: rest => d.Plain ∧ Document.AllPlain rest

/-- All numbers of the members of an object are plain. -/
def Document.MembersPlain : List (Quoted × Document) → Prop
  | [] => True
  | (_, d) :: rest => d.Plain ∧ Document.MembersPlain rest

end

/-! Texts in quotes. -/

/-- An escaped character is a piece that stands for the character. -/
theorem Piece.exists_escape (c : Char) : ∃ piece : Piece, piece.Spells (escape c) ∧
    ∀ rest, meaning (piece :: rest) = (meaning rest).map (c :: ·) := by
  have short (letter : Char) (listed : (letter, c) ∈ shortEscapes)
      (written : escape c = ['\\', letter]) : ∃ piece : Piece, piece.Spells (escape c) ∧
        ∀ rest, meaning (piece :: rest) = (meaning rest).map (c :: ·) :=
    ⟨.char c, written ▸ .short listed, fun _ => rfl⟩
  by_cases special : c = '"' ∨ c = '\\' ∨ c = '\x08' ∨ c = '\x0c' ∨ c = '\n' ∨ c = '\r' ∨ c = '\t'
  · rcases special with rfl | rfl | rfl | rfl | rfl | rfl | rfl
    · exact short '"' (by decide) rfl
    · exact short '\\' (by decide) rfl
    · exact short 'b' (by decide) rfl
    · exact short 'f' (by decide) rfl
    · exact short 'n' (by decide) rfl
    · exact short 'r' (by decide) rfl
    · exact short 't' (by decide) rfl
  · simp only [not_or] at special
    obtain ⟨quoteless, unescaped, others⟩ := special
    by_cases control : c.toNat < 0x20
    · have written : escape c =
          ['\\', 'u', '0', '0', hexDigit (c.toNat / 16), hexDigit (c.toNat % 16)] := by
        simp [escape, quoteless, unescaped, others, control]
      have value : ((0 * 16 + 0) * 16 + c.toNat / 16) * 16 + c.toNat % 16 = c.toNat := by omega
      have zero : IsHexDigit '0' 0 := ⟨by decide, .inl rfl⟩
      have first : IsHexDigit (hexDigit (c.toNat / 16)) (c.toNat / 16) := ⟨by omega, .inl rfl⟩
      have second : IsHexDigit (hexDigit (c.toNat % 16)) (c.toNat % 16) := ⟨by omega, .inl rfl⟩
      refine ⟨.unit c.toNat, ?_, fun rest => ?_⟩
      · have spelled := Spells.unit zero zero first second
        rwa [value, ← written] at spelled
      · have whole : isLeading c.toNat = false ∧ isTrailing c.toNat = false := by
          simp only [isLeading, isTrailing, Bool.and_eq_false_iff, decide_eq_false_iff_not]
          omega
        rw [meaning_unit whole.2 whole.1, Char.ofNat_toNat]
    · have written : escape c = [c] := by simp [escape, quoteless, unescaped, others, control]
      exact ⟨.char c, written ▸ .plain (Nat.le_of_not_lt control) quoteless unescaped, fun _ => rfl⟩

theorem Piece.exists_escaped (text : List Char) : ∃ pieces, AllSpell pieces (text.flatMap escape) ∧
    meaning pieces = some text := by
  induction text with
  | nil => exact ⟨[], rfl, rfl⟩
  | cons c rest ih =>
    obtain ⟨piece, spells, means⟩ := exists_escape c
    obtain ⟨pieces, others, meant⟩ := ih
    refine ⟨piece :: pieces, ⟨_, _, spells, others, List.flatMap_cons⟩, ?_⟩
    rw [means, meant]
    rfl

theorem Quoted.spells_render (text : Quoted) : Quoted.Spells text text.render := by
  cases text with
  | none =>
    have digit (n : Nat) (bound : n < 16) : IsHexDigit (hexDigit n) n := ⟨bound, .inl rfl⟩
    have half := Piece.Spells.unit (digit 13 (by decide)) (digit 8 (by decide))
      (digit 0 (by decide)) (digit 0 (by decide))
    exact ⟨[.unit 0xd800], ['\\', 'u', 'd', '8', '0', '0'], ⟨_, [], half, rfl, rfl⟩, rfl, rfl⟩
  | some s =>
    obtain ⟨pieces, spells, means⟩ := Piece.exists_escaped s.toList
    exact ⟨pieces, _, spells, by simp [means], rfl⟩

/-! Documents. -/

theorem Numeral.Plain.spells_render {n : Numeral} (plain : n.Plain) : n.Spells n.render := by
  obtain ⟨fraction, exponent, sign, whole⟩ := plain
  refine ⟨⟨whole, by simp [fraction], by simp [exponent], fun _ => sign⟩, 'e', .inl rfl, ?_⟩
  simp [render, wholeText, fractionText, exponentText, fraction, exponent]

mutual

/-- What is written of a document spells it. -/
theorem Document.spells_render (d : Document) (plain : d.Plain) : d.Spells d.render := by
  cases d with
  | null => rfl
  | bool b => cases b <;> rfl
  | number n => exact plain.spells_render
  | string text => exact Quoted.spells_render text
  | array items =>
    refine ⟨_, ?_, rfl⟩
    cases items with
    | nil => exact ⟨[], nofun, rfl⟩
    | cons first rest =>
      exact ⟨_, _, .of_bare (first.spells_render plain.1), moreItemsSpell_render rest plain.2, rfl⟩
  | object members =>
    refine ⟨_, ?_, rfl⟩
    cases members with
    | nil => exact ⟨[], nofun, rfl⟩
    | cons first rest =>
      obtain ⟨key, d⟩ := first
      exact ⟨_, _, _, .of_bare (Quoted.spells_render key), .of_bare (d.spells_render plain.1),
        moreMembersSpell_render rest plain.2, by simp [renderMembers]⟩

theorem Document.moreItemsSpell_render (rest : List Document) (plain : Document.AllPlain rest) :
    Document.MoreItemsSpell rest (Document.renderMoreItems rest) := by
  cases rest with
  | nil => rfl
  | cons d rest =>
    exact ⟨_, _, .of_bare (d.spells_render plain.1), moreItemsSpell_render rest plain.2, rfl⟩

theorem Document.moreMembersSpell_render (rest : List (Quoted × Document))
    (plain : Document.MembersPlain rest) :
    Document.MoreMembersSpell rest (Document.renderMoreMembers rest) := by
  cases rest with
  | nil => rfl
  | cons first rest =>
    obtain ⟨key, d⟩ := first
    exact ⟨_, _, _, .of_bare (Quoted.spells_render key), .of_bare (d.spells_render plain.1),
      moreMembersSpell_render rest plain.2, by simp [renderMoreMembers]⟩

end

theorem Document.spelledBy_toText {d : Document} (plain : d.Plain) : d.SpelledBy d.toText := by
  rw [SpelledBy, toText, String.toList_ofList]
  exact .of_bare (d.spells_render plain)

/-- A document whose numbers are plain is read back from its text. -/
theorem Document.ofString?_toText {d : Document} (plain : d.Plain) :
    ofString? d.toText = some d :=
  (spelledBy_toText plain).read

end ServiceBroker.Json
