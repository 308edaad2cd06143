import Mathlib.Algebra.Order.Field.Rat
import Mathlib.Tactic.NormNum
import ServiceBroker.Proofs.Operation.Spelling

/-! The numbers of tasks in tokens. A number is written with as many digits as one likes, with a
point and with an exponent, and a task is known by the number itself. So a number is taken as it is
written, digit by digit, or the token is refused. It is never rounded, cut off or wrapped. -/
namespace ServiceBroker

namespace Json.Numeral

/-- The power of ten of an exponent. -/
def power (n : Numeral) : ℤ :=
  (if n.exponentSign = .minus then -1 else 1) * Nat.ofDigitChars 10 n.exponent 0

/-- The number that a numeral denotes. -/
def value (n : Numeral) : ℚ :=
  (if n.negative then -1 else 1) * Nat.ofDigitChars 10 (n.whole ++ n.fraction) 0 *
    10 ^ (n.power - n.fraction.length)

/-- The numeral is digits alone, without sign, fraction and exponent. -/
def IsDigits (n : Numeral) : Prop := n.negative = false ∧ n.fraction = [] ∧ n.exponent = []

variable {n : Numeral} {v : ℕ}

theorem toNat?_eq_some_iff :
    n.toNat? = some v ↔ n.IsDigits ∧ Nat.ofDigitChars 10 n.whole 0 = v := by
  simp only [toNat?, isWhole, IsDigits, Option.ite_none_right_eq_some, Option.some.injEq,
    Bool.and_eq_true, List.isEmpty_iff, Bool.not_eq_true']
  tauto

theorem IsDigits.value (digits : n.IsDigits) : n.value = Nat.ofDigitChars 10 n.whole 0 := by
  obtain ⟨positive, whole, plain⟩ := digits
  simp [Numeral.value, power, positive, whole, plain]

end Json.Numeral

open Json

namespace OperationData

/-- What is read of a token that gives a numeral as the number of its task and is otherwise that of
the operation data. -/
inductive ReadsTask (d : OperationData) (n : Numeral) : Except TokenError OperationData → Prop where
  | exact {v : ℕ} (digits : n.IsDigits) (denotes : n.value = v) (positive : 1 ≤ v)
      (fits : v < 2 ^ 64) : ReadsTask d n (.ok { d with taskId := v })
  | zero (digits : n.IsDigits) (denotes : n.value = 0) :
      ReadsTask d n (.error (.withoutTask d.kind))
  | tooLarge {reason : String} (digits : n.IsDigits) (large : 2 ^ 64 ≤ n.value) :
      ReadsTask d n (.error (.malformed reason))
  | notDigits {reason : String} (other : ¬ n.IsDigits) : ReadsTask d n (.error (.malformed reason))

/-- A document gives a numeral as the number of its task, by name or by place. -/
inductive GivesTask : Document → Numeral → Prop where
  | named {members : List (Quoted × Document)} {n : Numeral}
      (written : (some "BackendTaskID", .number n) ∈ members) : GivesTask (.object members) n
  | placed {values : List Document} {n : Numeral} (written : values[1]? = some (.number n)) :
      GivesTask (.array values) n

variable {before after : List (Quoted × Document)} {d : OperationData} {value : Document}

/-- The number of the task is read by itself. -/
theorem ofDocument_insert (others : ofDocument (.object (before ++ after)) = some d)
    (alone : occurrences ["BackendTaskID"] (before ++ after) = []) :
    ofDocument (.object (before ++ (some "BackendTaskID", value) :: after)) =
      (Decode.word64 value).map fun taskId => { d with taskId } := by
  have other {α : Type} {names : FieldNames} (read : Option Document → Option α)
      (apart : "BackendTaskID" ∉ names) :
      said names read (before ++ (some "BackendTaskID", value) :: after) =
        said names read (before ++ after) := by
    rw [said, said, findField?_add apart]
  have task : said ["BackendTaskID"] (Decode.orElse 0 Decode.word64)
      (before ++ (some "BackendTaskID", value) :: after) = Decode.word64 value := by
    rw [said, findField?_member (List.mem_singleton_self _), if_pos alone]
    rfl
  have named : ((before ++ (some "BackendTaskID", value) :: after).all fun m => m.1.isSome) =
      (before ++ after).all fun m => m.1.isSome := by simp
  rw [ofDocument_object] at others ⊢
  rw [named, task, other _ (by decide), other _ (by decide), other _ (by decide),
    other _ (by decide), other _ (by decide), other _ (by decide)]
  split at others
  · rename_i sound
    simp only [bind, Option.bind_eq_some_iff] at others
    obtain ⟨kind, isKind, _, -, contextId, isContext, planId, isPlan, postDeploy, isPost, legacy,
      isLegacy, errands, isErrands, ⟨⟩⟩ := others
    simp only [sound, if_true, isKind, isContext, isPlan, isPost, isLegacy, isErrands]
    cases Decode.word64 value <;> rfl
  · cases others

/-- A number is read digit by digit, or it is not read. -/
theorem readsTask_of_spelledBy {n : Numeral} {text : String}
    (spelled :
      (Document.object (before ++ (some "BackendTaskID", .number n) :: after)).SpelledBy text)
    (others : ofDocument (.object (before ++ after)) = some d)
    (alone : occurrences ["BackendTaskID"] (before ++ after) = []) :
    ReadsTask d n (decode text) := by
  have bound : wordBound = 2 ^ 64 := rfl
  rw [decode, isBlankText_of_spelledBy spelled (.inl ⟨_, rfl⟩), spelled.read]
  simp only [Bool.false_eq_true, if_false, ofDocument_insert others alone, Decode.word64,
    Decode.natBelow]
  cases isNat : n.toNat? with
  | none =>
    refine .notDigits fun digits => ?_
    rw [Numeral.toNat?_eq_some_iff.mpr ⟨digits, rfl⟩] at isNat
    cases isNat
  | some v =>
    obtain ⟨digits, isValue⟩ := Numeral.toNat?_eq_some_iff.mp isNat
    have denotes : n.value = v := by rw [digits.value, isValue]
    rw [Option.bind_some]
    by_cases fits : v < wordBound
    · rw [if_pos fits]
      by_cases zero : v = 0
      · subst zero
        exact .zero digits (by simpa using denotes)
      · have named : (v == 0) = false := by simpa using zero
        simp only [Option.map_some, named, Bool.false_eq_true, if_false]
        exact .exact digits denotes (Nat.one_le_iff_ne_zero.mpr zero) fits
    · rw [if_neg fits]
      refine .tooLarge digits ?_
      rw [denotes]
      exact_mod_cast Nat.le_of_not_lt fits

/-- What a document says about the field of the task is what it gives as the number of its task. -/
theorem givesTask_iff {document : Document} {n : Numeral}
    {kind taskId contextId planId postDeploy legacy errands : Option Document}
    (found : document.fields? fields =
      some [kind, taskId, contextId, planId, postDeploy, legacy, errands]) :
    GivesTask document n ↔ taskId = some (.number n) := by
  cases document with
  | object members =>
    have finds := (findField?_of_fields? found).1
    constructor
    · rintro ⟨written⟩
      exact findField?_of_mem (List.mem_singleton_self _) written finds
    · rintro rfl
      exact .named (mem_of_findField? finds)
  | array values =>
    have second : values[1]? = taskId :=
      (Option.some.inj (getElem?_of_fields? found (by decide : 1 < fields.length))).symm
    rw [← second]
    constructor
    · intro gives
      cases gives with
      | placed written => exact written
    · exact .placed
  | _ => cases found

/-- What operation data are read of gives the number of their task, by a numeral that denotes it and
by no other. -/
theorem givesTask_of_ofDocument {document : Document} (read : ofDocument document = some d)
    (named : d.taskId ≠ 0) :
    (∃ n, GivesTask document n) ∧ ∀ n, GivesTask document n → n.value = d.taskId := by
  obtain ⟨said, found, read⟩ := Option.bind_eq_some_iff.mp read
  split at read
  · rename_i kind taskId contextId planId postDeploy legacy errands
    simp only [bind, Option.bind_eq_some_iff] at read
    obtain ⟨_, -, id, isId, _, -, _, -, _, -, _, -, _, -, ⟨⟩⟩ := read
    obtain ⟨n, isNumber, denotes⟩ : ∃ n, taskId = some (.number n) ∧ n.value = id := by
      match taskId with
      | none => exact absurd (Option.some.inj isId).symm named
      | some (.number n) =>
        obtain ⟨v, isNat, fits⟩ := Option.bind_eq_some_iff.mp isId
        obtain ⟨digits, isValue⟩ := Numeral.toNat?_eq_some_iff.mp isNat
        obtain ⟨-, ⟨⟩⟩ := Option.ite_none_right_eq_some.mp fits
        exact ⟨n, rfl, by rw [digits.value, isValue]⟩
    refine ⟨⟨n, (givesTask_iff found).mpr isNumber⟩, fun n' gives => ?_⟩
    have same : n' = n := by
      have both := (givesTask_iff found).mp gives
      rw [isNumber] at both
      cases both
      rfl
    rw [same, denotes]
  · cases read

/-- Task numbers are exact. In the token of any operation data, a number that is digits alone is
read as what it denotes, if that is not zero and fits a word, and any other number is refused. No
text is read as operation data of another task than the one that it gives. -/
theorem decode_taskId :
    (∀ (n : Numeral) (text : String) (before after : List (Quoted × Document)) (d : OperationData),
      (Document.object (before ++ (some "BackendTaskID", .number n) :: after)).SpelledBy text →
      ofDocument (.object (before ++ after)) = some d →
      occurrences ["BackendTaskID"] (before ++ after) = [] → ReadsTask d n (decode text)) ∧
    ∀ (text : String) (d : OperationData), decode text = .ok d →
      ∃ document, Document.ofString? text = some document ∧ (∃ n, GivesTask document n) ∧
        ∀ n, GivesTask document n → n.value = d.taskId := by
  refine ⟨fun n text before after d => readsTask_of_spelledBy, fun text d read => ?_⟩
  unfold decode at read
  split at read
  · cases read
  · split at read
    · cases read
    · rename_i document isDocument
      split at read
      · cases read
      · rename_i found
        split at read
        · cases read
        · rename_i named
          cases read
          exact ⟨document, isDocument, givesTask_of_ofDocument found (by simpa using named)⟩

section

variable {n : Numeral} {v : ℕ} {result : Except TokenError OperationData}

theorem ReadsTask.eq_ok (reads : ReadsTask d n result) (digits : n.IsDigits) (denotes : n.value = v)
    (positive : 1 ≤ v) (fits : v < 2 ^ 64) : result = .ok { d with taskId := v } := by
  cases reads with
  | exact _ denotes' =>
    have same : v = _ := Nat.cast_injective (denotes.symm.trans denotes')
    rw [same]
  | zero _ isZero =>
    rw [denotes, Nat.cast_eq_zero] at isZero
    omega
  | tooLarge _ large =>
    rw [denotes] at large
    exact absurd (by exact_mod_cast large) (Nat.not_le.mpr fits)
  | notDigits other => exact absurd digits other

theorem ReadsTask.malformed (reads : ReadsTask d n result) (large : 2 ^ 64 ≤ n.value) :
    ∃ reason, result = .error (.malformed reason) := by
  cases reads with
  | exact _ denotes _ fits =>
    rw [denotes] at large
    exact absurd (by exact_mod_cast large) (Nat.not_le.mpr fits)
  | zero _ isZero =>
    rw [isZero] at large
    norm_num at large
  | tooLarge | notDigits => exact ⟨_, rfl⟩

end

/-- A binding with a number of digits alone. -/
def bindingMembers (v : ℕ) : List (Quoted × Document) :=
  [(some "OperationType", .text "bind"), (some "BackendTaskID", .number (.ofNat v))]

theorem value_ofNat (v : ℕ) : (Numeral.ofNat v).IsDigits ∧ (Numeral.ofNat v).value = v := by
  have digits : (Numeral.ofNat v).IsDigits := ⟨rfl, rfl, rfl⟩
  exact ⟨digits, by rw [digits.value, Numeral.ofNat, Nat.ofDigitChars_ten_toDigits]⟩

/-- The largest number of a word is read, and the one after it is refused. -/
theorem decode_taskId_largest :
    decode "\x7b\"OperationType\":\"bind\",\"BackendTaskID\":18446744073709551615\x7d" =
        .ok { kind := .bind, taskId := 18446744073709551615 } ∧
      ∃ reason, decode "\x7b\"OperationType\":\"bind\",\"BackendTaskID\":18446744073709551616\x7d" =
        .error (.malformed reason) := by
  have reads {v : ℕ} {text : String}
      (written : text.toList = (Document.object (bindingMembers v)).render) :
      ReadsTask { kind := .bind, taskId := 0 } (.ofNat v) (decode text) := by
    have plain : (Document.object (bindingMembers v)).Plain :=
      ⟨trivial, Document.plain_nat v, trivial⟩
    have spelled : (Document.object (bindingMembers v)).SpelledBy text := by
      rw [Document.SpelledBy, written]
      exact .of_bare (Document.spells_render _ plain)
    exact decode_taskId.1 _ text [(some "OperationType", .text "bind")] [] _ spelled rfl rfl
  obtain ⟨digits, denotes⟩ := value_ofNat 18446744073709551615
  refine ⟨(reads rfl).eq_ok digits denotes (by norm_num) (by norm_num), ?_⟩
  refine ReadsTask.malformed (n := .ofNat 18446744073709551616) (reads rfl) ?_
  rw [(value_ofNat _).2]
  norm_num

end OperationData

end ServiceBroker
