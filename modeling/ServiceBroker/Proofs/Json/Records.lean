import ServiceBroker.Json.Decode
import ServiceBroker.Proofs.Catalog.Entries
import ServiceBroker.Proofs.Json.RoundTrip

/-! Records as objects. A record is written with the fields that have something to say, in their
order, and what is read of each field is what was written, as long as no two fields share a name. -/
namespace ServiceBroker.Json

/-- A field of a record: the name it is written under, the other names it may be read under, and
its value, if it is written at all. -/
structure WrittenField where
  name : String
  others : FieldNames := []
  value : Option Document

namespace WrittenField

/-- The names that the field may be read under. -/
def names (f : WrittenField) : FieldNames := f.name :: f.others

/-- What is written of the field. -/
def members (f : WrittenField) : List (String × Document) := f.value.toList.map fun d => (f.name, d)

end WrittenField

/-- The object of a record. -/
def Document.ofFields (fields : List WrittenField) : Document :=
  .record (fields.flatMap WrittenField.members)

theorem occurrences_append (names : FieldNames) (first second : List (Quoted × Document)) :
    occurrences names (first ++ second) = occurrences names first ++ occurrences names second :=
  List.filter_append ..

/-- A field has no occurrences among the members of fields with other names. -/
theorem occurrences_others (names : FieldNames) (fields : List WrittenField)
    (distinct : ∀ f ∈ fields, f.name ∉ names) :
    occurrences names ((fields.flatMap WrittenField.members).map fun m => (some m.1, m.2)) = [] := by
  refine List.filter_eq_nil_iff.mpr fun m member => ?_
  obtain ⟨entry, written, rfl⟩ := List.mem_map.mp member
  obtain ⟨f, isField, isMember⟩ := List.mem_flatMap.mp written
  obtain ⟨d, _, rfl⟩ := List.mem_map.mp isMember
  simpa using distinct f isField

/-- Each field of a record is found with the value it was written with. -/
theorem findField?_ofFields (before after : List WrittenField) (f : WrittenField)
    (earlier : ∀ other ∈ before, other.name ∉ f.names)
    (later : ∀ other ∈ after, other.name ∉ f.names) :
    findField? f.names (((before ++ f :: after).flatMap WrittenField.members).map
      fun m => (some m.1, m.2)) = some f.value := by
  simp only [findField?, List.flatMap_append, List.flatMap_cons, List.map_append,
    occurrences_append, occurrences_others f.names _ earlier, occurrences_others f.names _ later,
    List.nil_append, List.append_nil]
  cases value : f.value with
  | none => simp [WrittenField.members, value, occurrences]
  | some d => simp [WrittenField.members, value, occurrences, WrittenField.names]

/-- What is read of a record is what was written of it. -/
theorem Document.fields?_ofFields {fields : List WrittenField}
    (distinct : fields.Pairwise fun f g => f.name ∉ g.names ∧ g.name ∉ f.names) :
    (ofFields fields).fields? (fields.map WrittenField.names) =
      some (fields.map WrittenField.value) := by
  have sound : ((fields.flatMap WrittenField.members).map
      fun m => ((some m.1 : Quoted), m.2)).all (fun m => m.1.isSome) = true := by simp
  rw [ofFields, record, fields?, if_pos sound]
  generalize all : fields.flatMap WrittenField.members = written
  have found (before after : List WrittenField) (split : fields = before ++ after) :
      (after.map WrittenField.names).mapM
        (fun names => findField? names (written.map fun m => (some m.1, m.2))) =
      some (after.map WrittenField.value) := by
    induction after generalizing before with
    | nil => rfl
    | cons f rest ih =>
      have parted := split ▸ distinct
      obtain ⟨_, tail, cross⟩ := List.pairwise_append.mp parted
      have first := findField?_ofFields before rest f
        (fun other member => (cross other member f List.mem_cons_self).1)
        (fun other member => (List.rel_of_pairwise_cons tail member).2)
      rw [← split, all] at first
      rw [List.map_cons, List.mapM_cons, first,
        ih (before ++ [f]) (by rw [split, List.append_cons])]
      rfl
  exact found [] fields rfl

/-- The fields of a record that writes each of them are read under their names. -/
theorem Document.fields?_record (members : List (String × Document))
    (distinct : (members.map Prod.fst).Nodup) :
    (record members).fields? (members.map fun m => [m.1]) =
      some (members.map fun m => some m.2) := by
  let fields := members.map fun m => ({ name := m.1, value := some m.2 } : WrittenField)
  have apart : fields.Pairwise fun f g => f.name ∉ g.names ∧ g.name ∉ f.names := by
    refine List.pairwise_map.mpr ((List.pairwise_map.mp distinct).imp fun other => ?_)
    simpa [WrittenField.names] using ⟨other, Ne.symm other⟩
  have read := fields?_ofFields apart
  have written : fields.flatMap WrittenField.members = members := by
    simp [fields, WrittenField.members, List.flatMap_map]
  rw [ofFields, written, List.map_map, List.map_map] at read
  exact read

/-! Documents whose numbers are plain. -/

@[simp] theorem Document.plain_text (s : String) : (text s).Plain := trivial

private theorem toDigits_leads (n : Nat) : 0 < n →
    ∃ first rest, Nat.toDigits 10 n = first :: rest ∧ first ≠ '0' := by
  induction n using Nat.strongRecOn with
  | ind n ih =>
    intro positive
    by_cases small : n < 10
    · have leads : ∀ n < 10, 0 < n → n.digitChar ≠ '0' := by decide
      exact ⟨n.digitChar, [], Nat.toDigits_of_lt_base small, leads n small positive⟩
    · obtain ⟨first, rest, digits, leads⟩ := ih (n / 10) (by omega) (by omega)
      exact ⟨first, rest ++ [(n % 10).digitChar],
        by rw [Nat.toDigits_of_base_le (by decide) (by omega), digits]; rfl, leads⟩

@[simp] theorem Document.plain_nat (n : Nat) : (nat n).Plain := by
  refine ⟨rfl, rfl, rfl, ?_⟩
  rcases Nat.eq_zero_or_pos n with rfl | positive
  · exact .inl rfl
  · obtain ⟨first, rest, digits, leads⟩ := toDigits_leads n positive
    have digit (c : Char) (member : c ∈ first :: rest) : c.isDigit :=
      Nat.isDigit_of_mem_toDigits (by decide) (by decide) (digits ▸ member)
    exact .inr ⟨first, rest, digits, leads, digit first List.mem_cons_self,
      fun c member => digit c (List.mem_cons_of_mem first member)⟩

theorem Document.plain_array {items : List Document} (plain : ∀ d ∈ items, d.Plain) :
    (array items).Plain := by
  change AllPlain items
  induction items with
  | nil => trivial
  | cons d rest ih =>
    exact ⟨plain d List.mem_cons_self, ih fun d member => plain d (List.mem_cons_of_mem _ member)⟩

theorem Document.plain_record {members : List (String × Document)}
    (plain : ∀ m ∈ members, m.2.Plain) : (record members).Plain := by
  change MembersPlain (members.map fun m => (some m.1, m.2))
  induction members with
  | nil => trivial
  | cons m rest ih =>
    exact ⟨plain m List.mem_cons_self, ih fun m member => plain m (List.mem_cons_of_mem _ member)⟩

theorem Document.plain_ofFields {fields : List WrittenField}
    (plain : ∀ f ∈ fields, ∀ d ∈ f.value, d.Plain) : (ofFields fields).Plain := by
  refine plain_record fun m member => ?_
  obtain ⟨f, isField, isMember⟩ := List.mem_flatMap.mp member
  obtain ⟨d, isValue, rfl⟩ := List.mem_map.mp isMember
  exact plain f isField d (by simpa using isValue)

theorem Document.plain_ofList {α : Type} {encode : α → Document} {items : List α}
    (plain : ∀ a ∈ items, (encode a).Plain) : (ofList encode items).Plain := by
  refine plain_array fun d member => ?_
  obtain ⟨a, isItem, rfl⟩ := List.mem_map.mp member
  exact plain a isItem

theorem Document.plain_ofOption {α : Type} {encode : α → Document} {a : Option α}
    (plain : ∀ b ∈ a, (encode b).Plain) : (ofOption encode a).Plain := by
  cases a with
  | none => trivial
  | some b => exact plain b rfl

theorem Document.plain_ofMap {α : Type} {encode : α → Document} {m : NameMap α}
    (plain : ∀ e ∈ m.entries, (encode e.2).Plain) : (ofMap encode m).Plain := by
  refine plain_record fun member isMember => ?_
  obtain ⟨e, isEntry, rfl⟩ := List.mem_map.mp isMember
  exact plain e isEntry

/-! What is written is read back. -/

/-- What is read of the images of a list, if each of them is read as it should be. -/
private theorem mapM_map {α β γ : Type} (write : α → β) (read : β → Option γ) (value : α → γ)
    (items : List α) (returns : ∀ a ∈ items, read (write a) = some (value a)) :
    (items.map write).mapM read = some (items.map value) := by
  induction items with
  | nil => rfl
  | cons a rest ih =>
    rw [List.map_cons, List.mapM_cons, returns a List.mem_cons_self,
      ih fun a member => returns a (List.mem_cons_of_mem _ member)]
    rfl

/-- A list is read back if its elements are. -/
theorem Decode.list_ofList {α : Type} (encode : α → Document) (decode : Decoder α) (items : List α)
    (returns : ∀ a ∈ items, decode (encode a) = some a) :
    Decode.list decode (.ofList encode items) = some items := by
  have read := mapM_map encode decode id items returns
  rwa [List.map_id] at read

/-- A list that is left out when it is empty is read back. -/
theorem Decode.orElse_list {α : Type} (encode : α → Document) (decode : Decoder α) (items : List α)
    (returns : ∀ a ∈ items, decode (encode a) = some a) :
    Decode.orElse [] (Decode.list decode)
      (if items.isEmpty then none else some (.ofList encode items)) = some items := by
  cases items with
  | nil => rfl
  | cons first rest => exact Decode.list_ofList encode decode _ returns

/-- A text that is left out when it is empty is read back. -/
theorem Decode.orElse_text (s : String) :
    Decode.orElse "" Decode.text (if s.isEmpty then none else some (.text s)) = some s := by
  split
  · rename_i empty
    rw [String.isEmpty_iff.mp empty]
    rfl
  · rfl

/-- A value that is left out when there is none is read back, unless it is written as null. -/
theorem Decode.orElse_nullable {α : Type} (encode : α → Document) (decode : Decoder α)
    (returns : ∀ a, decode (encode a) = some a) (present : ∀ a, Decode.isNull (encode a) = false)
    (a : Option α) :
    Decode.orElse none (Decode.nullable decode) (a.map encode) = some a := by
  cases a with
  | none => rfl
  | some a =>
    change (if Decode.isNull (encode a) then some none else (decode (encode a)).map some) = _
    rw [present, returns]
    rfl

/-- A value that is written as null when there is none is read back. -/
theorem Decode.nullable_ofOption {α : Type} (encode : α → Document) (decode : Decoder α)
    (returns : ∀ a, decode (encode a) = some a) (present : ∀ a, Decode.isNull (encode a) = false)
    (a : Option α) : Decode.nullable decode (.ofOption encode a) = some a := by
  cases a with
  | none => rfl
  | some a => exact Decode.orElse_nullable encode decode returns present (some a)

/-- A map is read back if the values under its names are. -/
theorem Decode.map_ofMap {α : Type} (encode : α → Document) (decode : Decoder α) (m : NameMap α)
    (returns : ∀ e ∈ m.entries, decode (encode e.2) = some e.2) :
    Decode.map decode (.ofMap encode m) = some m := by
  have named := mapM_map (fun e : String × α => ((some e.1 : Quoted), encode e.2))
    (fun e => e.1.map fun key => (key, e.2)) (fun e => (e.1, encode e.2)) m.entries fun _ _ => rfl
  have valued := mapM_map (fun e : String × α => (e.1, encode e.2))
    (fun e => (decode e.2).map fun a => (e.1, a)) id m.entries fun e member => by
      rw [returns e member]
      rfl
  have entries : Decode.entries? (.ofMap encode m) =
      some (m.entries.map fun e => (e.1, encode e.2)) := by
    rw [Document.ofMap, Document.record, List.map_map]
    exact named
  change (Decode.entries? (.ofMap encode m)).bind (fun entries =>
    (entries.mapM fun e => (decode e.2).map fun a => (e.1, a)).map NameMap.ofList) = some m
  rw [entries, Option.bind_some, valued, Option.map_some, List.map_id, NameMap.ofList_entries]

/-- A number is known by its digits. -/
theorem Document.nat_injective : Function.Injective nat := by
  intro m n same
  have digits : Nat.toDigits 10 m = Nat.toDigits 10 n := by
    injection same with same
    exact congrArg Numeral.whole same
  have values := congrArg (Nat.ofDigitChars 10 · 0) digits
  simpa only [Nat.ofDigitChars_ten_toDigits] using values

/-- A natural number is read back if it fits a machine word. -/
theorem Decode.word64_nat (n : Nat) :
    Decode.word64 (.nat n) = if n < wordBound then some n else none := by
  simp [word64, natBelow, Document.nat, Numeral.toNat?, Numeral.ofNat, Numeral.isWhole,
    Nat.ofDigitChars_ten_toDigits]

/-- So is a number of 32 bits. -/
theorem Decode.word32_nat (n : UInt32) : Decode.word32 (.nat n.toNat) = some n := by
  have fits : n.toNat < Decimal.twoTo 32 := n.toNat_lt
  simp [word32, natBelow, Document.nat, Numeral.toNat?, Numeral.ofNat, Numeral.isWhole,
    Nat.ofDigitChars_ten_toDigits, fits]

end ServiceBroker.Json
