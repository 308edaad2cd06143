import ServiceBroker.Proofs.Catalog.Entries
import ServiceBroker.Proofs.Json.Records

/-! Values that are carried along. What the reader keeps of a document is in order, whole numbers fit
a machine word and nothing is nested too deeply, and every such value is written as a document that
is read as the value again. Doubles are left aside: their digits need not be read back exactly. -/
namespace ServiceBroker.Json

/-- No number of the value is a double. -/
inductive Value.Exact : Value → Prop where
  | null : Exact .null
  | bool (b : Bool) : Exact (.bool b)
  | whole (n : Int) : Exact (.number (.whole n))
  | string (s : String) : Exact (.string s)
  | array {items : List Value} (held : ∀ v ∈ items, Exact v) : Exact (.array items)
  | object {entries : List (String × Value)} (held : ∀ e ∈ entries, Exact e.2) :
      Exact (.object entries)

/-- The value is one that can be kept where `depth` arrays and objects are open. -/
inductive Value.Kept : Nat → Value → Prop where
  | null (depth : Nat) : Kept depth .null
  | bool (depth : Nat) (b : Bool) : Kept depth (.bool b)
  | whole (depth : Nat) {n : Int} (above : -(Decimal.twoTo 63 : Int) ≤ n) (below : n < wordBound) :
      Kept depth (.number (.whole n))
  | string (depth : Nat) (s : String) : Kept depth (.string s)
  | array {depth : Nat} {items : List Value} (room : depth < nestingLimit)
      (held : ∀ v ∈ items, Kept (depth + 1) v) : Kept depth (.array items)
  | object {depth : Nat} {entries : List (String × Value)} (room : depth < nestingLimit)
      (ordered : Ordered entries) (held : ∀ e ∈ entries, Kept (depth + 1) e.2) :
      Kept depth (.object entries)

/-! Whole numbers. -/

namespace Numeral

/-- A whole number that is read lies within the bounds of a machine word. -/
theorem bounds_of_toNumber? {n : Numeral} {k : Int} (read : n.toNumber? = some (.whole k)) :
    -(Decimal.twoTo 63 : Int) ≤ k ∧ k < wordBound := by
  have bound : (wordBound : Int) = 2 * Decimal.twoTo 63 := by decide
  simp only [toNumber?] at read
  split at read
  · rename_i fits
    simp only [Bool.and_eq_true, decide_eq_true_eq] at fits
    cases read
    omega
  · split at read
    · rename_i fits
      simp only [Bool.and_eq_true, decide_eq_true_eq] at fits
      cases read
      omega
    · obtain ⟨_, _, impossible⟩ := Option.map_eq_some_iff.mp read
      cases impossible

/-- A whole number within the bounds is read back from its numeral. -/
theorem toNumber?_ofInt {k : Int} (above : -(Decimal.twoTo 63 : Int) ≤ k) (below : k < wordBound) :
    (ofInt k).toNumber? = some (.whole k) := by
  have value : Nat.ofDigitChars 10 (ofInt k).whole 0 = k.natAbs :=
    Nat.ofDigitChars_ten_toDigits
  have whole : (ofInt k).isWhole = true := rfl
  have sign : (ofInt k).negative = decide (k < 0) := rfl
  simp only [toNumber?, value, whole, sign]
  by_cases negative : k < 0
  · have fits : k.natAbs ≤ Decimal.twoTo 63 := by omega
    have some : 0 < k.natAbs := by omega
    have back : -(k.natAbs : Int) = k := by omega
    simp only [negative, fits, some, back, decide_true, Bool.not_true, Bool.and_false,
      Bool.and_true, Bool.false_and, Bool.false_eq_true, if_false, if_true]
  · have fits : k.natAbs < wordBound := by omega
    have back : (k.natAbs : Int) = k := by omega
    simp only [negative, fits, back, decide_false, decide_true, Bool.not_false, Bool.and_true,
      if_true]

theorem plain_ofInt (k : Int) : (ofInt k).Plain := Document.plain_nat k.natAbs

end Numeral

namespace Value

theorem toDocument_array (items : List Value) :
    (array items).toDocument = .ofList toDocument items := by
  rw [toDocument, Document.ofList]
  congr 1
  induction items with
  | nil => rfl
  | cons v rest ih => rw [itemDocuments, ih, List.map_cons]

theorem toDocument_object (entries : List (String × Value)) :
    (object entries).toDocument = .record (entries.map fun e => (e.1, e.2.toDocument)) := by
  rw [toDocument, Document.record]
  congr 1
  induction entries with
  | nil => rfl
  | cons e rest ih => rw [entryDocuments, ih, List.map_cons, List.map_cons]

/-! What is read can be kept. -/

/-- Each value of an array was read of one of the documents. -/
theorem mem_ofItems {depth : Nat} {items : List Document} {values : List Value}
    (read : ofItems depth items = some values) {v : Value} (member : v ∈ values) :
    ∃ d, ofDocument depth d = some v := by
  induction items generalizing values with
  | nil =>
    cases read
    cases member
  | cons d rest ih =>
    obtain ⟨first, ofFirst, remains⟩ := Option.bind_eq_some_iff.mp read
    obtain ⟨others, ofRest, rfl⟩ := Option.map_eq_some_iff.mp remains
    rcases List.mem_cons.mp member with rfl | later
    · exact ⟨d, ofFirst⟩
    · exact ih ofRest later

/-- Each entry of an object was there before or was read of one of the documents, and the order of
names is kept. -/
theorem mem_ofMembers {depth : Nat} {before entries : List (String × Value)}
    {members : List (Quoted × Document)} (read : ofMembers depth before members = some entries)
    (ordered : Ordered before) : Ordered entries ∧
      ∀ e ∈ entries, e ∈ before ∨ ∃ d, ofDocument depth d = some e.2 := by
  induction members generalizing before with
  | nil =>
    cases read
    exact ⟨ordered, fun e member => .inl member⟩
  | cons m rest ih =>
    obtain ⟨key, d⟩ := m
    obtain ⟨name, _, read⟩ := Option.bind_eq_some_iff.mp read
    obtain ⟨v, ofFirst, read⟩ := Option.bind_eq_some_iff.mp read
    obtain ⟨sorted, origin⟩ := ih read (ordered_insertEntry name v ordered)
    refine ⟨sorted, fun e member => ?_⟩
    rcases origin e member with inserted | later
    · rcases mem_insertEntry inserted with rfl | earlier
      · exact .inr ⟨d, ofFirst⟩
      · exact .inl earlier
    · exact .inr later

/-- Where a value comes from, by its kind. -/
theorem origin_of_ofDocument {depth : Nat} {d : Document} {v : Value}
    (read : ofDocument depth d = some v) : match v with
      | .number n => ∃ numeral : Numeral, numeral.toNumber? = some n
      | .array items => depth < nestingLimit ∧ ∃ documents, ofItems (depth + 1) documents = some items
      | .object entries =>
        depth < nestingLimit ∧ ∃ members, ofMembers (depth + 1) [] members = some entries
      | _ => True := by
  cases d with
  | null =>
    cases read
    trivial
  | bool b =>
    cases read
    trivial
  | number numeral =>
    obtain ⟨n, number, rfl⟩ := Option.map_eq_some_iff.mp read
    exact ⟨numeral, number⟩
  | string text =>
    obtain ⟨s, _, rfl⟩ := Option.map_eq_some_iff.mp read
    trivial
  | array documents =>
    simp only [ofDocument] at read
    split at read
    · rename_i room
      obtain ⟨items, all, rfl⟩ := Option.map_eq_some_iff.mp read
      exact ⟨room, documents, all⟩
    · cases read
  | object members =>
    simp only [ofDocument] at read
    split at read
    · rename_i room
      obtain ⟨entries, all, rfl⟩ := Option.map_eq_some_iff.mp read
      exact ⟨room, members, all⟩
    · cases read

/-- A value without doubles that was read can be kept. -/
theorem kept_of_ofDocument {v : Value} (exactly : v.Exact) {depth : Nat} {d : Document}
    (read : ofDocument depth d = some v) : v.Kept depth := by
  induction exactly generalizing depth d with
  | null => exact .null depth
  | bool b => exact .bool depth b
  | string s => exact .string depth s
  | whole n =>
    obtain ⟨numeral, number⟩ := origin_of_ofDocument read
    obtain ⟨above, below⟩ := Numeral.bounds_of_toNumber? number
    exact .whole depth above below
  | array _ ih =>
    obtain ⟨room, documents, all⟩ := origin_of_ofDocument read
    refine .array room fun v member => ?_
    obtain ⟨d, ofItem⟩ := mem_ofItems all member
    exact ih v member ofItem
  | object _ ih =>
    obtain ⟨room, members, all⟩ := origin_of_ofDocument read
    obtain ⟨ordered, origin⟩ := mem_ofMembers all List.Pairwise.nil
    refine .object room ordered fun e member => ?_
    rcases origin e member with impossible | ⟨d, ofEntry⟩
    · cases impossible
    · exact ih e member ofEntry

/-! What can be kept is read back. -/

theorem ofItems_itemDocuments {depth : Nat} {items : List Value}
    (returns : ∀ v ∈ items, ofDocument depth v.toDocument = some v) :
    ofItems depth (itemDocuments items) = some items := by
  induction items with
  | nil => rfl
  | cons v rest ih =>
    rw [itemDocuments, ofItems, returns v List.mem_cons_self, Option.bind_some,
      ih fun v member => returns v (List.mem_cons_of_mem _ member), Option.map_some]

/-- Entries in name order join those before them. -/
theorem ofMembers_entryDocuments {depth : Nat} (before : List (String × Value))
    {entries : List (String × Value)} (ordered : Ordered (before ++ entries))
    (returns : ∀ e ∈ entries, ofDocument depth e.2.toDocument = some e.2) :
    ofMembers depth before (entryDocuments entries) = some (before ++ entries) := by
  induction entries generalizing before with
  | nil => simp [entryDocuments, ofMembers]
  | cons e rest ih =>
    obtain ⟨name, v⟩ := e
    have added : insertEntry name v before = before ++ [(name, v)] :=
      insertEntry_of_above fun e earlier =>
        (List.pairwise_append.mp ordered).2.2 e earlier _ List.mem_cons_self
    have first : ofDocument depth v.toDocument = some v := returns (name, v) List.mem_cons_self
    rw [List.append_cons] at ordered ⊢
    rw [entryDocuments, ofMembers, Option.bind_some, first, Option.bind_some, added]
    exact ih _ ordered fun e member => returns e (List.mem_cons_of_mem _ member)

/-- A value that can be kept is read back from its document. -/
theorem ofDocument_toDocument {depth : Nat} {v : Value} (kept : v.Kept depth) :
    ofDocument depth v.toDocument = some v := by
  induction kept with
  | null => rfl
  | bool => rfl
  | string => rfl
  | whole depth above below =>
    rw [toDocument, Number.toDocument, ofDocument, Numeral.toNumber?_ofInt above below,
      Option.map_some]
  | array room _ ih =>
    rw [toDocument, ofDocument, if_pos room, ofItems_itemDocuments ih, Option.map_some]
  | object room ordered _ ih =>
    have all := ofMembers_entryDocuments [] ordered ih
    rw [toDocument, ofDocument, if_pos room, all, Option.map_some, List.nil_append]

theorem plain_toDocument {depth : Nat} {v : Value} (kept : v.Kept depth) :
    v.toDocument.Plain := by
  induction kept with
  | null => trivial
  | bool => trivial
  | string => trivial
  | @whole depth n => exact Numeral.plain_ofInt n
  | array _ _ ih =>
    rw [toDocument_array]
    exact Document.plain_ofList ih
  | object _ _ _ ih =>
    rw [toDocument_object]
    refine Document.plain_record fun m member => ?_
    obtain ⟨e, isEntry, rfl⟩ := List.mem_map.mp member
    exact ih e isEntry

end Value

end ServiceBroker.Json
