import Mathlib.Logic.Relation
import ServiceBroker.Proofs.Json.Records

/-! Records in other words. The members of an object may change places, go by another name of their
field, be joined by members that nobody reads, or be written where their absence would say the same.
Nothing that is read of the record changes by that. A record that says something twice is read as
nothing. -/
namespace ServiceBroker.Json

/-- One step from an object to another way to write the same record. The names of its fields are
`known`, `implied` holds what the absence of a field says, and values that are `alike` say the same
under their name. -/
inductive Rewords (known : List FieldNames) (implied : List (String × Document))
    (alike : String → Document → Document → Prop) :
    List (Quoted × Document) → List (Quoted × Document) → Prop where
  /-- The members stand in another order. -/
  | reorder {members members' : List (Quoted × Document)} (order : members.Perm members') :
      Rewords known implied alike members members'
  /-- A field goes by another of its names. -/
  | rename {before after : List (Quoted × Document)} {names : FieldNames} {key key' : String}
      {d : Document} (field : names ∈ known) (named : key ∈ names) (named' : key' ∈ names) :
      Rewords known implied alike (before ++ (some key, d) :: after)
        (before ++ (some key', d) :: after)
  /-- There is one more member, which is no field. -/
  | add {before after : List (Quoted × Document)} {key : String} {d : Document}
      (unknown : ∀ names ∈ known, key ∉ names) :
      Rewords known implied alike (before ++ after) (before ++ (some key, d) :: after)
  /-- A field that is absent is written as what its absence says. -/
  | imply {before after : List (Quoted × Document)} {names : FieldNames} {key : String}
      {d : Document} (field : names ∈ known) (named : key ∈ names)
      (absent : ∀ name ∈ names, ∀ d, (some name, d) ∉ before ++ after)
      (meant : (key, d) ∈ implied) :
      Rewords known implied alike (before ++ after) (before ++ (some key, d) :: after)
  /-- The value of a field is written in other words. -/
  | revalue {before after : List (Quoted × Document)} {key : String} {d d' : Document}
      (same : alike key d d') :
      Rewords known implied alike (before ++ (some key, d) :: after)
        (before ++ (some key, d') :: after)

/-- A member of an object is written twice. -/
def SaysTwice (names : FieldNames) (members : List (Quoted × Document)) : Prop :=
  ∃ before between after key key' d d', key ∈ names ∧ key' ∈ names ∧
    members = before ++ (some key, d) :: (between ++ (some key', d') :: after)

/-! ### What is read of one field -/

/-- What is read of a field of an object. -/
def said {α : Type} (names : FieldNames) (read : Option Document → Option α)
    (members : List (Quoted × Document)) : Option α := (findField? names members).bind read

section

variable {α : Type} {names : FieldNames} {read : Option Document → Option α}
  {before after : List (Quoted × Document)} {key key' : String} {d d' : Document}

theorem occurrences_cons_of_mem (named : key ∈ names) (rest : List (Quoted × Document)) :
    occurrences names ((some key, d) :: rest) = (some key, d) :: occurrences names rest :=
  List.filter_cons_of_pos (by simpa using named)

theorem occurrences_cons_of_not_mem (unnamed : key ∉ names) (rest : List (Quoted × Document)) :
    occurrences names ((some key, d) :: rest) = occurrences names rest :=
  List.filter_cons_of_neg (by simpa using unnamed)

/-- A field that stands beside another member of its names cannot be read. -/
theorem findField?_eq_none (several : 1 < (occurrences names before).length) :
    findField? names before = none := by
  unfold findField?
  split
  · rename_i none
    simp [none] at several
  · rename_i one
    simp [one] at several
  · rfl

theorem findField?_perm {members members' : List (Quoted × Document)}
    (order : members.Perm members') : findField? names members = findField? names members' := by
  have occurs : (occurrences names members).Perm (occurrences names members') := order.filter _
  match found : occurrences names members with
  | [] =>
    rw [found] at occurs
    rw [findField?, findField?, found, ← occurs.nil_eq]
  | [m] =>
    rw [found] at occurs
    rw [findField?, findField?, found, ← List.singleton_perm.mp occurs]
  | m :: m' :: more =>
    have several : 1 < (occurrences names members).length := by simp [found]
    rw [findField?_eq_none several, findField?_eq_none (occurs.length_eq ▸ several)]

/-- A member that is no field is not read. -/
theorem findField?_add (unnamed : key ∉ names) :
    findField? names (before ++ (some key, d) :: after) = findField? names (before ++ after) := by
  rw [findField?, findField?, occurrences_append, occurrences_cons_of_not_mem unnamed,
    ← occurrences_append]

/-- Where a field stands alone its value is read, and otherwise nothing. -/
theorem findField?_member (named : key ∈ names) :
    findField? names (before ++ (some key, d) :: after) =
      if occurrences names (before ++ after) = [] then some (some d) else none := by
  rw [findField?, occurrences_append, occurrences_append, occurrences_cons_of_mem named]
  cases occurrences names before with
  | nil => cases occurrences names after <;> rfl
  | cons m rest => cases rest <;> rfl

/-- What is found of a field is what is written. -/
theorem findField?_of_mem {members : List (Quoted × Document)} (named : key ∈ names)
    (written : (some key, d) ∈ members) {found : Option Document}
    (finds : findField? names members = some found) : found = some d := by
  obtain ⟨before, after, rfl⟩ := List.append_of_mem written
  rw [findField?_member named] at finds
  split at finds
  · exact (Option.some.inj finds).symm
  · cases finds

/-- What is found of a field with one name is written under it. -/
theorem mem_of_findField? {members : List (Quoted × Document)}
    (finds : findField? [key] members = some (some d)) : (some key, d) ∈ members := by
  unfold findField? at finds
  split at finds
  · cases finds
  · rename_i name value only
    cases finds
    have occurs : (name, d) ∈ occurrences [key] members := only ▸ List.mem_singleton_self _
    obtain ⟨member, named⟩ := List.mem_filter.mp occurs
    cases name with
    | none => cases named
    | some own =>
      have same : own = key := by simpa using named
      exact same ▸ member
  · cases finds

/-- One member in place of another, under a name of the same field, if it is read as the same. -/
theorem said_replace (together : key ∈ names ↔ key' ∈ names)
    (same : key ∈ names → read (some d) = read (some d')) :
    said names read (before ++ (some key, d) :: after) =
      said names read (before ++ (some key', d') :: after) := by
  by_cases named : key ∈ names
  · rw [said, said, findField?_member named, findField?_member (together.mp named)]
    split
    · exact same named
    · rfl
  · rw [said, said, findField?_add named, findField?_add fun named' => named (together.mpr named')]

/-- A field that was absent, if it is read as its absence. -/
theorem said_imply (absent : key ∈ names → occurrences names (before ++ after) = [])
    (same : key ∈ names → read none = read (some d)) :
    said names read (before ++ after) = said names read (before ++ (some key, d) :: after) := by
  by_cases named : key ∈ names
  · rw [said, said, findField?_member named, if_pos (absent named), findField?, absent named]
    exact same named
  · rw [said, said, findField?_add named]

theorem SaysTwice.findField? {members : List (Quoted × Document)}
    (twice : SaysTwice names members) : findField? names members = none := by
  obtain ⟨before, between, after, key, key', d, d', named, named', rfl⟩ := twice
  rw [findField?_member named, occurrences_append, occurrences_append,
    occurrences_cons_of_mem named']
  simp

end

/-! ### What is read of a record -/

variable {known : List FieldNames} {implied : List (String × Document)}
  {alike : String → Document → Document → Prop} {members members' : List (Quoted × Document)}

/-- A field is read as the same if it is absent and if it is written as implied, and if its value is
written in other words. -/
structure Heeds {α : Type} (implied : List (String × Document))
    (alike : String → Document → Document → Prop) (names : FieldNames)
    (read : Option Document → Option α) : Prop where
  implied : ∀ key ∈ names, ∀ d, (key, d) ∈ implied → read none = read (some d)
  alike : ∀ key ∈ names, ∀ d d', alike key d d' → read (some d) = read (some d')

/-- Other words do not change what is read of a field, as long as no two fields share a name. -/
theorem Rewords.said {α : Type} (rewords : Rewords known implied alike members members')
    (apart : ∀ names ∈ known, ∀ names' ∈ known, ∀ key ∈ names, key ∈ names' → names = names')
    {names : FieldNames} (field : names ∈ known) {read : Option Document → Option α}
    (heeds : Heeds implied alike names read) :
    Json.said names read members = Json.said names read members' := by
  cases rewords with
  | reorder order => rw [Json.said, Json.said, findField?_perm order]
  | @rename before after names' key key' d other named named' =>
    refine said_replace ⟨fun mine => ?_, fun mine => ?_⟩ fun _ => rfl
    · exact apart _ other _ field key named mine ▸ named'
    · exact apart _ other _ field key' named' mine ▸ named
  | add unknown => rw [Json.said, Json.said, findField?_add (unknown names field)]
  | @imply before after names' key d other named absent meant =>
    refine said_imply (fun mine => ?_) fun mine => heeds.implied key mine d meant
    obtain rfl := apart _ other _ field key named mine
    refine List.filter_eq_nil_iff.mpr fun m member => ?_
    obtain ⟨name, value⟩ := m
    cases name with
    | none => simp
    | some name => simpa using fun written => absent name written value member
  | revalue same => exact said_replace Iff.rfl fun mine => heeds.alike _ mine _ _ same

/-- Other words bring in no key without a meaning. -/
theorem Rewords.all_isSome (rewords : Rewords known implied alike members members') :
    (members.all fun m => m.1.isSome) = members'.all fun m => m.1.isSome := by
  cases rewords with
  | reorder order => exact order.all_eq
  | rename | add | imply | revalue => simp

end ServiceBroker.Json
