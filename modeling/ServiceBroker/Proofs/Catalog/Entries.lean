import ServiceBroker.NameMap

/-! What a map of names says, read off its entries. A name occurs once, so it stands for the value of
its only entry. -/
namespace ServiceBroker

variable {α : Type}

/-- A name is found as it stands in the list if no entry before it has that name. -/
theorem mem_of_findEntry {name : String} {a : α} {entries : List (String × α)}
    (found : findEntry name entries = some a) : (name, a) ∈ entries := by
  induction entries with
  | nil => cases found
  | cons head rest ih =>
    obtain ⟨key, held⟩ := head
    simp only [findEntry] at found
    split at found
    · rename_i same
      cases found
      exact same ▸ List.mem_cons_self
    · exact List.mem_cons_of_mem _ (ih found)

/-- Where names increase, every entry is found under its name. -/
theorem findEntry_of_mem {name : String} {a : α} {entries : List (String × α)}
    (ordered : Ordered entries) (member : (name, a) ∈ entries) :
    findEntry name entries = some a := by
  induction entries with
  | nil => cases member
  | cons head rest ih =>
    obtain ⟨key, held⟩ := head
    obtain ⟨below, tail⟩ := List.pairwise_cons.1 ordered
    rcases List.mem_cons.1 member with same | later
    · cases same
      rw [findEntry, if_pos rfl]
    · have lower : key < name := below _ later
      have other : key ≠ name := by
        rintro rfl
        exact String.lt_irrefl _ lower
      rw [findEntry, if_neg other, ih tail later]

theorem findEntry_insertEntry (wanted name : String) (a : α) (entries : List (String × α)) :
    findEntry wanted (insertEntry name a entries) =
      if wanted = name then some a else findEntry wanted entries := by
  induction entries with
  | nil => simp only [insertEntry, findEntry, eq_comm]
  | cons head rest ih =>
    obtain ⟨key, held⟩ := head
    by_cases same : wanted = name
    · subst same
      rw [if_pos rfl] at ih ⊢
      rw [insertEntry]
      split
      · rw [findEntry, if_pos rfl]
      · split
        · rw [findEntry, if_pos rfl]
        · rename_i other
          rw [findEntry, if_neg (Ne.symm other), ih]
    · simp only [insertEntry, if_neg same]
      split
      · rw [findEntry, if_neg (Ne.symm same)]
      · split
        · rename_i replaced
          rw [findEntry, findEntry, if_neg (Ne.symm same), if_neg (replaced ▸ Ne.symm same)]
        · rw [findEntry, findEntry, ih, if_neg same]

/-- A name that comes after all others is added at the end. -/
theorem insertEntry_of_above {name : String} {a : α} {entries : List (String × α)}
    (above : ∀ e ∈ entries, e.1 < name) : insertEntry name a entries = entries ++ [(name, a)] := by
  induction entries with
  | nil => rfl
  | cons head rest ih =>
    obtain ⟨key, held⟩ := head
    have below : key < name := above _ List.mem_cons_self
    have notBefore : ¬name < key := fun before => String.lt_irrefl _ (String.lt_trans below before)
    have other : name ≠ key := by
      rintro rfl
      exact notBefore below
    rw [insertEntry, if_neg notBefore, if_neg other, ih fun e later => above e (.tail _ later)]
    rfl

/-- An entry that is added to others is the only one with an image if none of the others has one. -/
theorem filterMap_insertEntry {β : Type} {name : String} {g : String × α → Option β} {a : α} {b : β}
    {entries : List (String × α)} (none : entries.filterMap g = []) (image : g (name, a) = some b) :
    (insertEntry name a entries).filterMap g = [b] := by
  induction entries with
  | nil => simp [insertEntry, image]
  | cons head rest ih =>
    obtain ⟨key, held⟩ := head
    obtain ⟨first, others⟩ := List.filterMap_eq_nil_iff.mp none |> List.forall_mem_cons.mp
    have none : rest.filterMap g = [] := List.filterMap_eq_nil_iff.mpr others
    rw [insertEntry]
    split
    · simp [image, first, none]
    · split
      · simp [image, none]
      · simp [first, ih none]

namespace NameMap

theorem get?_eq_some_iff {m : NameMap α} {name : String} {a : α} :
    m.get? name = some a ↔ (name, a) ∈ m.entries :=
  ⟨mem_of_findEntry, findEntry_of_mem m.ordered⟩

theorem get?_eq_none_iff {m : NameMap α} {name : String} :
    m.get? name = none ↔ name ∉ m.entries.map Prod.fst := by
  constructor
  · intro missing member
    obtain ⟨⟨_, a⟩, held, rfl⟩ := List.mem_map.1 member
    rw [get?_eq_some_iff.2 held] at missing
    cases missing
  · intro absent
    cases found : m.get? name with
    | none => rfl
    | some a => exact absurd (List.mem_map.2 ⟨_, get?_eq_some_iff.1 found, rfl⟩) absent

/-- No name occurs twice. -/
theorem nodup_names (m : NameMap α) : (m.entries.map Prod.fst).Nodup :=
  List.pairwise_map.2 <| m.ordered.imp fun {a b} below same => by
    rw [same] at below
    exact String.lt_irrefl _ below

theorem get?_singleton (name : String) (a : α) : (singleton name a).get? name = some a :=
  get?_eq_some_iff.2 List.mem_cons_self

theorem get?_insert (m : NameMap α) (name wanted : String) (a : α) :
    (m.insert name a).get? wanted = if wanted = name then some a else m.get? wanted :=
  findEntry_insertEntry ..

/-- What is found under a name, if the entries are put into a map one after the other. -/
theorem get?_foldl_insert {entries : List (String × α)} (ordered : Ordered entries)
    (m : NameMap α) (name : String) :
    (entries.foldl (fun m e => m.insert e.1 e.2) m).get? name =
      (findEntry name entries).or (m.get? name) := by
  induction entries generalizing m with
  | nil => rfl
  | cons head rest ih =>
    obtain ⟨key, held⟩ := head
    obtain ⟨below, tail⟩ := List.pairwise_cons.1 ordered
    rw [List.foldl_cons, ih tail, get?_insert, findEntry]
    by_cases same : key = name
    · subst same
      cases later : findEntry key rest with
      | none => simp
      | some a => exact absurd (below _ (mem_of_findEntry later)) (String.lt_irrefl _)
    · rw [if_neg same, if_neg (Ne.symm same)]

theorem get?_ofList {entries : List (String × α)} (ordered : Ordered entries) (name : String) :
    (ofList entries).get? name = findEntry name entries := by
  rw [ofList, get?_foldl_insert ordered]
  exact Option.or_none

/-- Entries in name order, put into a map one after the other, are joined to those before them. -/
theorem entries_foldl_insert {m : NameMap α} {entries : List (String × α)}
    (ordered : Ordered (m.entries ++ entries)) :
    (entries.foldl (fun m e => m.insert e.1 e.2) m).entries = m.entries ++ entries := by
  induction entries generalizing m with
  | nil => simp
  | cons head rest ih =>
    obtain ⟨key, held⟩ := head
    have added : (m.insert key held).entries = m.entries ++ [(key, held)] :=
      insertEntry_of_above fun e before =>
        (List.pairwise_append.mp ordered).2.2 e before _ List.mem_cons_self
    rw [List.append_cons, ← added] at ordered ⊢
    exact ih ordered

/-- A map is made of its entries. -/
theorem ofList_entries (m : NameMap α) : ofList m.entries = m :=
  NameMap.ext (entries_foldl_insert (m := empty) m.ordered)

theorem get?_filterMap {β : Type} (f : α → Option β) (m : NameMap α) (name : String) :
    (m.filterMap f).get? name = (m.get? name).bind f := by
  ext b
  simp only [Option.bind_eq_some_iff, get?_eq_some_iff]
  constructor
  · intro member
    obtain ⟨⟨_, a⟩, held, image⟩ := List.mem_filterMap.1 member
    obtain ⟨_, value, same⟩ := Option.map_eq_some_iff.1 image
    cases same
    exact ⟨a, held, value⟩
  · rintro ⟨a, held, value⟩
    exact List.mem_filterMap.2 ⟨_, held, by rw [value]; rfl⟩

end NameMap

end ServiceBroker
