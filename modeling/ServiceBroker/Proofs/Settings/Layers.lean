import ServiceBroker.Proofs.Catalog.Entries
import ServiceBroker.Settings.Layer

/-! Where a layer leaves what a source says. Names become small on the way, so entries of one table
that differ in their spelling only end up in one place. An entry that is alone under its name is
found there, laid over what was there before. -/
namespace ServiceBroker.Settings

/-- The steps begin with a name, in some spelling. -/
def leadsInto (name : String) : List PathStep → Bool
  | .name first :: _ => Text.lower first == name
  | _ => false

/-- The setting of the only entry whose steps begin with a name, if they end there too. -/
def only? (steps : String → List PathStep) (name : String) (entries : List (String × Setting)) :
    Option Setting :=
  match entries.filter fun e => leadsInto name (steps e.1) with
  | [(key, setting)] => if (steps key).tail.isEmpty then some setting else none
  | _ => none

section Only

variable {steps : String → List PathStep} {name : String} {source : List (String × Setting)}
  {s : Setting} {e : String × Setting}

theorem only?_cons_of_leadsInto (into : leadsInto name (steps e.1))
    (found : only? steps name (e :: source) = some s) :
    (steps e.1).tail = [] ∧ e.2 = s ∧ ∀ e' ∈ source, leadsInto name (steps e'.1) = false := by
  simp only [only?, List.filter_cons, into, if_true] at found
  split at found
  · rename_i alone
    obtain ⟨rfl, none⟩ := List.cons.inj alone
    split at found
    · rename_i noFurther
      cases found
      exact ⟨List.isEmpty_iff.mp noFurther, rfl, by simpa [List.filter_eq_nil_iff] using none⟩
    · cases found
  · cases found

theorem only?_cons_of_apart (apart : leadsInto name (steps e.1) = false) :
    only? steps name (e :: source) = only? steps name source := by
  simp only [only?, List.filter_cons, apart, Bool.false_eq_true, if_false]

end Only

theorem path_eq (text : String) : ∃ first rest, path text = .name first :: rest := by
  simp only [path]
  split
  · exact ⟨_, _, rfl⟩
  · exact ⟨_, _, rfl⟩

namespace Setting

/-- What a table says under a name, in whichever spelling, if it says one thing. -/
def under? (name : String) (s : Setting) : Option Setting :=
  only? (fun key => [.name key]) name s.entries

/-- Entries put over settings one after the other, each at its own steps. -/
def lay (steps : String → List PathStep) (below : Setting) (source : List (String × Setting)) :
    Setting :=
  source.foldl (fun below e => put e.2 (steps e.1) below) below

/-- Laying a table over another is the same as putting its entries one after the other. -/
theorem entriesOver_eq_lay (entries below : List (String × Setting)) :
    entriesOver entries below = (lay (fun key => [.name key]) (.table below) entries).entries := by
  induction entries generalizing below with
  | nil =>
    rw [entriesOver]
    rfl
  | cons head rest ih =>
    obtain ⟨key, setting⟩ := head
    rw [entriesOver, ih]
    rfl

theorem findEntry_put (name first : String) (rest : List PathStep) (s below : Setting) :
    findEntry name (put s (.name first :: rest) below).entries =
      if name = Text.lower first then
        some (put s rest ((findEntry name below.entries).getD .nothing))
      else findEntry name below.entries := by
  rw [put, entries, findEntry_insertEntry]
  split
  · rename_i same
    rw [same]
  · rfl

section Lay

variable {steps : String → List PathStep} {name : String} {source : List (String × Setting)}
  {s : Setting}

/-- What no entry leads into stays as it is. -/
theorem findEntry_lay_of_apart (named : ∀ key, ∃ first rest, steps key = .name first :: rest)
    (apart : ∀ e ∈ source, leadsInto name (steps e.1) = false) (below : Setting) :
    findEntry name (lay steps below source).entries = findEntry name below.entries := by
  induction source generalizing below with
  | nil => rfl
  | cons e later ih =>
    obtain ⟨first, rest, shape⟩ := named e.1
    have other : name ≠ Text.lower first := by
      rintro rfl
      simpa [shape, leadsInto] using apart e List.mem_cons_self
    have kept := findEntry_put name first rest e.2 below
    rw [if_neg other, ← shape] at kept
    exact (ih (fun e' member => apart e' (List.mem_cons_of_mem _ member)) _).trans kept

/-- The only entry that leads into a name is found there. -/
theorem findEntry_lay (named : ∀ key, ∃ first rest, steps key = .name first :: rest)
    (found : only? steps name source = some s) (below : Setting) :
    findEntry name (lay steps below source).entries =
      some (s.laidOver ((findEntry name below.entries).getD .nothing)) := by
  induction source generalizing below with
  | nil => cases found
  | cons e later ih =>
    obtain ⟨first, rest, shape⟩ := named e.1
    have put := findEntry_put name first rest e.2 below
    rw [← shape] at put
    -- Either this is the entry, and those behind it leave it alone, or it is still to come.
    by_cases same : name = Text.lower first
    · have into : leadsInto name (steps e.1) := by
        rw [shape, leadsInto, same, beq_self_eq_true]
      obtain ⟨noFurther, rfl, apart⟩ := only?_cons_of_leadsInto into found
      rw [shape, List.tail_cons] at noFurther
      subst noFurther
      refine (findEntry_lay_of_apart named apart _).trans ?_
      rw [put, if_pos same, Setting.put]
    · have apart : leadsInto name (steps e.1) = false := by
        rw [shape, leadsInto, beq_eq_false_iff_ne]
        exact Ne.symm same
      rw [only?_cons_of_apart apart] at found
      refine (ih found _).trans ?_
      rw [put, if_neg same]

theorem ordered_lay (named : ∀ key, ∃ first rest, steps key = .name first :: rest)
    {below : Setting} (ordered : Ordered below.entries) :
    Ordered (lay steps below source).entries := by
  induction source generalizing below with
  | nil => exact ordered
  | cons e later ih =>
    obtain ⟨_, _, shape⟩ := named e.1
    have first : Ordered (put e.2 (steps e.1) below).entries := by
      rw [shape, put]
      exact ordered_insertEntry _ _ ordered
    exact ih first

end Lay

section Sorted

variable {below : Setting}

/-- Where names increase they still do when a setting is laid over. -/
theorem ordered_laidOver (setting : Setting) (ordered : Ordered below.entries) :
    Ordered (setting.laidOver below).entries := by
  cases setting with
  | table entries =>
    rw [laidOver, Setting.entries, entriesOver_eq_lay]
    exact ordered_lay (fun key => ⟨key, [], rfl⟩) ordered
  | _ =>
    rw [laidOver]
    exact List.Pairwise.nil

theorem ordered_put (setting : Setting) (steps : List PathStep) (ordered : Ordered below.entries) :
    Ordered (put setting steps below).entries := by
  cases steps with
  | nil => exact ordered_laidOver setting ordered
  | cons step rest =>
    cases step with
    | name name => exact ordered_insertEntry _ _ ordered
    | place index => exact List.Pairwise.nil

/-- A table in which names increase, as they do in the tables that it has as entries. -/
structure Sorted (s : Setting) : Prop where
  table : s = .table s.entries
  names : Ordered s.entries
  records : ∀ e ∈ s.entries, Ordered e.2.entries

theorem Sorted.ordered_findEntry (sorted : below.Sorted) (name : String) :
    Ordered ((findEntry name below.entries).getD .nothing).entries := by
  cases found : findEntry name below.entries with
  | none => exact List.Pairwise.nil
  | some s => exact sorted.records _ (mem_of_findEntry found)

theorem Sorted.insert (sorted : below.Sorted) (name : String) {setting : Setting}
    (ordered : Ordered setting.entries) :
    Sorted (.table (insertEntry name setting below.entries)) where
  table := rfl
  names := ordered_insertEntry _ _ sorted.names
  records e member := by
    rcases mem_insertEntry member with rfl | old
    · exact ordered
    · exact sorted.records e old

/-- Sources leave tables sorted, whatever their paths are. -/
theorem Sorted.layer (sorted : below.Sorted) (source : List (String × Setting)) :
    (below.layer source).Sorted := by
  induction source generalizing below with
  | nil => exact sorted
  | cons e rest ih =>
    obtain ⟨name, steps, shape⟩ := Settings.path_eq e.1
    have first : (put e.2 (path e.1) below).Sorted := by
      rw [shape]
      exact sorted.insert _ (ordered_put _ _ (sorted.ordered_findEntry _))
    exact ih first

theorem sorted_emptyTable : emptyTable.Sorted where
  table := rfl
  names := List.Pairwise.nil
  records _ impossible := nomatch impossible

end Sorted

variable {s t : Setting} {name : String}

theorem findEntry_of_under? (found : s.under? name = some t) :
    findEntry name (s.laidOver .nothing).entries = some (t.laidOver .nothing) := by
  cases s with
  | table entries =>
    rw [laidOver, Setting.entries, entriesOver_eq_lay]
    exact findEntry_lay (fun key => ⟨key, [], rfl⟩) found _
  | _ => cases found

/-- What stands under a name on the outside of a source, and nowhere below it by a path, is found
there. -/
theorem findEntry_layer {source : List (String × Setting)}
    (found : only? path name source = some t) :
    findEntry name (layer .emptyTable source).entries = some (t.laidOver .nothing) :=
  findEntry_lay path_eq found _

end Setting

end ServiceBroker.Settings
