import ServiceBroker.NameMap

/-! Forms in which data may be written, such as JSON documents or settings. What a plan consists of
is said once, in terms of a form; the form says how texts, numbers, lists and records are spelled in
it. -/
namespace ServiceBroker

/-- A field of a record: the names it may be written under. -/
abbrev FieldNames := List String

/-- A form of data: what a piece of it spells, if it spells something of the kind. -/
structure Form (σ : Type) where
  text : σ → Option String
  word32 : σ → Option UInt32
  /-- A value is said not to be there. -/
  isNothing : σ → Bool
  list : σ → Option (List σ)
  /-- Entries under names that are data. -/
  map : σ → Option (List (String × σ))
  /-- What a record says about each of its fields. -/
  fields : List FieldNames → σ → Option (List (Option σ))

namespace Form

variable {σ α : Type}

def required (read : σ → Option α) (field : Option σ) : Option α := field.bind read

/-- A field that has a value when it is absent. -/
def orElse (default : α) (read : σ → Option α) : Option σ → Option α
  | none => some default
  | some s => read s

def nullable (form : Form σ) (read : σ → Option α) (s : σ) : Option (Option α) :=
  if form.isNothing s then some none else (read s).map some

def listOf (form : Form σ) (read : σ → Option α) (s : σ) : Option (List α) :=
  (form.list s).bind fun items => items.mapM read

/-- A map. The last entry of a repeated name counts, but each has to be well formed. -/
def mapOf (form : Form σ) (read : σ → Option α) (s : σ) : Option (NameMap α) :=
  (form.map s).bind fun entries =>
    (entries.mapM fun (e : String × σ) => (read e.2).map fun a => (e.1, a)).map NameMap.ofList

end Form

end ServiceBroker
