import Mathlib.Data.List.Forall2
import ServiceBroker.Catalog.Read
import ServiceBroker.Proofs.Catalog.Entries
import ServiceBroker.Settings.Form

/-! What a catalog that was read from settings says, in terms of the settings: the amounts of
resources among quotas, the id of a plan and what one instance of it takes. -/
namespace ServiceBroker

section Lists

variable {α β : Type} {f : α → Option β}

/-- A list was read if each of its items was. -/
theorem map_eq_map_some_of_mapM {l : List α} {r : List β} (read : l.mapM f = some r) :
    l.map f = r.map some := by
  induction l generalizing r with
  | nil =>
    cases read
    rfl
  | cons a rest ih =>
    simp only [List.mapM_cons, Option.bind_eq_bind, Option.pure_def, Option.bind_eq_some_iff,
      Option.some.injEq] at read
    obtain ⟨b, head, bs, tail, rfl⟩ := read
    rw [List.map_cons, List.map_cons, head, ih tail]

theorem forall₂_of_mapM {l : List α} {r : List β} (read : l.mapM f = some r) :
    List.Forall₂ (fun a b => f a = some b) l r := by
  rw [← List.forall₂_map_right_iff, ← List.forall₂_map_left_iff, map_eq_map_some_of_mapM read,
    List.forall₂_eq_eq_eq]

end Lists

namespace Form

variable {σ α : Type} {read : σ → Option α}

/-- Entries that are read one by one say the same under every name. -/
theorem get?_foldl_insert_read {entries : List (String × σ)} {out : List (String × α)}
    (each : (entries.mapM fun e => (read e.2).map fun a => (e.1, a)) = some out) {m : NameMap σ}
    {m' : NameMap α} (same : ∀ name, (m'.get? name).map some = (m.get? name).map read)
    (name : String) :
    ((out.foldl (fun m e => m.insert e.1 e.2) m').get? name).map some =
      ((entries.foldl (fun m e => m.insert e.1 e.2) m).get? name).map read := by
  induction entries generalizing out m m' with
  | nil =>
    cases each
    exact same name
  | cons e rest ih =>
    simp only [List.mapM_cons, Option.bind_eq_bind, Option.pure_def, Option.bind_eq_some_iff,
      Option.map_eq_some_iff, Option.some.injEq] at each
    obtain ⟨_, ⟨a, head, rfl⟩, out', tail, rfl⟩ := each
    refine ih tail fun wanted => ?_
    rw [NameMap.get?_insert, NameMap.get?_insert]
    split
    · rw [Option.map_some, Option.map_some, head]
    · exact same wanted

theorem get?_mapOf {form : Form σ} {s : σ} {m : NameMap α} (mapped : form.mapOf read s = some m) :
    ∃ entries, form.map s = some entries ∧ ∀ name,
      (m.get? name).map some = ((NameMap.ofList entries).get? name).map read := by
  obtain ⟨entries, table, each⟩ := Option.bind_eq_some_iff.mp mapped
  obtain ⟨out, out_each, rfl⟩ := Option.map_eq_some_iff.mp each
  exact ⟨entries, table, get?_foldl_insert_read out_each fun _ => rfl⟩

end Form

namespace Settings

namespace Setting

/-- What a record says about a field: a table under its name, a list at its place. -/
def field? (name : String) (place : Nat) : Setting → Option Setting
  | .table entries => findEntry name entries
  | .list items => items[place]?
  | _ => none

theorem findEntry_eq_head? (name : String) (entries : List (String × Setting)) :
    findEntry name entries = (entries.filter fun e => e.1 == name).head?.map Prod.snd := by
  induction entries with
  | nil => rfl
  | cons e rest ih =>
    obtain ⟨key, held⟩ := e
    by_cases same : key = name
    · simp [findEntry, same]
    · simp [findEntry, same, ih]

theorem contains_singleton (name : String) :
    (fun e : String × Setting => [name].contains e.1) = fun e => e.1 == name := by
  funext e
  rw [List.contains_cons, List.contains_nil, Bool.or_false]

theorem findField?_eq_some {name : String} {entries : List (String × Setting)}
    {answer : Option Setting} (found : findField? [name] entries = some answer) :
    findEntry name entries = answer := by
  rw [findField?, contains_singleton] at found
  rw [findEntry_eq_head?]
  split at found
  · rename_i none
    cases found
    rw [none]
    rfl
  · rename_i alone
    cases found
    rw [alone]
    rfl
  · cases found

/-- The fields of a record, one for each of its names. -/
theorem fields_eq {s : Setting} (names : List String) {fields : List (Option Setting)}
    (read : s.fields? (names.map fun name => [name]) = some fields) :
    fields = names.zipIdx.map fun field => s.field? field.1 field.2 := by
  refine List.ext_getElem? fun i => ?_
  rw [List.getElem?_map, List.getElem?_zipIdx, Nat.zero_add, Option.map_map]
  cases s with
  | table entries =>
    have each := congrArg (·[i]?) (map_eq_map_some_of_mapM read)
    simp only [List.getElem?_map] at each
    cases named : names[i]? with
    | none =>
      rw [named] at each
      exact Option.map_eq_none_iff.mp each.symm
    | some name =>
      rw [named] at each
      obtain ⟨answer, held, found⟩ := Option.map_eq_some_iff.mp each.symm
      rw [held, Option.map_some, Function.comp_apply, field?, findField?_eq_some found.symm]
  | list items =>
    cases read
    rw [List.length_map]
    cases named : names[i]? with
    | none =>
      have outside : names.length ≤ i := List.getElem?_eq_none_iff.mp named
      rw [List.getElem?_eq_none_iff.mpr (by simp; omega), Option.map_none]
    | some name =>
      have bound : i < names.length := (List.getElem?_eq_some_iff.mp named).1
      -- A list says nothing about the fields behind its last item.
      by_cases short : i < items.length
      · rw [List.getElem?_append_left (by simp; omega)]
        simp [field?, bound, short]
      · rw [List.getElem?_append_right (by simp; omega), List.getElem?_replicate,
          if_pos (by simp; omega)]
        simp [field?, Nat.not_lt.mp short]
  | _ => cases read

/-- Whatever is built from a record is built from what it says about its fields. -/
theorem build_of_read {α : Type} {s : Setting} (names : List String)
    {build : List (Option Setting) → Option α} {a : α}
    (read : (s.fields? (names.map fun name => [name])).bind build = some a) :
    build (names.zipIdx.map fun field => s.field? field.1 field.2) = some a := by
  obtain ⟨fields, given, built⟩ := Option.bind_eq_some_iff.mp read
  rwa [fields_eq names given] at built

theorem findField?_of_ordered (name : String) {entries : List (String × Setting)}
    (ordered : Ordered entries) :
    findField? [name] entries = some (findEntry name entries) := by
  rw [findField?, contains_singleton, findEntry_eq_head?]
  cases kept : entries.filter fun e => e.1 == name with
  | nil => rfl
  | cons e others =>
    cases others with
    | nil => rfl
    | cons e' rest =>
      -- Two entries of one name would not be in increasing order.
      have twice := List.Pairwise.filter (fun e => e.1 == name) ordered
      have named (x : String × Setting) (member : x ∈ e :: e' :: rest) : x.1 = name := by
        rw [← kept] at member
        exact beq_iff_eq.mp (List.mem_filter.mp member).2
      rw [kept] at twice
      have less : e.1 < e'.1 := (List.pairwise_cons.mp twice).1 e' List.mem_cons_self
      rw [named e (by simp), named e' (by simp)] at less
      exact absurd less (String.lt_irrefl _)

/-- What a table with increasing names says about the fields of a record. -/
theorem fields?_of_ordered (names : List String) {entries : List (String × Setting)}
    (ordered : Ordered entries) :
    (Setting.table entries).fields? (names.map fun name => [name]) =
      some (names.map fun name => findEntry name entries) := by
  rw [fields?]
  induction names with
  | nil => rfl
  | cons name rest ih =>
    rw [List.map_cons, List.mapM_cons, findField?_of_ordered name ordered, ih]
    rfl

/-- A record that is written as a table is built from what the table says about its fields. -/
theorem build_of_ordered {α : Type} (names : List String) {entries : List (String × Setting)}
    (ordered : Ordered entries) {build : List (Option Setting) → Option α} :
    ((Setting.table entries).fields? (names.map fun name => [name])).bind build =
      build (names.map fun name => findEntry name entries) := by
  rw [fields?_of_ordered names ordered, Option.bind_some]

/-- What is read as a record is the same as a table, unless it is a list. -/
theorem read_table_of_noList {α : Type} {known : List FieldNames}
    {build : List (Option Setting) → Option α} {record : Setting} {a : α}
    (noList : ∀ items, record ≠ .list items) (read : (record.fields? known).bind build = some a) :
    ((Setting.table record.entries).fields? known).bind build = some a := by
  cases record with
  | table => exact read
  | list items => exact absurd rfl (noList items)
  | _ => cases read

/-- What a record says about a field, as a number. -/
def number? (name : String) (place : Nat) (s : Setting) : Option UInt32 :=
  (s.field? name place).bind word32?

/-- What quotas say about a resource kind. -/
def resource? (kind : String) (quotas : Setting) : Option Setting :=
  (quotas.field? "resources" 1).bind fun r => (NameMap.ofList r.entries).get? kind

/-- What one instance of a plan takes of a resource kind. -/
def costOf (kind : String) (plan : Setting) : Nat :=
  ((((plan.field? "quotas" 2).bind (resource? kind)).bind (number? "cost" 1)).map
    UInt32.toNat).getD 0

/-- The id of a plan. -/
def planId (plan : Setting) : String := ((plan.field? "id" 0).bind text?).getD ""

end Setting

/-- A number that may be missing or said not to be there. -/
theorem number_of_read {field : Option Setting} {number : Option UInt32}
    (read : Form.orElse none (Form.nullable form form.word32) field = some number) :
    number = field.bind Setting.word32? := by
  cases field with
  | none =>
    cases read
    rfl
  | some s =>
    rw [Form.orElse, Form.nullable] at read
    split at read
    · rename_i missing
      cases s <;> cases missing
      cases read
      rfl
    · obtain ⟨_, given, rfl⟩ := Option.map_eq_some_iff.mp read
      exact given.symm

theorem resourceQuota_of_read {s : Setting} {quota : ResourceQuota}
    (read : ResourceQuota.read form s = some quota) :
    quota = ⟨s.number? "limit" 0, s.number? "cost" 1⟩ := by
  have read := Setting.build_of_read ["limit", "cost"] read
  simp only [List.zipIdx_cons, List.zipIdx_nil, List.map_cons, List.map_nil, Option.bind_eq_bind,
    Option.pure_def, Option.bind_eq_some_iff, Option.some.injEq] at read
  obtain ⟨_, limit, _, cost, rfl⟩ := read
  rw [number_of_read limit, number_of_read cost]
  rfl

theorem kinds_of_read {r : Setting} {kinds : NameMap ResourceQuota}
    (mapped : Form.mapOf form (ResourceQuota.read form) r = some kinds) (kind : String) :
    kinds.get? kind = ((NameMap.ofList r.entries).get? kind).map fun entry =>
      ⟨entry.number? "limit" 0, entry.number? "cost" 1⟩ := by
  obtain ⟨entries, table, each⟩ := Form.get?_mapOf mapped
  obtain rfl : r.entries = entries := by
    cases r <;> cases table
    rfl
  have held := each kind
  cases found : (NameMap.ofList r.entries).get? kind with
  | none =>
    rw [found] at held
    exact Option.map_eq_none_iff.mp held
  | some entry =>
    rw [found] at held
    obtain ⟨quota, kept, read⟩ := Option.map_eq_some_iff.mp held
    rw [kept, resourceQuota_of_read read.symm]
    rfl

/-- The resources of quotas are those of the settings, kind by kind. -/
theorem resources_of_read {s : Setting} {quotas : Quotas}
    (read : Quotas.read form s = some quotas) (kind : String) :
    quotas.resources.get? kind =
      (s.resource? kind).map fun r => ⟨r.number? "limit" 0, r.number? "cost" 1⟩ := by
  have read := Setting.build_of_read ["service_instance_limit", "resources"] read
  simp only [List.zipIdx_cons, List.zipIdx_nil, List.map_cons, List.map_nil, Option.bind_eq_bind,
    Option.pure_def, Option.bind_eq_some_iff, Option.some.injEq] at read
  obtain ⟨_, _, _, mapped, rfl⟩ := read
  rw [Setting.resource?]
  cases field : s.field? "resources" 1 with
  | none =>
    rw [field] at mapped
    cases mapped
    rfl
  | some r =>
    rw [field] at mapped
    exact kinds_of_read mapped kind

theorem limit_of_read {s : Setting} {quotas : Quotas} (read : Quotas.read form s = some quotas)
    (kind : String) :
    quotas.limits.resources.get? kind = (s.resource? kind).bind (Setting.number? "limit" 0) := by
  rw [Quotas.limits, NameMap.get?_filterMap, resources_of_read read, Option.bind_map]
  rfl

theorem cost_of_read {s : Setting} {quotas : Quotas} (read : Quotas.read form s = some quotas)
    (kind : String) :
    quotas.costs.get? kind = (s.resource? kind).bind (Setting.number? "cost" 1) := by
  rw [Quotas.costs, NameMap.get?_filterMap, resources_of_read read, Option.bind_map]
  rfl

/-- A plan has the id and the costs that its settings give it. -/
theorem plan_of_read {s : Setting} {plan : Plan} (read : Plan.read form s = some plan) :
    plan.id = s.planId ∧ ∀ kind, plan.cost kind = s.costOf kind := by
  have read := Setting.build_of_read ["id", "name", "quotas", "lifecycle_errands"] read
  simp only [List.zipIdx_cons, List.zipIdx_nil, List.map_cons, List.map_nil, Option.bind_eq_bind,
    Option.pure_def, Option.bind_eq_some_iff, Option.some.injEq] at read
  obtain ⟨_, id, _, _, _, quotas, _, _, rfl⟩ := read
  constructor
  · rw [Setting.planId, show (s.field? "id" 0).bind Setting.text? = _ from id]
    rfl
  · intro kind
    rw [Plan.cost, Setting.costOf]
    cases field : s.field? "quotas" 2 with
    | none =>
      rw [field] at quotas
      cases quotas
      rfl
    | some q =>
      rw [field] at quotas
      rw [cost_of_read quotas]
      rfl

/-- The global quotas and the plans of an offering are those of its settings. -/
theorem offering_of_read {s : Setting} {offering : Offering}
    (read : Offering.read form s = some offering) :
    Form.orElse {} (Quotas.read form) (s.field? "global_quotas" 2) = some offering.globalQuotas ∧
      Form.orElse [] (Form.listOf form (Plan.read form)) (s.field? "plans" 3) =
        some offering.plans := by
  have read := Setting.build_of_read ["id", "name", "global_quotas", "plans"] read
  simp only [List.zipIdx_cons, List.zipIdx_nil, List.map_cons, List.map_nil, Option.bind_eq_bind,
    Option.pure_def, Option.bind_eq_some_iff, Option.some.injEq] at read
  obtain ⟨_, _, _, _, _, quotas, _, plans, rfl⟩ := read
  exact ⟨quotas, plans⟩

theorem config_of_read {s : Setting} {config : BrokerConfig}
    (read : BrokerConfig.read form s = some config) :
    (s.field? "service_catalog" 1).bind (Offering.read form) = some config.offering := by
  have read := Setting.build_of_read ["broker", "service_catalog"] read
  simp only [List.zipIdx_cons, List.zipIdx_nil, List.map_cons, List.map_nil, Option.bind_eq_bind,
    Option.pure_def, Option.bind_eq_some_iff, Option.some.injEq] at read
  obtain ⟨_, _, _, offering, rfl⟩ := read
  exact offering

section Read

variable {entries : List (String × Setting)}

theorem read_config (ordered : Ordered entries) :
    BrokerConfig.read form (.table entries) = (do
      let settings ← Form.orElse {} (BrokerSettings.read form) (findEntry "broker" entries)
      let offering ← Form.required (Offering.read form) (findEntry "service_catalog" entries)
      return ⟨settings, offering⟩) :=
  Setting.build_of_ordered ["broker", "service_catalog"] ordered

theorem read_settings (ordered : Ordered entries) :
    BrokerSettings.read form (.table entries) = (do
      let usual : BrokerSettings := {}
      let start ← Form.orElse usual.deploymentPrefix Setting.text?
        (findEntry "deployment_prefix" entries)
      let environment ← Form.orElse usual.environment Setting.text?
        (findEntry "environment" entries)
      return ⟨start, environment⟩) :=
  Setting.build_of_ordered ["deployment_prefix", "environment"] ordered

theorem read_offering (ordered : Ordered entries) :
    Offering.read form (.table entries) = (do
      let id ← Form.required Setting.text? (findEntry "id" entries)
      let name ← Form.required Setting.text? (findEntry "name" entries)
      let quotas ← Form.orElse {} (Quotas.read form) (findEntry "global_quotas" entries)
      let plans ← Form.orElse [] (form.listOf (Plan.read form)) (findEntry "plans" entries)
      return ⟨id, name, quotas, plans⟩) :=
  Setting.build_of_ordered ["id", "name", "global_quotas", "plans"] ordered

/-- What is read with another record of the broker's own settings. -/
theorem read_insert_broker (ordered : Ordered entries) (record : Setting) :
    BrokerConfig.read form (.table (insertEntry "broker" record entries)) = (do
      let settings ← BrokerSettings.read form record
      let offering ← Form.required (Offering.read form) (findEntry "service_catalog" entries)
      return ⟨settings, offering⟩) := by
  rw [read_config (ordered_insertEntry _ _ ordered), findEntry_insertEntry, findEntry_insertEntry,
    if_pos rfl, if_neg (by decide)]
  rfl

/-- What is read with another catalog. -/
theorem read_insert_catalog (ordered : Ordered entries) (record : Setting) :
    BrokerConfig.read form (.table (insertEntry "service_catalog" record entries)) = (do
      let settings ← Form.orElse {} (BrokerSettings.read form) (findEntry "broker" entries)
      let offering ← Offering.read form record
      return ⟨settings, offering⟩) := by
  rw [read_config (ordered_insertEntry _ _ ordered), findEntry_insertEntry, findEntry_insertEntry,
    if_pos rfl, if_neg (by decide)]
  rfl

end Read

end Settings

end ServiceBroker
