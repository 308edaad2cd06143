import ServiceBroker.Proofs.Catalog.Plans
import ServiceBroker.Proofs.Quota.Room
import ServiceBroker.Proofs.Settings.Layers
import ServiceBroker.Proofs.Settings.Reading
import ServiceBroker.Settings.Load

/-! Limits and costs as a document writes them, against what the quotas make of them. A limit of the
offering is reached through tables, so the name of its kind becomes small; a plan stands in a list,
so the kinds it takes keep their spelling. The two meet in a kind that is written small. -/
namespace ServiceBroker

namespace Settings

/-- A document with a configuration: a YAML text, or a file. -/
inductive Document where
  | yaml (text : String)
  | file (file : File)
  deriving DecidableEq, Inhabited

namespace Document

def settings? : Document → Option (List (String × Setting))
  | yaml text => Language.yaml.settings? text.toList
  | file f => f.settings?

def load (vars : Variables) : Document → Except ConfigError Loaded
  | yaml text => Loaded.ofYaml vars text
  | file f => Loaded.ofFile vars f

/-- No setting comes from anywhere else. -/
def Alone (vars : Variables) : Document → Prop
  | yaml _ => True
  | file _ => ofVariables vars = []

/-- What a document on its own is loaded as is read from its one layer, and has no defect. -/
theorem read_of_load {document : Document} {vars : Variables} (alone : document.Alone vars)
    {source : List (String × Setting)} (reads : document.settings? = some source)
    {loaded : Loaded} (load : document.load vars = .ok loaded) :
    BrokerConfig.read form (.layer .emptyTable source) = some loaded.config ∧
      loaded.config.validate = .ok () := by
  have loads : Loaded.ofSources vars [source] = .ok loaded := by
    cases document with
    | yaml text =>
      have reads : Language.yaml.settings? text.toList = some source := reads
      rw [Document.load, Loaded.ofYaml, reads] at load
      exact load
    | file f =>
      have reads : f.settings? = some source := reads
      have alone : ofVariables vars = [] := alone
      rw [Document.load, Loaded.ofFile, reads, alone] at load
      exact load
  rw [Loaded.ofSources, List.foldl_cons, List.foldl_nil] at loads
  split at loads
  · cases loads
  · rename_i config read
    rw [Loaded.ofConfig] at loads
    split at loads
    · cases loads
    · rename_i valid
      cases loads
      exact ⟨read, valid⟩

end Document

/-! ### What is written -/

/-- The catalog of a source. -/
def catalog? (source : List (String × Setting)) : Option Setting :=
  only? path "service_catalog" source

/-- The limit that a source sets on a kind of resource, for the instances of all plans together. -/
def limit? (kind : String) (source : List (String × Setting)) : Option UInt32 :=
  (((((catalog? source).bind (Setting.under? "global_quotas")).bind
    (Setting.under? "resources")).bind (Setting.under? (Text.lower kind))).bind
      (Setting.under? "limit")).bind Setting.word32?

/-- The plans of a source, in their order. -/
def plans (source : List (String × Setting)) : List Setting :=
  (((catalog? source).bind (Setting.under? "plans")).map Setting.items).getD []

/-- How much of a resource kind the instances of some plans take, going by what is written. -/
def usage (counts : InstanceCounts) (kind : String) (plans : List Setting) : Nat :=
  (plans.map fun p => p.costOf kind * counts.of p.planId).foldr (· + ·) 0

/-! ### What is read -/

namespace Setting

variable {s t : Setting}

theorem field?_of_findEntry {name : String} (found : findEntry name s.entries = some t)
    (place : Nat) : s.field? name place = some t := by
  cases s with
  | table entries => exact found
  | _ => cases found

theorem field?_laidOver {name : String} (found : s.under? name = some t) (place : Nat) :
    (s.laidOver .nothing).field? name place = some (t.laidOver .nothing) :=
  field?_of_findEntry (findEntry_of_under? found) place

theorem resource?_laidOver {kind : String} {r : Setting} (resources : s.under? "resources" = some r)
    (found : r.under? kind = some t) :
    (s.laidOver .nothing).resource? kind = some (t.laidOver .nothing) := by
  rw [resource?, field?_laidOver resources, Option.bind_some, NameMap.get?_ofList]
  · exact findEntry_of_under? found
  · exact ordered_laidOver r List.Pairwise.nil

/-- Numbers stay as they are. -/
theorem laidOver_of_word32? {n : UInt32} (number : s.word32? = some n) (below : Setting) :
    s.laidOver below = s := by
  cases s <;> first | rfl | cases number

end Setting

section Read

variable {source : List (String × Setting)} {config : BrokerConfig}

theorem offering_of_catalog? {c : Setting} (catalog : catalog? source = some c)
    (read : BrokerConfig.read form (.layer .emptyTable source) = some config) :
    Offering.read form (c.laidOver .nothing) = some config.offering := by
  have offering := config_of_read read
  rwa [Setting.field?_of_findEntry (Setting.findEntry_layer catalog)] at offering

/-- A limit is in force for the kind whose name is small. -/
theorem limit_of_limit? {kind : String} {limit : UInt32} (stated : limit? kind source = some limit)
    (read : BrokerConfig.read form (.layer .emptyTable source) = some config) :
    config.offering.globalLimits.resources.get? (Text.lower kind) = some limit := by
  simp only [limit?, Option.bind_eq_some_iff] at stated
  obtain ⟨l, ⟨k, ⟨r, ⟨q, ⟨c, catalog, quotas⟩, resources⟩, found⟩, amount⟩, number⟩ := stated
  have quotasRead := (offering_of_read (offering_of_catalog? catalog read)).1
  rw [Setting.field?_laidOver quotas, Form.orElse] at quotasRead
  rw [Offering.globalLimits, limit_of_read quotasRead, Setting.resource?_laidOver resources found,
    Option.bind_some, Setting.number?, Setting.field?_laidOver amount, Option.bind_some,
    Setting.laidOver_of_word32? number, number]

/-- The plans are those of the list, one by one, as it stands. -/
theorem plans_of_mem {written : Setting} (listed : written ∈ plans source)
    (read : BrokerConfig.read form (.layer .emptyTable source) = some config) :
    (plans source).mapM (Plan.read form) = some config.offering.plans := by
  cases stands : (catalog? source).bind (Setting.under? "plans") with
  | none =>
    rw [plans, stands] at listed
    cases listed
  | some p =>
    obtain ⟨c, catalog, under⟩ := Option.bind_eq_some_iff.mp stands
    rw [plans, stands] at listed ⊢
    cases p with
    | list items =>
      have plansRead := (offering_of_read (offering_of_catalog? catalog read)).2
      rw [Setting.field?_laidOver under] at plansRead
      exact plansRead
    | _ => cases listed

theorem usage_of_read {settings : List Setting} {plans : List Plan}
    (read : settings.mapM (Plan.read form) = some plans) (counts : InstanceCounts) (kind : String) :
    Quota.usage counts kind plans = usage counts kind settings := by
  have same : (settings.map fun s => s.costOf kind * counts.of s.planId) =
      plans.map fun p => p.cost kind * counts.of p.id := by
    rw [← List.forall₂_eq_eq_eq, List.forall₂_map_left_iff, List.forall₂_map_right_iff]
    refine (forall₂_of_mapM read).imp fun s p each => ?_
    obtain ⟨id, cost⟩ := plan_of_read each
    rw [id, cost]
  rw [usage, same, Quota.usage]

end Read

/-- A limit on a kind is broken exactly if what is written for the kind with a small name exceeds
it, however the limit itself spells the kind. -/
theorem limit_broken_iff {document : Document} {vars : Variables} (alone : document.Alone vars)
    {source : List (String × Setting)} (reads : document.settings? = some source)
    {loaded : Loaded} (load : document.load vars = .ok loaded)
    {kind : String} {limit : UInt32} (stated : limit? kind source = some limit)
    (positive : 0 < limit) {i : Nat} {written : Setting}
    (listed : (plans source)[i]? = some written) :
    ∃ plan, loaded.config.offering.plans[i]? = some plan ∧ ∀ counts used required,
      (∃ broken,
        Quota.check plan loaded.config.offering.plans counts loaded.config.offering.globalLimits =
          .error broken ∧
        .globalResource (Text.lower kind) limit.toNat used required ∈ broken) ↔
      used = usage counts (Text.lower kind) (plans source) ∧
        required = written.costOf (Text.lower kind) ∧ limit.toNat < used + required := by
  obtain ⟨read, valid⟩ := Document.read_of_load alone reads load
  have plansRead := plans_of_mem (List.mem_of_getElem? listed) read
  have each := congrArg (·[i]?) (map_eq_map_some_of_mapM plansRead)
  simp only [List.getElem?_map, listed, Option.map_some] at each
  obtain ⟨plan, held, planRead⟩ := Option.map_eq_some_iff.mp each.symm
  refine ⟨plan, held, fun counts used required => ?_⟩
  -- Ids are distinct in a valid catalog, so the sum over ids is one over the plans as they stand.
  have known : plan.id ∈ loaded.config.offering.plans.map Plan.id :=
    List.mem_map_of_mem (List.mem_of_getElem? held)
  have taken : Quota.taken (loaded.config.offering.plans ++ [plan]) counts.of (Text.lower kind) =
      usage counts (Text.lower kind) (plans source) := by
    rw [Quota.taken_concat_of_mem known, ← Quota.usage_distinctPlans,
      Quota.distinctPlans_of_nodup (BrokerConfig.nodup_plans valid), usage_of_read plansRead]
  rw [Quota.names_globalResource_iff (limit_of_limit? stated read) positive, taken,
    (plan_of_read planRead.symm).2]

/-- A file with a limit of four on the memory of all instances together. A small instance takes two
of it and a large one three. -/
def memoryFile : File where
  name := "broker.yml"
  content := "
    service_catalog:
      id: svc
      name: redis
      global_quotas:
        resources:
          memory:
            limit: 4
      plans:
      - id: small
        name: small
        quotas:
          resources:
            memory:
              cost: 2
      - id: large
        name: large
        quotas:
          resources:
            memory:
              cost: 3"

set_option maxRecDepth 100000 in
theorem memoryFile_written :
    (memoryFile.settings?.map fun source =>
      (limit? "memory" source, (plans source).map (Setting.costOf "memory"),
        usage (.singleton "small" 1) "memory" (plans source),
        (Loaded.ofSources .empty [source, ofVariables .empty]).isOk)) =
      some (some 4, [2, 3], 2, true) := by
  rw [File.settings?, memoryFile, String.toList_ofList]
  decide +kernel

/-- Next to a small instance there is no memory for a large one. -/
theorem limit_broken_iff_sample : ∃ source loaded written plan broken,
    (Document.file memoryFile).Alone .empty ∧
      (Document.file memoryFile).settings? = some source ∧
      (Document.file memoryFile).load .empty = .ok loaded ∧
      limit? "memory" source = some 4 ∧ (plans source)[1]? = some written ∧
      loaded.config.offering.plans[1]? = some plan ∧
      Quota.check plan loaded.config.offering.plans (.singleton "small" 1)
        loaded.config.offering.globalLimits = .error broken ∧
      .globalResource "memory" 4 2 3 ∈ broken := by
  obtain ⟨source, reads, facts⟩ := Option.map_eq_some_iff.mp memoryFile_written
  simp only [Prod.mk.injEq] at facts
  obtain ⟨stated, costs, used, loads⟩ := facts
  have cost := congrArg (·[1]?) costs
  simp only [List.getElem?_map] at cost
  obtain ⟨written, listed, cost⟩ := Option.map_eq_some_iff.mp cost
  have alone : (Document.file memoryFile).Alone .empty := rfl
  have small : Text.lower "memory" = "memory" := by decide +kernel
  cases load : Loaded.ofSources .empty [source, ofVariables .empty] with
  | error _ =>
    rw [load] at loads
    cases loads
  | ok loaded =>
    have load : (Document.file memoryFile).load .empty = .ok loaded := by
      rw [Document.load, Loaded.ofFile, reads]
      exact load
    obtain ⟨plan, held, breaks⟩ := limit_broken_iff alone reads load stated (by decide) listed
    rw [small] at breaks
    obtain ⟨broken, named, member⟩ :=
      (breaks (.singleton "small" 1) 2 3).mpr ⟨used.symm, cost.symm, by decide⟩
    exact ⟨source, loaded, written, plan, broken, alone, reads, load, stated, listed, held, named,
      member⟩

/-- The limit that a source sets on a kind in exactly this spelling. -/
def spelledLimit? (kind : String) (source : List (String × Setting)) : Option UInt32 :=
  (((findEntry "service_catalog" source).bind (Setting.field? "global_quotas" 2)).bind
    (Setting.resource? kind)).bind (Setting.number? "limit" 0)

/-- A text with a limit of one on a kind that begins with a capital. An instance of the only plan
takes two of it. -/
def capitalText : String :=
  "
    service_catalog:
      id: svc
      name: redis
      global_quotas:
        resources:
          Memory:
            limit: 1
      plans:
      - id: small
        name: small
        quotas:
          resources:
            Memory:
              cost: 2"

set_option maxRecDepth 100000 in
theorem capitalText_written :
    ((Document.yaml capitalText).settings?.map fun source =>
      (spelledLimit? "Memory" source, (plans source).map (Setting.costOf "Memory"),
        (Loaded.ofSources .empty [source]).toOption.map fun loaded =>
          loaded.config.offering.plans.map fun plan =>
            Quota.violations plan loaded.config.offering.plans .empty
              loaded.config.offering.globalLimits)) =
      some (some 1, [2], some [[]]) := by
  rw [Document.settings?, capitalText, String.toList_ofList]
  decide +kernel

/-- An instance that takes more than the limit is let in: the limit has lost its capital, and what
the plan takes has not. -/
theorem capital_limit_lost : ∃ source loaded plan,
    (Document.yaml capitalText).settings? = some source ∧
      spelledLimit? "Memory" source = some 1 ∧
      (plans source).map (Setting.costOf "Memory") = [2] ∧
      (Document.yaml capitalText).load .empty = .ok loaded ∧
      loaded.config.offering.plans = [plan] ∧
      Quota.check plan loaded.config.offering.plans .empty loaded.config.offering.globalLimits =
        .ok () := by
  obtain ⟨source, reads, facts⟩ := Option.map_eq_some_iff.mp capitalText_written
  simp only [Prod.mk.injEq] at facts
  obtain ⟨stated, costs, checks⟩ := facts
  cases load : Loaded.ofSources .empty [source] with
  | error _ =>
    rw [load] at checks
    cases checks
  | ok loaded =>
    rw [load] at checks
    have none := Option.some.inj checks
    obtain ⟨plan, single, none⟩ := List.map_eq_singleton_iff.mp none
    have load : (Document.yaml capitalText).load .empty = .ok loaded := by
      have reads : Language.yaml.settings? capitalText.toList = some source := reads
      rw [Document.load, Loaded.ofYaml, reads]
      exact load
    exact ⟨source, loaded, plan, reads, stated, costs, load, single,
      Quota.check_eq_ok_iff_violations.mpr none⟩

end Settings

end ServiceBroker
