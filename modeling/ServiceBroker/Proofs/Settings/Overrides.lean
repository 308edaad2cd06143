import ServiceBroker.Proofs.Catalog.Defects
import ServiceBroker.Proofs.Settings.Values
import ServiceBroker.Proofs.Settings.Written

/-! Text settings that a variable overrides. A variable changes its own setting and no other if the
file names the fields of the record that the setting is in. What the setting becomes is the value
itself only if the value is not taken for something that is written in another way. -/
namespace ServiceBroker.Settings

/-- A setting of the broker that is a text and stands in a record of its own. -/
inductive TextSetting where
  | serviceId
  | serviceName
  | deploymentPrefix
  | environment
  deriving DecidableEq

namespace TextSetting

/-- The record that the setting is in. -/
def record : TextSetting → String
  | serviceId | serviceName => "service_catalog"
  | deploymentPrefix | environment => "broker"

/-- Its field of the record. -/
def field : TextSetting → String
  | serviceId => "id"
  | serviceName => "name"
  | deploymentPrefix => "deployment_prefix"
  | environment => "environment"

/-- What the name of a variable says that gives the setting. -/
def path (s : TextSetting) : String := s.record ++ "." ++ s.field

/-- A configuration with a text in place of the setting. -/
def set (s : TextSetting) (text : String) (c : BrokerConfig) : BrokerConfig :=
  match s with
  | serviceId => { c with offering := { c.offering with id := text } }
  | serviceName => { c with offering := { c.offering with name := text } }
  | deploymentPrefix => { c with settings := { c.settings with deploymentPrefix := text } }
  | environment => { c with settings := { c.settings with environment := text } }

/-- What settings say about the record. -/
def recordIn (s : TextSetting) (below : Setting) : Setting :=
  (findEntry s.record below.entries).getD .nothing

/-- Settings with another one in place of what they say about the field. -/
def overridden (s : TextSetting) (setting below : Setting) : Setting :=
  .table (insertEntry s.record
    (.table (insertEntry s.field setting (s.recordIn below).entries)) below.entries)

/-- Settings with a table for the record, in which items of a list find no place. -/
def opened (s : TextSetting) (below : Setting) : Setting :=
  .table (insertEntry s.record (.table (s.recordIn below).entries) below.entries)

/-- The record is written as a list, by the places of its fields. -/
def Listed (s : TextSetting) (source : List (String × Setting)) : Prop :=
  ∃ items, s.recordIn (.layer .emptyTable source) = .list items

/-- The rest of the record is what it is when nothing is said about it. -/
def StandsAlone (s : TextSetting) (c : BrokerConfig) : Prop :=
  match s with
  | serviceId | serviceName => False
  | deploymentPrefix => c.settings.environment = ({} : BrokerSettings).environment
  | environment => c.settings.deploymentPrefix = ({} : BrokerSettings).deploymentPrefix

theorem path_eq (s : TextSetting) :
    Settings.path s.path = [.name s.record, .name s.field] := by
  cases s <;> decide +kernel

theorem lower_record (s : TextSetting) : Text.lower s.record = s.record := by
  cases s <;> decide +kernel

theorem lower_field (s : TextSetting) : Text.lower s.field = s.field := by
  cases s <;> decide +kernel

/-- Filling in another text leaves a configuration usable. -/
theorem usable_set (s : TextSetting) {text : String} (filled : Text.isBlankText text = false)
    {c : BrokerConfig} (usable : c.Usable) : (s.set text c).Usable := by
  cases s with
  | serviceId => exact { usable with serviceId := filled }
  | serviceName => exact { usable with serviceName := filled }
  | deploymentPrefix =>
    refine { usable with deploymentPrefix := ?_ }
    rintro rfl
    cases filled
  | environment => exact { usable with deploymentPrefix := usable.deploymentPrefix }

theorem set_eq_iff (s : TextSetting) {text other : String} {c : BrokerConfig} :
    s.set text c = s.set other c ↔ text = other := by
  cases s <;> simp [set]

theorem record_of_ne (s : TextSetting) (other : s.record ≠ "broker") :
    s.record = "service_catalog" := by
  cases s with
  | serviceId | serviceName => rfl
  | deploymentPrefix | environment => exact absurd rfl other

/-- The catalog has to name the service and its id. -/
theorem not_standsAlone (s : TextSetting) (catalog : s.record = "service_catalog")
    {c : BrokerConfig} : ¬s.StandsAlone c := by
  cases s with
  | serviceId | serviceName => exact id
  | deploymentPrefix | environment => exact absurd catalog (by decide)

/-- A setting that stands alone is all there is to the broker's own record. -/
theorem set_usual_eq_iff {s : TextSetting} (own : s.record = "broker") {text other : String}
    {c : BrokerConfig} :
    s.set text { c with settings := {} } = s.set other c ↔ text = other ∧ s.StandsAlone c := by
  cases s with
  | serviceId | serviceName => exact absurd own (by decide)
  | deploymentPrefix => simp [set, StandsAlone, eq_comm]
  | environment => simp [set, StandsAlone, eq_comm, and_comm]

variable {s : TextSetting} {below setting : Setting} {text : String} {config : BrokerConfig}

/-- A single value that the path leads to takes the place of what was there. -/
theorem layer_path (single : ∀ below, setting.laidOver below = setting) :
    below.layer [(s.path, setting)] = s.overridden setting below := by
  change Setting.put setting (Settings.path s.path) below = _
  rw [s.path_eq, Setting.put, Setting.put, Setting.put, single, s.lower_record, s.lower_field]
  rfl

/-- What is read if a single value takes the place of the setting. -/
theorem read_overridden (sorted : below.Sorted) (isText : setting.text? = some text)
    (read : BrokerConfig.read form (s.opened below) = some config) :
    BrokerConfig.read form (s.overridden setting below) = some (s.set text config) := by
  have inner : Ordered (s.recordIn below).entries := sorted.ordered_findEntry _
  unfold opened at read
  unfold overridden
  cases s <;>
    simp only [record, field, read_insert_broker sorted.names, read_insert_catalog sorted.names,
      read_settings inner, read_settings (ordered_insertEntry _ _ inner), read_offering inner,
      read_offering (ordered_insertEntry _ _ inner), findEntry_insertEntry, Option.bind_eq_bind,
      Option.bind_eq_some_iff, Option.pure_def, Option.some.injEq, String.reduceEq, if_true,
      if_false] at read ⊢
  case serviceId =>
    obtain ⟨own, isOwn, _, ⟨_, _, name, isName, quotas, limits, plans, listed, rfl⟩, rfl⟩ := read
    exact ⟨own, isOwn, _, ⟨text, isText, name, isName, quotas, limits, plans, listed, rfl⟩, rfl⟩
  case serviceName =>
    obtain ⟨own, isOwn, _, ⟨id, isId, _, _, quotas, limits, plans, listed, rfl⟩, rfl⟩ := read
    exact ⟨own, isOwn, _, ⟨id, isId, text, isText, quotas, limits, plans, listed, rfl⟩, rfl⟩
  case deploymentPrefix =>
    obtain ⟨_, ⟨_, _, environment, isEnvironment, rfl⟩, offering, catalog, rfl⟩ := read
    exact ⟨_, ⟨text, isText, environment, isEnvironment, rfl⟩, offering, catalog, rfl⟩
  case environment =>
    obtain ⟨_, ⟨start, isStart, _, _, rfl⟩, offering, catalog, rfl⟩ := read
    exact ⟨_, ⟨start, isStart, text, isText, rfl⟩, offering, catalog, rfl⟩

/-- A record that is no list says the same as a table. -/
theorem read_opened (sorted : below.Sorted) (noList : ∀ items, s.recordIn below ≠ .list items)
    (read : BrokerConfig.read form below = some config) :
    BrokerConfig.read form (s.opened below) = some config := by
  rw [sorted.table, read_config sorted.names] at read
  simp only [Option.bind_eq_bind, Option.bind_eq_some_iff, Option.pure_def, Option.some.injEq]
    at read
  obtain ⟨settings, own, offering, catalog, rfl⟩ := read
  unfold opened
  unfold recordIn at noList ⊢
  cases s with
  | serviceId | serviceName =>
    rw [record] at noList ⊢
    rw [read_insert_catalog sorted.names, own]
    obtain ⟨r, found, read⟩ := Option.bind_eq_some_iff.mp catalog
    rw [found, Option.getD_some] at noList ⊢
    have same : Offering.read form (.table r.entries) = some offering :=
      Setting.read_table_of_noList noList read
    rw [same]
    rfl
  | deploymentPrefix | environment =>
    rw [record] at noList ⊢
    rw [read_insert_broker sorted.names, catalog]
    cases found : findEntry "broker" below.entries with
    | none =>
      rw [found] at own
      cases own
      rfl
    | some r =>
      rw [found, Option.getD_some] at noList
      rw [found] at own
      have same : BrokerSettings.read form (.table r.entries) = some settings :=
        Setting.read_table_of_noList noList own
      rw [Option.getD_some, same]
      rfl

/-- Without the items of its list the broker's own record is the usual one. -/
theorem read_opened_of_list (sorted : below.Sorted) {items : List Setting}
    (list : s.recordIn below = .list items) (own : s.record = "broker")
    (read : BrokerConfig.read form below = some config) :
    BrokerConfig.read form (s.opened below) = some { config with settings := {} } := by
  rw [sorted.table, read_config sorted.names] at read
  rw [opened, list, own, read_insert_broker sorted.names]
  simp only [Option.bind_eq_bind, Option.bind_eq_some_iff, Option.pure_def, Option.some.injEq]
    at read ⊢
  obtain ⟨settings, _, offering, catalog, rfl⟩ := read
  exact ⟨_, rfl, offering, catalog, rfl⟩

/-- Without the items of its list the catalog has no name or no id. -/
theorem read_overridden_of_list (sorted : below.Sorted) {items : List Setting}
    (list : s.recordIn below = .list items) (catalog : s.record = "service_catalog") :
    BrokerConfig.read form (s.overridden setting below) = none := by
  have unread : Offering.read form (.table [(s.field, setting)]) = none := by
    rw [read_offering (List.pairwise_singleton _ _)]
    cases s with
    | serviceId => simp [findEntry, field, Form.required]
    | serviceName => rfl
    | deploymentPrefix | environment => exact absurd catalog (by decide)
  have only : insertEntry s.field setting (Setting.list items).entries = [(s.field, setting)] := rfl
  rw [overridden, list, catalog, read_insert_catalog sorted.names, only, unread]
  cases Form.orElse {} (BrokerSettings.read form) (findEntry "broker" below.entries) <;> rfl

end TextSetting

/-! ### Loading -/

section Load

variable {f : File} {source : List (String × Setting)} {vars : Variables} {base : Loaded}
  {s : TextSetting} {name value : String}

theorem ofVariables_insert (alone : ofVariables vars = []) {path : String}
    (reaches : variablePath? name = some path) :
    ofVariables (vars.insert name value) = [(path, variableSetting value)] :=
  filterMap_insertEntry alone (by simp [reaches])

/-- A variable that gives a setting does not name the environment. -/
theorem get?_environmentVariable (reaches : variablePath? name = some s.path) :
    (vars.insert name value).get? environmentVariable = vars.get? environmentVariable := by
  have other : environmentVariable ≠ name := by
    rintro rfl
    have nowhere : variablePath? environmentVariable = none := by decide +kernel
    rw [nowhere] at reaches
    cases reaches
  rw [NameMap.get?_insert, if_neg other]

/-- The layers of a file and of an environment with a variable that gives a setting. -/
theorem layers_insert (alone : ofVariables vars = []) (reaches : variablePath? name = some s.path) :
    [source, ofVariables (vars.insert name value)].foldl Setting.layer .emptyTable =
      s.overridden (variableSetting value) (.layer .emptyTable source) := by
  rw [ofVariables_insert alone reaches]
  exact TextSetting.layer_path (laidOver_variableSetting value)

theorem ofConfig_of_usable (vars : Variables) {config : BrokerConfig} (usable : config.Usable) :
    Loaded.ofConfig vars config =
      .ok ⟨config, (vars.get? environmentVariable).getD config.settings.environment⟩ := by
  rw [Loaded.ofConfig, BrokerConfig.validate_eq_ok_iff.mpr usable]

theorem usable_usual {config : BrokerConfig} (usable : config.Usable) :
    BrokerConfig.Usable { config with settings := {} } where
  serviceId := usable.serviceId
  serviceName := usable.serviceName
  deploymentPrefix := by
    change ({} : BrokerSettings).deploymentPrefix ≠ ""
    decide
  plans := usable.plans
  distinct := usable.distinct

/-- What a file on its own is loaded as is read from its settings and usable. -/
theorem read_of_ofFile (reads : f.settings? = some source) (alone : ofVariables vars = [])
    (loads : Loaded.ofFile vars f = .ok base) :
    BrokerConfig.read form (.layer .emptyTable source) = some base.config ∧
      base.config.Usable := by
  have reads : (Document.file f).settings? = some source := reads
  have alone : (Document.file f).Alone vars := alone
  have loads : (Document.file f).load vars = .ok base := loads
  obtain ⟨read, valid⟩ := Document.read_of_load alone reads loads
  exact ⟨read, BrokerConfig.validate_eq_ok_iff.mp valid⟩

/-- What is loaded instead of a configuration that is read with a table for the record. -/
theorem ofFile_insert_of_opened (reads : f.settings? = some source)
    (alone : ofVariables vars = []) (reaches : variablePath? name = some s.path)
    (filled : Text.isBlankText value = false) {config : BrokerConfig}
    (read : BrokerConfig.read form (s.opened (.layer .emptyTable source)) = some config)
    (usable : config.Usable) :
    Loaded.ofFile (vars.insert name value) f = .ok ⟨s.set (textOf value) config,
      (vars.get? environmentVariable).getD
        (s.set (textOf value) config).settings.environment⟩ := by
  have sorted := Setting.sorted_emptyTable.layer source
  rw [Loaded.ofFile, reads]
  dsimp only
  rw [Loaded.ofSources, layers_insert alone reaches,
    TextSetting.read_overridden sorted (text?_variableSetting value) read]
  dsimp only
  rw [ofConfig_of_usable _ (s.usable_set (filled_textOf filled) usable),
    get?_environmentVariable reaches]

theorem exists_ok_config_iff {config wanted : BrokerConfig} {environment : String} :
    (∃ loaded : Loaded, (.ok ⟨config, environment⟩ : Except ConfigError Loaded) = .ok loaded ∧
      loaded.config = wanted) ↔ config = wanted := by
  constructor
  · rintro ⟨_, same, is⟩
    cases same
    exact is
  · exact fun is => ⟨_, rfl, is⟩

end Load

/-- A file with a prefix for the names of deployments. -/
def prefixFile : File where
  name := "broker.yml"
  content := "
    broker:
      deployment_prefix: svc-
    service_catalog:
      id: svc
      name: redis
      plans:
      - id: small
        name: small"

/-- What the file is loaded as. -/
def prefixLoaded : Loaded where
  config :=
    { settings := { deploymentPrefix := "svc-" }
      offering := { id := "svc", name := "redis", plans := [{ id := "small", name := "small" }] } }
  environment := "development"

/-- The variable that gives the prefix. -/
def prefixVariable : String := "BROKER__BROKER__DEPLOYMENT_PREFIX"

/-- An environment with a prefix and nothing else. -/
def prefixVariables (value : String) : Variables := NameMap.empty.insert prefixVariable value

set_option maxRecDepth 100000 in
theorem prefixFile_written :
    (prefixFile.settings?.map fun source =>
      ((TextSetting.deploymentPrefix.recordIn (.layer .emptyTable source)).table?.isSome,
        (Loaded.ofSources .empty [source, ofVariables .empty]).toOption,
        (Loaded.ofSources (prefixVariables "007")
          [source, ofVariables (prefixVariables "007")]).toOption.map Loaded.config)) =
      some (true, some prefixLoaded,
        some (TextSetting.deploymentPrefix.set "7" prefixLoaded.config)) := by
  rw [File.settings?, prefixFile, String.toList_ofList]
  decide +kernel

theorem ofFile_eq_ok {f : File} {source : List (String × Setting)} {vars : Variables}
    {loaded : Loaded} (reads : f.settings? = some source)
    (loads : (Loaded.ofSources vars [source, ofVariables vars]).toOption = some loaded) :
    Loaded.ofFile vars f = .ok loaded := by
  rw [Loaded.ofFile, reads]
  dsimp only
  cases load : Loaded.ofSources vars [source, ofVariables vars] with
  | error _ =>
    rw [load] at loads
    cases loads
  | ok _ =>
    rw [load] at loads
    cases loads
    rfl

theorem variablePath?_prefixVariable :
    variablePath? prefixVariable = some TextSetting.deploymentPrefix.path := by decide +kernel

end ServiceBroker.Settings
