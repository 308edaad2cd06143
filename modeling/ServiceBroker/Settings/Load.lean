import ServiceBroker.Catalog.Read
import ServiceBroker.Catalog.Validation
import ServiceBroker.Log.Event
import ServiceBroker.Settings.Environment
import ServiceBroker.Settings.Form
import ServiceBroker.Settings.Layer
import ServiceBroker.Settings.Source

/-! Loading the broker's configuration: the settings of a file below those of the environment, read
as a configuration and checked for defects. -/
namespace ServiceBroker.Settings

/-- A configuration that was loaded, and the environment that the broker runs in. -/
structure Loaded where
  config : BrokerConfig
  environment : String
  deriving DecidableEq, Inhabited

namespace Loaded

/-- The record of a configuration that was loaded. -/
def event (l : Loaded) : Log.Event :=
  { level := .info
    message := "Broker configuration loaded"
    fields :=
      [("environment", .plain l.environment), ("service", .plain l.config.offering.name),
        ("plans", .number l.config.offering.plans.length)] }

/-- Takes a configuration that has no defect. -/
def ofConfig (vars : Variables) (config : BrokerConfig) : Except ConfigError Loaded :=
  match config.validate with
  | .error e => .error e
  | .ok () =>
    .ok ⟨config, (vars.get? environmentVariable).getD config.settings.environment⟩

/-- Reads settings from several sources, the first one lowest, as a configuration. -/
def ofSources (vars : Variables) (sources : List (List (String × Setting))) :
    Except ConfigError Loaded :=
  match BrokerConfig.read form (sources.foldl Setting.layer .emptyTable) with
  | none => .error .load
  | some config => ofConfig vars config

/-- Loads the configuration of a YAML text. -/
def ofYaml (vars : Variables) (text : String) : Except ConfigError Loaded :=
  match Language.yaml.settings? text.toList with
  | none => .error .load
  | some settings => ofSources vars [settings]

/-- Loads a configuration from the environment alone. -/
def ofEnvironment (vars : Variables) : Except ConfigError Loaded :=
  ofSources vars [ofVariables vars]

/-- Loads the configuration of a file, below the settings of the environment. -/
def ofFile (vars : Variables) (file : File) : Except ConfigError Loaded :=
  match file.settings? with
  | none => .error .load
  | some settings => ofSources vars [settings, ofVariables vars]

/-- Loads the configuration of the file at a path, if there is a file. -/
def ofPath (vars : Variables) (path : String) (file : Option File) : Except ConfigError Loaded :=
  match file with
  | none => .error (.fileNotFound path)
  | some file => ofFile vars file

end Loaded

end ServiceBroker.Settings
