import ServiceBroker.Text.Blank
import ServiceBroker.Catalog.Plan

/-! Which configurations a broker can work with. The service needs an id and a name, deployments
need a prefix to their names, plans need ids of their own, and an errand that is declared needs a
name. The first defect in that order is the one reported. -/
namespace ServiceBroker

/-- Why a configuration was not taken. -/
inductive ConfigError where
  /-- There is no file at the place named. -/
  | fileNotFound (path : String)
  /-- A source could not be read, or what it says is no configuration. -/
  | load
  /-- A field that has to be filled in is blank. -/
  | missingField (field context : String)
  /-- A field has a value that cannot be used. -/
  | invalidValue (field value context : String)
  /-- Two plans have the same id. -/
  | duplicatePlan (planId : String)
  deriving DecidableEq, Inhabited

def ConfigError.message : ConfigError → String
  | fileNotFound path => "Configuration file not found: " ++ path
  | load => "Failed to load configuration"
  | missingField field context =>
    "Missing required configuration field '" ++ field ++ "' in " ++ context
  | invalidValue field value context =>
    "Invalid value '" ++ value ++ "' for field '" ++ field ++ "': " ++ context
  | duplicatePlan planId => "Duplicate plan id '" ++ planId ++ "' in service catalog"

/-- The errands that a plan declares, the one after deploys first. -/
def LifecycleErrands.declared (e : LifecycleErrands) : List Errand :=
  e.postDeploy.toList ++ e.preDelete

/-- The first defect of a plan; `seen` holds the ids of the plans before it. -/
def Plan.defect? (seen : List String) (p : Plan) : Option ConfigError :=
  if Text.isBlankText p.id then some (.missingField "id" ("plan '" ++ p.name ++ "'"))
  else if seen.contains p.id then some (.duplicatePlan p.id)
  else if p.errands.declared.any fun e => Text.isBlankText e.name then
    some (.invalidValue "lifecycle_errands" ""
      ("plan '" ++ p.id ++ "' declares an errand without a name"))
  else none

/-- The first defect of a list of plans; `seen` holds the ids of the plans before them. -/
def firstPlanDefect? (seen : List String) : List Plan → Option ConfigError
  | [] => none
  | p :: rest => match p.defect? seen with
    | some defect => some defect
    | none => firstPlanDefect? (p.id :: seen) rest

def BrokerConfig.defect? (c : BrokerConfig) : Option ConfigError :=
  if Text.isBlankText c.offering.id then some (.missingField "id" "service_catalog")
  else if Text.isBlankText c.offering.name then some (.missingField "name" "service_catalog")
  else if c.settings.deploymentPrefix.isEmpty then
    some (.invalidValue "deployment_prefix" "" "deployment names need a non-empty prefix")
  else firstPlanDefect? [] c.offering.plans

/-- Accepts a configuration without a defect, and names the first defect of any other. -/
def BrokerConfig.validate (c : BrokerConfig) : Except ConfigError Unit :=
  match c.defect? with
  | some defect => .error defect
  | none => .ok ()

end ServiceBroker
