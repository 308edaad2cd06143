import ServiceBroker.Broker.Steps

/-! Credentials. The service adapter creates and revokes them; it is told about the deployment, its
machines, and the secrets of its manifest as far as those can be resolved. -/
namespace ServiceBroker.Broker

open Procedure Steps

/-- The secrets of a manifest. If they cannot be resolved, the adapter has to do without. -/
def resolveSecrets (about : Correlation) (deployment manifest : String) :
    Procedure BrokerError (NameMap String) := do
  match ← attempt (.resolveSecrets manifest) with
  | .ok secrets => return secrets
  | .error (e : SecretsError) =>
    warn "failed to resolve manifest secrets, continuing without them"
      [("request_id", .plain about.requestId), ("deployment", .plain deployment),
        ("error", .plain e.message)]
    return .empty

def bindingRequest (config : BrokerConfig) (about : Correlation) (bindingId : String)
    (parameters : Parameters) : Procedure BrokerError BindingRequest := do
  let name := config.deploymentName about.instanceId
  match ← findDeployment about name with
  | none => refuse (deploymentMissing about name)
  | some deployment =>
    let vms ← ask (.getVms name) (failed about)
    let secrets ← resolveSecrets about name deployment.manifest
    return { bindingId, vms, manifest := deployment.manifest, parameters, secrets }

def adapterFailed {α : Type} (about : Correlation) (e : AdapterError) : Procedure BrokerError α :=
  refuse (.ofAdapter about .binding e)

/-- The parameters of a request for credentials, with the application's id among them if it is
given. -/
def BindDetails.bindParameters (details : BindDetails) : Parameters :=
  match details.appGuid with
  | some guid =>
    if guid.isEmpty then details.parameters else details.parameters.insert "app_guid" (.string guid)
  | none => details.parameters

/-- Creates credentials under a binding id that is locked. -/
def bindLocked (config : BrokerConfig) (about : Correlation) (bindingId : String)
    (details : BindDetails) : Procedure BrokerError Binding := do
  let request ← bindingRequest config about bindingId (BindDetails.bindParameters details)
  let binding ← ask (.createBinding request) (adapterFailed about)
  info "binding created" [("binding_id", .plain bindingId)]
  noteSucceeded "bind" about
  return binding

/-- Creates credentials for an application. -/
def bind (config : BrokerConfig) (requestId instanceId bindingId : String) (details : BindDetails) :
    Procedure BrokerError Binding :=
  let about := config.correlation instanceId requestId .bind
  within (spanOf instanceId requestId .bind) <|
    holding about .binding bindingId (bindLocked config about bindingId details)

/-- Revokes credentials under a binding id that is locked. -/
def unbindLocked (config : BrokerConfig) (about : Correlation) (bindingId : String) :
    Procedure BrokerError Unit := do
  let request ← bindingRequest config about bindingId .empty
  ask (.deleteBinding request) (adapterFailed about)
  info "binding deleted" [("binding_id", .plain bindingId)]
  noteSucceeded "unbind" about

def unbind (config : BrokerConfig) (requestId instanceId bindingId : String) (_ : UnbindDetails) :
    Procedure BrokerError Unit :=
  let about := config.correlation instanceId requestId .unbind
  within (spanOf instanceId requestId .unbind) <|
    holding about .binding bindingId (unbindLocked config about bindingId)

end ServiceBroker.Broker
