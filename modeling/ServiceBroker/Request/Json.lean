import ServiceBroker.Json.Decode
import ServiceBroker.Request.Details
import ServiceBroker.Task

/-! The JSON form of requests, answers, tasks and deployments. -/
namespace ServiceBroker

open Json

namespace Parameters

/-- Reads parameters that are a field of a record. -/
def ofDocument : Decoder Parameters := Decode.map (Decode.value 2)

def toDocument (p : Parameters) : Document := .ofMap Value.toDocument p

end Parameters

namespace ProvisionDetails

def ofDocument : Decoder ProvisionDetails := fun d =>
  let known := [["service_id"], ["plan_id"], ["organization_guid"], ["space_guid"], ["parameters"]]
  (d.fields? known).bind fun
    | [service, plan, organization, space, parameters] => do
      return ⟨← Decode.required Decode.text service, ← Decode.required Decode.text plan,
        ← Decode.orElse "" Decode.text organization, ← Decode.orElse "" Decode.text space,
        ← Decode.orElse .empty Parameters.ofDocument parameters⟩
    | _ => none

def toDocument (d : ProvisionDetails) : Document :=
  .record [("service_id", .text d.serviceId), ("plan_id", .text d.planId),
    ("organization_guid", .text d.organizationGuid), ("space_guid", .text d.spaceGuid),
    ("parameters", d.parameters.toDocument)]

end ProvisionDetails

namespace UpdateDetails

def ofDocument : Decoder UpdateDetails := fun d =>
  (d.fields? [["service_id"], ["plan_id"], ["previous_plan_id"], ["parameters"]]).bind fun
    | [service, plan, previous, parameters] => do
      return ⟨← Decode.required Decode.text service, ← Decode.required Decode.text plan,
        ← Decode.orElse "" Decode.text previous,
        ← Decode.orElse .empty Parameters.ofDocument parameters⟩
    | _ => none

def toDocument (d : UpdateDetails) : Document :=
  .record [("service_id", .text d.serviceId), ("plan_id", .text d.planId),
    ("previous_plan_id", .text d.previousPlanId), ("parameters", d.parameters.toDocument)]

end UpdateDetails

namespace DeprovisionDetails

def ofDocument : Decoder DeprovisionDetails := fun d =>
  (d.fields? [["service_id"], ["plan_id"], ["force"]]).bind fun
    | [service, plan, force] => do
      return ⟨← Decode.required Decode.text service, ← Decode.required Decode.text plan,
        ← Decode.orElse false Decode.bool force⟩
    | _ => none

def toDocument (d : DeprovisionDetails) : Document :=
  .record [("service_id", .text d.serviceId), ("plan_id", .text d.planId), ("force", .bool d.force)]

end DeprovisionDetails

namespace BindDetails

def ofDocument : Decoder BindDetails := fun d =>
  (d.fields? [["service_id"], ["plan_id"], ["app_guid"], ["parameters"]]).bind fun
    | [service, plan, app, parameters] => do
      return ⟨← Decode.required Decode.text service, ← Decode.required Decode.text plan,
        ← Decode.orElse none (Decode.nullable Decode.text) app,
        ← Decode.orElse .empty Parameters.ofDocument parameters⟩
    | _ => none

def toDocument (d : BindDetails) : Document :=
  .record [("service_id", .text d.serviceId), ("plan_id", .text d.planId),
    ("app_guid", .ofOption .text d.appGuid), ("parameters", d.parameters.toDocument)]

end BindDetails

namespace UnbindDetails

def ofDocument : Decoder UnbindDetails := fun d =>
  (d.fields? [["service_id"], ["plan_id"]]).bind fun
    | [service, plan] => do
      return ⟨← Decode.required Decode.text service, ← Decode.required Decode.text plan⟩
    | _ => none

/-- Writes a request to revoke credentials. -/
def toDocument (d : UnbindDetails) : Document :=
  .record [("service_id", .text d.serviceId), ("plan_id", .text d.planId)]

end UnbindDetails

namespace ProvisionedService

/-- Reads the answer to a request for a new instance. -/
def ofDocument : Decoder ProvisionedService := fun d =>
  (d.fields? [["is_async"], ["dashboard_url"], ["operation_data"]]).bind fun
    | [isAsync, url, data] => do
      return ⟨← Decode.required Decode.bool isAsync, ← Decode.required Decode.text url,
        ← Decode.required Decode.text data⟩
    | _ => none

/-- Writes the answer to a request for a new instance. -/
def toDocument (s : ProvisionedService) : Document :=
  .record [("is_async", .bool s.isAsync), ("dashboard_url", .text s.dashboardUrl),
    ("operation_data", .text s.operationData)]

end ProvisionedService

namespace AcceptedOperation

/-- Reads the answer to a request for another deploy or a deletion. -/
def ofDocument : Decoder AcceptedOperation := fun d =>
  (d.fields? [["is_async"], ["operation_data"]]).bind fun
    | [isAsync, data] => do
      return ⟨← Decode.required Decode.bool isAsync, ← Decode.required Decode.text data⟩
    | _ => none

/-- Writes the answer to a request for another deploy or a deletion. -/
def toDocument (s : AcceptedOperation) : Document :=
  .record [("is_async", .bool s.isAsync), ("operation_data", .text s.operationData)]

end AcceptedOperation

namespace Binding

def ofDocument : Decoder Binding := fun d =>
  (d.fields? [["credentials"], ["syslog_drain_url"], ["route_service_url"]]).bind fun
    | [credentials, syslog, route] => do
      return ⟨← Decode.required (Decode.value 1) credentials,
        ← Decode.orElse none (Decode.nullable Decode.text) syslog,
        ← Decode.orElse none (Decode.nullable Decode.text) route⟩
    | _ => none

def toDocument (b : Binding) : Document :=
  .record [("credentials", b.credentials.toDocument),
    ("syslog_drain_url", .ofOption .text b.syslogDrainUrl),
    ("route_service_url", .ofOption .text b.routeServiceUrl)]

end Binding

namespace LastOperation

def ofDocument : Decoder LastOperation := fun d =>
  (d.fields? [["state"], ["description"]]).bind fun
    | [state, description] => do
      return ⟨← Decode.required (Decode.word LastOperationState.ofWord?) state,
        ← Decode.required Decode.text description⟩
    | _ => none

def toDocument (o : LastOperation) : Document :=
  .record [("state", .text o.state.word), ("description", .text o.description)]

end LastOperation

namespace Deployment

def ofDocument : Decoder Deployment := fun d =>
  (d.fields? [["name"], ["manifest"]]).bind fun
    | [name, manifest] => do
      return ⟨← Decode.required Decode.text name, ← Decode.required Decode.text manifest⟩
    | _ => none

def toDocument (d : Deployment) : Document :=
  .record [("name", .text d.name), ("manifest", .text d.manifest)]

end Deployment

/-- Reads a task state. A word that is not known is an unrecognized state. -/
def TaskState.ofDocument : Decoder TaskState := Decode.word fun word => some (ofReport word)

namespace BackendTask

def ofDocument : Decoder BackendTask := fun d =>
  (d.fields? [["id"], ["state"], ["description"], ["result"], ["context_id"]]).bind fun
    | [id, state, description, result, contextId] => do
      return ⟨← Decode.required Decode.word64 id, ← Decode.required TaskState.ofDocument state,
        ← Decode.required Decode.text description, ← Decode.required Decode.text result,
        ← Decode.orElse "" Decode.text contextId⟩
    | _ => none

def toDocument (t : BackendTask) : Document :=
  .record [("id", .nat t.id), ("state", .text t.state.word), ("description", .text t.description),
    ("result", .text t.result), ("context_id", .text t.contextId)]

end BackendTask

end ServiceBroker
