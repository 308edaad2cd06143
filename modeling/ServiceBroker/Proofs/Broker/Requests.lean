import ServiceBroker.Broker.Binding
import ServiceBroker.Broker.Deprovision
import ServiceBroker.Broker.LastOperation
import ServiceBroker.Broker.Provision
import ServiceBroker.Broker.Redeploy
import ServiceBroker.Proofs.Broker.Course

/-! The requests that a broker serves, as one type, so that a run may hold any of them. -/
namespace ServiceBroker

/-- A request to the broker. -/
inductive Request where
  | provision (requestId instanceId : String) (details : ProvisionDetails) (asyncAllowed : Bool)
  | update (requestId instanceId : String) (details : UpdateDetails) (asyncAllowed : Bool)
  | upgrade (requestId instanceId : String) (details : UpdateDetails)
  | recreate (requestId instanceId planId : String)
  | deprovision (requestId instanceId : String) (details : DeprovisionDetails) (asyncAllowed : Bool)
  | bind (requestId instanceId bindingId : String) (details : BindDetails)
  | unbind (requestId instanceId bindingId : String) (details : UnbindDetails)
  | lastOperation (requestId instanceId token : String)

namespace Request

/-- The instance that a request is about. -/
def instanceId : Request → String
  | provision _ instanceId .. | update _ instanceId .. | upgrade _ instanceId _
  | recreate _ instanceId _ | deprovision _ instanceId .. | bind _ instanceId ..
  | unbind _ instanceId .. | lastOperation _ instanceId _ => instanceId

/-- The token of a poll. -/
def polled? : Request → Option String
  | lastOperation _ _ token => some token
  | _ => none

end Request

/-- What a request led to. -/
inductive Response where
  | provisioned (service : ProvisionedService)
  | accepted (operation : AcceptedOperation)
  | started (data : OperationData)
  | bound (binding : Binding)
  | unbound
  | polled (operation : LastOperation)
  | refused (error : BrokerError)

namespace Response

/-- The token of a request that was accepted. -/
def token? : Response → Option String
  | provisioned service => some service.operationData
  | accepted operation => some operation.operationData
  | started data => some data.encode
  | _ => none

/-- The response of a procedure. -/
def ofResult {α : Type} (answer : α → Response) : Except BrokerError α → Response
  | .ok a => answer a
  | .error e => refused e

end Response

/-- A procedure of the broker, up to its response. -/
def Procedure.respond {α : Type} (answer : α → Response) (body : Procedure BrokerError α) :
    Program Response := body.run.bind fun result => .done (.ofResult answer result)

/-- What the broker does about a request. -/
def Request.program (config : BrokerConfig) : Request → Program Response
  | provision requestId instanceId details asyncAllowed =>
    (Broker.provision config requestId instanceId details asyncAllowed).respond .provisioned
  | update requestId instanceId details asyncAllowed =>
    (Broker.update config requestId instanceId details asyncAllowed).respond .accepted
  | upgrade requestId instanceId details =>
    (Broker.upgrade config requestId instanceId details).respond .started
  | recreate requestId instanceId planId =>
    (Broker.recreate config requestId instanceId planId).respond .started
  | deprovision requestId instanceId details asyncAllowed =>
    (Broker.deprovision config requestId instanceId details asyncAllowed).respond .accepted
  | bind requestId instanceId bindingId details =>
    (Broker.bind config requestId instanceId bindingId details).respond .bound
  | unbind requestId instanceId bindingId details =>
    (Broker.unbind config requestId instanceId bindingId details).respond fun () => .unbound
  | lastOperation requestId instanceId token =>
    (Broker.lastOperation config requestId instanceId token).respond .polled

/-- A request meets what its procedure meets, with the response in place of the result. -/
@[simp] theorem Procedure.meets_respond {α : Type} {allowed : List Happening → AnyCall → Prop}
    {demand : List Happening → Response → Prop} {past : List Happening} (answer : α → Response)
    (body : Procedure BrokerError α) : (body.respond answer).Meets allowed demand past ↔
      body.run.Meets allowed (fun past result => demand past (.ofResult answer result)) past := by
  simp only [respond, Program.meets_bind, Program.meets_done]

end ServiceBroker
