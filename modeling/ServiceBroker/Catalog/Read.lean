import ServiceBroker.Catalog.Plan
import ServiceBroker.Operation.Json

/-! Reading the catalog and the broker's configuration from any form of data. -/
namespace ServiceBroker

variable {σ : Type}

def ResourceQuota.read (form : Form σ) (s : σ) : Option ResourceQuota :=
  (form.fields [["limit"], ["cost"]] s).bind fun
    | [limit, cost] => do
      return ⟨← Form.orElse none (form.nullable form.word32) limit,
        ← Form.orElse none (form.nullable form.word32) cost⟩
    | _ => none

def Quotas.read (form : Form σ) (s : σ) : Option Quotas :=
  (form.fields [["service_instance_limit"], ["resources"]] s).bind fun
    | [limit, resources] => do
      return ⟨← Form.orElse none (form.nullable form.word32) limit,
        ← Form.orElse .empty (form.mapOf (ResourceQuota.read form)) resources⟩
    | _ => none

def LifecycleErrands.read (form : Form σ) (s : σ) : Option LifecycleErrands :=
  (form.fields [["post_deploy"], ["pre_delete"]] s).bind fun
    | [post, pre] => do
      return ⟨← Form.orElse none (form.nullable (Errand.read form)) post,
        ← Form.orElse [] (form.listOf (Errand.read form)) pre⟩
    | _ => none

def Plan.read (form : Form σ) (s : σ) : Option Plan :=
  (form.fields [["id"], ["name"], ["quotas"], ["lifecycle_errands"]] s).bind fun
    | [id, name, quotas, errands] => do
      return ⟨← Form.required form.text id, ← Form.required form.text name,
        ← Form.orElse {} (Quotas.read form) quotas,
        ← Form.orElse {} (LifecycleErrands.read form) errands⟩
    | _ => none

def Offering.read (form : Form σ) (s : σ) : Option Offering :=
  (form.fields [["id"], ["name"], ["global_quotas"], ["plans"]] s).bind fun
    | [id, name, quotas, plans] => do
      return ⟨← Form.required form.text id, ← Form.required form.text name,
        ← Form.orElse {} (Quotas.read form) quotas,
        ← Form.orElse [] (form.listOf (Plan.read form)) plans⟩
    | _ => none

def BrokerSettings.read (form : Form σ) (s : σ) : Option BrokerSettings :=
  let usual : BrokerSettings := {}
  (form.fields [["deployment_prefix"], ["environment"]] s).bind fun
    | [start, environment] => do
      return ⟨← Form.orElse usual.deploymentPrefix form.text start,
        ← Form.orElse usual.environment form.text environment⟩
    | _ => none

def BrokerConfig.read (form : Form σ) (s : σ) : Option BrokerConfig :=
  (form.fields [["broker"], ["service_catalog"]] s).bind fun
    | [settings, offering] => do
      return ⟨← Form.orElse {} (BrokerSettings.read form) settings,
        ← Form.required (Offering.read form) offering⟩
    | _ => none

end ServiceBroker
