import ServiceBroker.Catalog.Read

/-! The JSON form of the catalog and of the broker's configuration. -/
namespace ServiceBroker

open Json

namespace ResourceQuota

def ofDocument : Decoder ResourceQuota := read form

def toDocument (q : ResourceQuota) : Document :=
  .record [("limit", .ofOption (fun n => .nat n.toNat) q.limit),
    ("cost", .ofOption (fun n => .nat n.toNat) q.cost)]

end ResourceQuota

namespace Quotas

def ofDocument : Decoder Quotas := read form

def toDocument (q : Quotas) : Document :=
  .record [("service_instance_limit", .ofOption (fun n => .nat n.toNat) q.instanceLimit),
    ("resources", .ofMap ResourceQuota.toDocument q.resources)]

end Quotas

namespace LifecycleErrands

def ofDocument : Decoder LifecycleErrands := read form

def toDocument (e : LifecycleErrands) : Document :=
  .record [("post_deploy", .ofOption Errand.toDocument e.postDeploy),
    ("pre_delete", .ofList Errand.toDocument e.preDelete)]

end LifecycleErrands

namespace Plan

def ofDocument : Decoder Plan := read form

def toDocument (p : Plan) : Document :=
  .record [("id", .text p.id), ("name", .text p.name), ("quotas", p.quotas.toDocument),
    ("lifecycle_errands", p.errands.toDocument)]

end Plan

namespace Offering

def ofDocument : Decoder Offering := read form

def toDocument (o : Offering) : Document :=
  .record [("id", .text o.id), ("name", .text o.name),
    ("global_quotas", o.globalQuotas.toDocument), ("plans", .ofList Plan.toDocument o.plans)]

end Offering

namespace BrokerSettings

def ofDocument : Decoder BrokerSettings := read form

def toDocument (s : BrokerSettings) : Document :=
  .record [("deployment_prefix", .text s.deploymentPrefix), ("environment", .text s.environment)]

end BrokerSettings

namespace BrokerConfig

def ofDocument : Decoder BrokerConfig := read form

def toDocument (c : BrokerConfig) : Document :=
  .record [("broker", c.settings.toDocument), ("service_catalog", c.offering.toDocument)]

end BrokerConfig

end ServiceBroker
