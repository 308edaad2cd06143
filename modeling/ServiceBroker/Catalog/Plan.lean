import ServiceBroker.NameMap
import ServiceBroker.Operation.Data

/-! The catalog: one service offering with its plans, the quotas of each plan and of the offering as
a whole, and the errands a plan runs around a deploy or a deletion. A limit of zero is no limit. -/
namespace ServiceBroker

/-- The limit on a resource kind, and what one instance takes of it. -/
structure ResourceQuota where
  limit : Option UInt32 := none
  cost : Option UInt32 := none
  deriving DecidableEq, Inhabited

/-- The quotas of a plan or of the offering, as the catalog states them. -/
structure Quotas where
  instanceLimit : Option UInt32 := none
  resources : NameMap ResourceQuota := .empty
  deriving DecidableEq, Inhabited

/-- The limits among the quotas. -/
structure Limits where
  instances : Option UInt32 := none
  resources : NameMap UInt32 := .empty
  deriving DecidableEq, Inhabited

namespace Limits

/-- The limit on the number of instances, if there is one. -/
def instanceLimit? (l : Limits) : Option UInt32 := l.instances.filter fun n => n > 0

/-- The limits on resource kinds, in the order of the kinds. -/
def resourceLimits (l : Limits) : List (String × UInt32) :=
  l.resources.entries.filter fun e => e.2 > 0

/-- Some limit is in force, so instances have to be counted. -/
def isLimited (l : Limits) : Bool := l.instanceLimit?.isSome || !l.resourceLimits.isEmpty

end Limits

namespace Quotas

def limits (q : Quotas) : Limits := ⟨q.instanceLimit, q.resources.filterMap ResourceQuota.limit⟩

/-- What one instance takes of each resource kind that has a cost. -/
def costs (q : Quotas) : NameMap UInt32 := q.resources.filterMap ResourceQuota.cost

end Quotas

/-- The errands around the deploys and the deletion of an instance. -/
structure LifecycleErrands where
  postDeploy : Option Errand := none
  preDelete : List Errand := []
  deriving DecidableEq, Inhabited

/-- A plan of the offering. -/
structure Plan where
  id : String
  name : String
  quotas : Quotas := {}
  errands : LifecycleErrands := {}
  deriving DecidableEq, Inhabited

namespace Plan

/-- The errand to run after a deploy; one without a name is none. -/
def postDeployErrand? (p : Plan) : Option Errand := p.errands.postDeploy.filter fun e => !e.isEmpty

/-- The errands to run before the deletion, in their order. -/
def preDeleteErrands (p : Plan) : List Errand := p.errands.preDelete

/-- The plan runs an errand at some point of an instance's life. -/
def hasErrand (p : Plan) : Bool := p.postDeployErrand?.isSome || !p.preDeleteErrands.isEmpty

/-- The limits on the instances of the plan. -/
def limits (p : Plan) : Limits := p.quotas.limits

/-- What one instance of the plan takes of a resource kind. -/
def cost (p : Plan) (kind : String) : Nat := ((p.quotas.costs.get? kind).map UInt32.toNat).getD 0

end Plan

/-- The service offering of a broker. -/
structure Offering where
  id : String
  name : String
  globalQuotas : Quotas := {}
  plans : List Plan := []
  deriving DecidableEq, Inhabited

namespace Offering

/-- The plan with an id, the first one if several have it. -/
def findPlan? (o : Offering) (id : String) : Option Plan := o.plans.find? fun p => p.id == id

/-- The limits on the instances of all plans together. -/
def globalLimits (o : Offering) : Limits := o.globalQuotas.limits

end Offering

/-- How the broker itself runs. -/
structure BrokerSettings where
  /-- What stands before an instance's id in the name of its deployment. -/
  deploymentPrefix : String := "service-instance_"
  environment : String := "development"
  deriving DecidableEq, Inhabited

/-- The configuration of a broker. -/
structure BrokerConfig where
  settings : BrokerSettings := {}
  offering : Offering
  deriving DecidableEq, Inhabited

def BrokerConfig.deploymentName (c : BrokerConfig) (instanceId : String) : String :=
  c.settings.deploymentPrefix ++ instanceId

end ServiceBroker
