import ServiceBroker.Operation.Kind

/-! What a running operation has to remember between two requests. Nothing of it is stored: it
travels inside the token that the platform hands back with every poll. -/
namespace ServiceBroker

/-- A one-off job that is run against a deployment, on some of its instances or on all of them. -/
structure Errand where
  name : String
  instances : List String := []
  deriving DecidableEq, Inhabited

namespace Errand

def isEmpty (e : Errand) : Bool := e.name.isEmpty

end Errand

/-- The number of a backend task. Tokens carry it as a word of 64 bits, and a backend in memory counts
in such words. -/
abbrev TaskId := Nat

/-- The number of an operation's first task, and what its later steps need. An empty context means
that the operation is a single task; otherwise all tasks of its errand sequence share the context.
-/
structure OperationData where
  kind : OperationKind
  taskId : TaskId
  contextId : String := ""
  planId : Option String := none
  postDeployErrand : Option Errand := none
  /-- The only errand before the deletion, as tokens of old named it. -/
  legacyErrand : Option Errand := none
  preDeleteErrands : List Errand := []
  deriving DecidableEq, Inhabited

namespace OperationData

def hasContext (d : OperationData) : Bool := !d.contextId.isEmpty

/-- The errands to run before the deletion: the list, or else the single errand of an old token if
it has a name. -/
def effectiveErrands (d : OperationData) : List Errand :=
  if d.preDeleteErrands.isEmpty then d.legacyErrand.toList.filter fun e => !e.isEmpty
  else d.preDeleteErrands

end OperationData

end ServiceBroker
