import ServiceBroker.Lock

/-! Guards: named holders of locks. A guard holds one id until it is dropped, by itself or because
another guard takes its name; the new guard has its id before the old one gives its own back. -/
namespace ServiceBroker

/-- A guard, by its name and the id it holds. -/
structure Guard where
  name : String
  id : String
  deriving DecidableEq, Inhabited

/-- A registry with the guards that are alive on it. -/
structure GuardedRegistry where
  registry : LockRegistry := {}
  guards : List Guard := []
  deriving Inhabited

/-- A request to a guarded registry. -/
inductive GuardRequest where
  | acquire (id name : String)
  | release (name : String)
  | query (id : String)
  deriving DecidableEq, Inhabited

/-- What a guarded registry answers. -/
inductive GuardAnswer where
  | acquired (id : String)
  | alreadyHeld (id : String)
  | released (wasAlive : Bool)
  | held (isHeld : Bool)
  deriving DecidableEq, Inhabited

namespace GuardedRegistry

/-- Drops the guard of a name, if there is one. -/
def drop (g : GuardedRegistry) (name : String) : GuardedRegistry :=
  match g.guards.find? fun guard => guard.name == name with
  | some guard => ⟨g.registry.release guard.id, g.guards.filter fun guard => guard.name != name⟩
  | none => g

def isAlive (g : GuardedRegistry) (name : String) : Bool :=
  g.guards.any fun guard => guard.name == name

def serve (g : GuardedRegistry) : GuardRequest → GuardAnswer × GuardedRegistry
  | .acquire id name =>
    match g.registry.acquire? id with
    | none => (.alreadyHeld id, g)
    | some registry =>
      let g := ({ g with registry } : GuardedRegistry).drop name
      (.acquired id, { g with guards := g.guards ++ [⟨name, id⟩] })
  | .release name => (.released (g.isAlive name), g.drop name)
  | .query id => (.held (g.registry.isHeld id), g)

/-- Answers requests in turn, each with the number of ids held afterwards. -/
def serveAll (g : GuardedRegistry) : List GuardRequest → List (GuardAnswer × Nat)
  | [] => []
  | request :: rest =>
    let (answer, g) := g.serve request
    (answer, g.registry.count) :: g.serveAll rest

end GuardedRegistry

end ServiceBroker
