/-! Locks on ids. A registry holds the ids that some operation is working on. Nobody waits for a
lock: whoever finds an id held is turned away. -/
namespace ServiceBroker

/-- What the ids of a registry identify. -/
inductive LockKind where
  | serviceInstance
  | binding
  deriving DecidableEq, Inhabited

def LockKind.word : LockKind → String
  | .serviceInstance => "instance"
  | .binding => "binding"

def LockKind.heldText (kind : LockKind) (id : String) : String :=
  "Broker is already processing a request for " ++ kind.word ++ " " ++ id

/-- The ids that are held; none is held twice. -/
structure LockRegistry where
  held : List String := []
  distinct : held.Nodup := by exact List.nodup_nil
  deriving DecidableEq

namespace LockRegistry

instance : Inhabited LockRegistry := ⟨{}⟩

def isHeld (r : LockRegistry) (id : String) : Bool := r.held.contains id

def count (r : LockRegistry) : Nat := r.held.length

def acquire? (r : LockRegistry) (id : String) : Option LockRegistry :=
  if h : id ∈ r.held then none else some ⟨id :: r.held, List.nodup_cons.2 ⟨h, r.distinct⟩⟩

def release (r : LockRegistry) (id : String) : LockRegistry :=
  ⟨r.held.erase id, r.distinct.erase id⟩

end LockRegistry

/-- The locks of a broker: one registry for instances and one for bindings. -/
structure Locks where
  instances : LockRegistry := {}
  bindings : LockRegistry := {}
  deriving DecidableEq, Inhabited

namespace Locks

def registry (l : Locks) : LockKind → LockRegistry
  | .serviceInstance => l.instances
  | .binding => l.bindings

/-- Puts another registry in the place of one. -/
def set (l : Locks) (kind : LockKind) (r : LockRegistry) : Locks :=
  match kind with
  | .serviceInstance => { l with instances := r }
  | .binding => { l with bindings := r }

/-- Takes hold of an id in the registry of a kind. -/
def acquire? (l : Locks) (kind : LockKind) (id : String) : Option Locks :=
  ((l.registry kind).acquire? id).map (l.set kind)

/-- Lets go of an id in the registry of a kind. -/
def release (l : Locks) (kind : LockKind) (id : String) : Locks :=
  l.set kind ((l.registry kind).release id)

end Locks

end ServiceBroker
