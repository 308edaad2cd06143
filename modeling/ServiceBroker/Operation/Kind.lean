/-! The kinds of operation a broker carries out, each with its word in tokens and messages. -/
namespace ServiceBroker

/-- A kind of operation on an instance or a binding. -/
inductive OperationKind where
  | create
  | update
  | upgrade
  | delete
  | forceDelete
  | bind
  | unbind
  | recreate
  deriving DecidableEq, Inhabited

namespace OperationKind

def word : OperationKind → String
  | create => "create"
  | update => "update"
  | upgrade => "upgrade"
  | delete => "delete"
  | forceDelete => "force-delete"
  | bind => "bind"
  | unbind => "unbind"
  | recreate => "recreate"

def ofWord? : String → Option OperationKind
  | "create" => some create
  | "update" => some update
  | "upgrade" => some upgrade
  | "delete" => some delete
  | "force-delete" => some forceDelete
  | "bind" => some bind
  | "unbind" => some unbind
  | "recreate" => some recreate
  | _ => none

/-- What is said of a word that stands for no kind. -/
def unknownWord (word : String) : String := "Invalid operation type: " ++ word

/-- The operation deploys, and runs the plan's errand, if any, after the deploy. -/
def isDeploy : OperationKind → Bool
  | create | update | upgrade | recreate => true
  | delete | forceDelete | bind | unbind => false

def subject : OperationKind → String
  | create => "Instance provisioning"
  | update => "Instance update"
  | upgrade => "Instance upgrade"
  | delete => "Instance deletion"
  | forceDelete => "Instance forced deletion"
  | bind => "Binding creation"
  | unbind => "Binding deletion"
  | recreate => "Instance recreate"

/-- What a caller is told could not be done. -/
def verb : OperationKind → String
  | create => "create"
  | update => "update"
  | upgrade => "upgrade"
  | delete => "delete"
  | forceDelete => "delete"
  | bind => "bind"
  | unbind => "unbind"
  | recreate => "recreate"

theorem ofWord?_word (k : OperationKind) : ofWord? k.word = some k := by cases k <;> rfl

end OperationKind

end ServiceBroker
