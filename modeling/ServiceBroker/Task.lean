/-! Tasks of the deployment backend. The broker submits work and reads tasks; the backend alone
moves them on. -/
namespace ServiceBroker

/-- What a task is doing. -/
inductive TaskState where
  | queued
  | processing
  | done
  | error
  | cancelled
  | cancelling
  | timeout
  /-- The backend reported a word that is not known here. -/
  | unrecognized
  deriving DecidableEq, Inhabited

/-- What a state means for the operation that waits for the task. -/
inductive TaskOutcome where
  | incomplete
  | succeeded
  | failed
  deriving DecidableEq, Inhabited

namespace TaskState

def word : TaskState → String
  | queued => "queued"
  | processing => "processing"
  | done => "done"
  | error => "error"
  | cancelled => "cancelled"
  | cancelling => "cancelling"
  | timeout => "timeout"
  | unrecognized => "unrecognized"

/-- The state that a word stands for. No word stands for an unrecognized state. -/
def ofWord? : String → Option TaskState
  | "queued" => some queued
  | "processing" => some processing
  | "done" => some done
  | "error" => some error
  | "cancelled" => some cancelled
  | "cancelling" => some cancelling
  | "timeout" => some timeout
  | _ => none

/-- What is said of a word that stands for no state. -/
def unknownWord (word : String) : String := "Invalid task state: " ++ word

/-- The state that the backend reports with a word, known or not. -/
def ofReport (word : String) : TaskState := (ofWord? word).getD unrecognized

def isTerminal : TaskState → Bool
  | queued | processing | cancelling => false
  | done | error | cancelled | timeout | unrecognized => true

/-- The task has done its work; nothing else counts as done. -/
def isDone : TaskState → Bool
  | done => true
  | _ => false

/-- What the state means for the waiting operation. -/
def outcome : TaskState → TaskOutcome
  | queued | processing | cancelling => .incomplete
  | done => .succeeded
  | error | cancelled | timeout | unrecognized => .failed

/-- A task in the first state may be found in the second one later. Terminal states stay, and the
others only move forward. -/
def canTransitionTo (s next : TaskState) : Bool :=
  if s.isTerminal then s == next
  else match s with
    | queued => true
    | processing => next != queued
    | _ => next == cancelling || next == cancelled || next == done || next == error

theorem ofReport_word (s : TaskState) : ofReport s.word = s := by cases s <;> rfl

end TaskState

/-- A task as the backend reports it. -/
structure BackendTask where
  id : Nat
  state : TaskState
  description : String := ""
  result : String := ""
  contextId : String := ""
  deriving DecidableEq, Inhabited

namespace BackendTask

def isDone (t : BackendTask) : Bool := t.state.isDone

end BackendTask

end ServiceBroker
