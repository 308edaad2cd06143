import ServiceBroker.Failure.Collaborator
import ServiceBroker.Text.Blank

/-! The frame of a request: the id that its log lines and errors carry, and the time by which its
outbound calls have to be answered. -/
namespace ServiceBroker

/-- A time or a length of time in milliseconds. -/
abbrev Millis := Nat

/-- The id to use for a request: the caller's, unless it is blank. -/
def requestIdOr (generated given : String) : String :=
  if Text.isBlankText given then generated else given

/-- Lets time pass under a deadline. True if the end is reached in time; otherwise the wait is
broken off at the deadline, or at once if the deadline is over already. No time at all is always in
time. -/
def wait (deadline : Option Millis) (now length : Millis) : Bool × Millis :=
  match deadline with
  | none => (true, now + length)
  | some limit =>
    if length == 0 || now + length ≤ limit then (true, now + length) else (false, max now limit)

/-- The answer of a call that takes some time, or the failure of having been cut off. -/
def bounded {α : Type} (c : Collaborator) (operation : String) (deadline : Option Millis)
    (now length : Millis) (answer : Except c.Error α) : Except c.Error α :=
  if (wait deadline now length).1 then answer else .error (c.expired operation)

end ServiceBroker
