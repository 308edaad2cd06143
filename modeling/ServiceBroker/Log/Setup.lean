import ServiceBroker.Lock
import ServiceBroker.Log.Event
import ServiceBroker.Settings.Environment

/-! Which events a broker process writes, and how, by the environment that it was started in. -/
namespace ServiceBroker.Log

open Settings

/-- How events are written. -/
inductive Format where
  | text
  | json
  deriving DecidableEq, Inhabited

/-- The part of a broker that an event comes from. -/
inductive Origin where
  | journal
  | locks
  deriving DecidableEq, Inhabited

/-- How a process logs. Without a threshold it logs nothing. -/
structure Setup where
  environment : String
  threshold : Option Level
  format : Format
  deriving DecidableEq, Inhabited

/-- The threshold that a word sets: a level by its name in any case or by its number. An empty word
lets errors through, and every other word nothing. -/
def thresholdOf (word : String) : Option Level :=
  match String.ofList (Decimal.lowered word.toList) with
  | "" => some .error
  | "error" => some .error
  | "warn" => some .warn
  | "info" => some .info
  | "debug" => some .debug
  | "trace" => some .trace
  | "1" => some .error
  | "2" => some .warn
  | "3" => some .info
  | "4" => some .debug
  | "5" => some .trace
  | _ => none

/-- The threshold of an environment: production logs less than everything else. -/
def usualThreshold (environment : String) : Level :=
  if environment = "production" then .info else .debug

namespace Setup

/-- The setup of a process. The threshold is the one in the variable that was chosen for it, or else
the usual one. -/
def ofVariables (thresholdVariable : String) (vars : Variables) : Setup :=
  let environment :=
    ((vars.get? environmentVariable).or (vars.get? "APP_ENV")).getD "development"
  { environment
    threshold := match vars.get? thresholdVariable with
      | none => some (usualThreshold environment)
      | some word => thresholdOf word
    format := match vars.get? "BROKER_LOG_FORMAT" with
      | some word => if Decimal.lowered word.toList = ['j', 's', 'o', 'n'] then .json else .text
      | none => .text }

def admits (s : Setup) (e : Event) : Bool :=
  s.threshold.any fun threshold => e.level.passes threshold

def started (s : Setup) : Event :=
  { level := .info
    message := "Structured logging initialized"
    fields := [("environment", .plain s.environment)] }

end Setup

def lockAcquired (kind : LockKind) (id : String) : Event :=
  { level := .debug
    message := "lock acquired"
    fields := [("kind", .quoted kind.word), ("id", .plain id)] }

end ServiceBroker.Log
