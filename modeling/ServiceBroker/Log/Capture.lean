import ServiceBroker.Log.Event
import ServiceBroker.Text.Quoted

/-! Captured logs: while a capture is installed, each event becomes a line of text in it. -/
namespace ServiceBroker.Log

namespace FieldValue

def text : FieldValue → String
  | plain s => s
  | quoted s => Text.quoted s
  | number n => n.repr
  | flag b => if b then "true" else "false"

end FieldValue

def Level.column (level : Level) : String :=
  String.ofList (List.replicate (5 - level.capitals.length) ' ') ++ level.capitals

/-- The line of an event: when it happened, its level, where it comes from, its message and its
fields. -/
def Event.line (time origin : String) (e : Event) : String :=
  time ++ " " ++ e.level.column ++ " " ++ origin ++ ": " ++ e.message ++
    String.join (e.fields.map fun f => " " ++ f.1 ++ "=" ++ f.2.text) ++ "\n"

/-- A text of which events become a part while it is listening. The guard of an installation puts
back what was there before it. -/
structure Capture where
  text : String := ""
  listening : Bool := false
  guard : Option Bool := none
  deriving Inhabited

namespace Capture

/-- Begins to listen. The guard of an earlier installation is dropped once the new one is in place.
-/
def install (c : Capture) : Capture :=
  { c with listening := c.guard.getD true, guard := some c.listening }

def dropGuard (c : Capture) : Capture :=
  match c.guard with
  | some before => { c with listening := before, guard := none }
  | none => c

def hear (time origin : String) (e : Event) (c : Capture) : Capture :=
  if c.listening then { c with text := c.text ++ e.line time origin } else c

/-- A list of characters begins somewhere in another one. -/
def occursIn (needle : List Char) : List Char → Bool
  | [] => needle.isEmpty
  | c :: rest => needle.isPrefixOf (c :: rest) || occursIn needle rest

def contains (c : Capture) (needle : String) : Bool := occursIn needle.toList c.text.toList

def lineCount (c : Capture) : Nat := c.text.toList.count '\n'

end Capture

end ServiceBroker.Log
