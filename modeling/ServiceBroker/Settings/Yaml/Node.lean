import ServiceBroker.NameMap
import ServiceBroker.Settings.Yaml.Token

/-! YAML texts as settings. Tokens are read into nodes, and nodes become settings: a key that is
missing its value has nothing, a key is a text or a whole number, and no mapping has a key twice. -/
namespace ServiceBroker.Settings.Yaml

/-- What a piece of YAML text says. -/
inductive Node where
  | scalar (plain : Bool) (text : List Char)
  | sequence (items : List Node)
  | mapping (members : List (Node × Node))
  deriving Inhabited

namespace Node

/-- The node that stands where nothing is written. -/
def missing : Node := .scalar true []

/-- Nothing is written in front of one of these tokens. -/
def isAbsent (stops : List Token) : List Token → Bool
  | [] => true
  | t :: _ => stops.contains t

/-- How to read a node, in front of which a block may begin, and possibly one that is a sequence
without an indentation of its own. -/
abbrev Reader := Bool → Bool → List Token → Option (Node × List Token)

/-- Reads a node unless nothing is written. -/
def optional (read : Reader) (block loose : Bool) (stops : List Token) (tokens : List Token) :
    Option (Node × List Token) :=
  if isAbsent stops tokens then some (missing, tokens) else read block loose tokens

def blockItems (read : Reader) : Nat → List Token → Option (List Node × List Token)
  | fuel + 1, .blockEntry :: rest => do
    let (item, rest) ← optional read true false [.blockEntry, .blockEnd] rest
    let (items, rest) ← blockItems read fuel rest
    return (item :: items, rest)
  | _, .blockEnd :: rest => some ([], rest)
  | _, _ => none

/-- Reads the items of a sequence that is indented like the mapping around it. -/
def looseItems (read : Reader) : Nat → List Token → Option (List Node × List Token)
  | fuel + 1, .blockEntry :: rest => do
    let (item, rest) ← optional read true false [.blockEntry, .key, .value, .blockEnd] rest
    let (items, rest) ← looseItems read fuel rest
    return (item :: items, rest)
  | _, tokens => some ([], tokens)

/-- Reads the value of a key, if a value is written. -/
def valueOf (read : Reader) (block : Bool) (stops : List Token) :
    List Token → Option (Node × List Token)
  | .value :: rest => optional read block block stops rest
  | tokens => some (missing, tokens)

def blockMembers (read : Reader) : Nat → List Token → Option (List (Node × Node) × List Token)
  | fuel + 1, .key :: rest => do
    let stops := [Token.key, .value, .blockEnd]
    let (key, rest) ← optional read true true stops rest
    let (value, rest) ← valueOf read true stops rest
    let (members, rest) ← blockMembers read fuel rest
    return ((key, value) :: members, rest)
  | fuel + 1, .value :: rest => do
    let (value, rest) ← valueOf read true [.key, .value, .blockEnd] (.value :: rest)
    let (members, rest) ← blockMembers read fuel rest
    return ((missing, value) :: members, rest)
  | _, .blockEnd :: rest => some ([], rest)
  | _, _ => none

/-- Moves over the comma between two entries of a flow collection. -/
def pastComma (first : Bool) : List Token → Option (List Token)
  | .flowEntry :: rest => if first then none else some rest
  | tokens => if first then some tokens else none

/-- Reads a key in a flow collection and its value, if one is written. -/
def flowMember (read : Reader) (close : Token) : List Token → Option ((Node × Node) × List Token)
  | .key :: rest => do
    let (key, rest) ← optional read false false [.value, .flowEntry, close] rest
    let (value, rest) ← valueOf read false [.flowEntry, close] rest
    return ((key, value), rest)
  | .value :: rest => do
    let (value, rest) ← valueOf read false [.flowEntry, close] (.value :: rest)
    return ((missing, value), rest)
  | tokens => do
    let (key, rest) ← read false false tokens
    return ((key, missing), rest)

/-- Reads an item of a flow sequence; a key with a value is a mapping of its own. -/
def flowItem (read : Reader) (tokens : List Token) : Option (Node × List Token) :=
  if tokens.head? == some .key then
    (flowMember read .flowSequenceEnd tokens).map fun (member, rest) => (.mapping [member], rest)
  else read false false tokens

/-- Reads the entries of a flow collection. A comma may stand behind the last one. -/
def flowEntries {α : Type} (entry : List Token → Option (α × List Token)) (close : Token) :
    Nat → Bool → List Token → Option (List α × List Token)
  | 0, _, _ => none
  | fuel + 1, first, tokens =>
    if tokens.head? == some close then some ([], tokens.tail)
    else do
      let tokens ← pastComma first tokens
      if tokens.head? == some close && !first then return ([], tokens.tail)
      else
        let (a, rest) ← entry tokens
        let (more, rest) ← flowEntries entry close fuel false rest
        return (a :: more, rest)

def read : Nat → Reader
  | 0, _, _, _ => none
  | fuel + 1, block, loose, tokens =>
    let inner := read fuel
    match tokens with
    | .scalar plain text :: rest => some (.scalar plain text, rest)
    | .flowSequence :: rest =>
      (flowEntries (flowItem inner) .flowSequenceEnd fuel true rest).map fun (items, rest) =>
        (.sequence items, rest)
    | .flowMapping :: rest =>
      (flowEntries (flowMember inner .flowMappingEnd) .flowMappingEnd fuel true rest).map
        fun (members, rest) => (.mapping members, rest)
    | .blockSequence :: rest =>
      if block then (blockItems inner fuel rest).map fun (items, rest) => (.sequence items, rest)
      else none
    | .blockMapping :: rest =>
      if block then
        (blockMembers inner fuel rest).map fun (members, rest) => (.mapping members, rest)
      else none
    | .blockEntry :: _ =>
      if loose then (looseItems inner fuel tokens).map fun (items, rest) => (.sequence items, rest)
      else none
    | _ => none

/-- Tokens without the marks of ends of documents in front of them. -/
def pastDocumentEnds : List Token → List Token
  | .documentEnd :: rest => pastDocumentEnds rest
  | tokens => tokens

/-- The node of a text with one document, or that of a text with none. -/
def ofTokens? (tokens : List Token) : Option (Option Node) :=
  let whole (tokens : List Token) : Option (Option Node) := do
    let (node, rest) ←
      optional (read (tokens.length + 1)) true false [.documentStart, .documentEnd] tokens
    if (pastDocumentEnds rest).isEmpty then return some node else none
  match pastDocumentEnds tokens with
  | [] => some none
  | .documentStart :: rest => whole rest
  | tokens => whole tokens

def keyName? : Setting → Option String
  | .text s => some s
  | .whole n => some (if n < 0 then "-" ++ n.natAbs.repr else n.natAbs.repr)
  | _ => none

mutual

def toSetting? : Node → Option Setting
  | .scalar plain text => if plain then plainSetting? text else some (.text (String.ofList text))
  | .sequence items => (itemSettings? items).map .list
  | .mapping members => (memberSettings? [] [] members).map .table

/-- The settings that the items of a sequence denote. -/
def itemSettings? : List Node → Option (List Setting)
  | [] => some []
  | item :: rest =>
    (toSetting? item).bind fun setting =>
      (itemSettings? rest).map fun settings => setting :: settings

/-- The entries that the members of a mapping denote. `seen` tells the keys before them, and for
each whether it was a text. -/
def memberSettings? (seen : List (Bool × String)) (entries : List (String × Setting)) :
    List (Node × Node) → Option (List (String × Setting))
  | [] => some entries
  | (key, value) :: rest =>
    (toSetting? key).bind fun keySetting => (keyName? keySetting).bind fun name =>
      (toSetting? value).bind fun setting =>
        let mark := (keySetting matches .text _, name)
        if seen.contains mark then none
        else memberSettings? (mark :: seen) (insertEntry name setting entries) rest

end

end Node

/-- The settings of a YAML text. A text without a document is an empty table. -/
def settings? (text : List Char) : Option Setting :=
  (tokens? text).bind fun tokens => (Node.ofTokens? tokens).bind fun
    | some node => node.toSetting?
    | none => some .emptyTable

end ServiceBroker.Settings.Yaml
