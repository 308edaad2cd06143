import ServiceBroker.Settings.Yaml.Scalar

/-! The tokens of a YAML text. Where blocks begin and end shows in columns alone, so tokens for that
are made up here. A key shows only at the colon behind it; its token is then put in front of what
turned out to be the key. -/
namespace ServiceBroker.Settings.Yaml

/-- A token. -/
inductive Token where
  | documentStart
  | documentEnd
  | blockSequence
  | blockMapping
  | blockEnd
  | flowSequence
  | flowSequenceEnd
  | flowMapping
  | flowMappingEnd
  /-- A dash in front of an item. -/
  | blockEntry
  /-- A comma in a flow collection. -/
  | flowEntry
  /-- A key follows. -/
  | key
  /-- A value follows. -/
  | value
  | scalar (plain : Bool) (text : List Char)
  deriving DecidableEq, Inhabited

/-- Where something begins that may turn out to be a key. It has to be one if it stands at the
column of the keys of its block. -/
structure KeyStart where
  place : Nat
  line : Nat
  offset : Nat
  column : Nat
  required : Bool
  deriving Inhabited

/-- The column of an enclosing block. `isBlock` is false for the column that is made up for the
value of a key, which ends without a token. -/
structure Indent where
  outer : Int
  isBlock : Bool
  deriving Inhabited

/-- The tokens read so far and what decides about the next ones. -/
structure Lexer where
  cursor : Cursor
  tokens : List Token := []
  /-- A key may begin here. -/
  keyAllowed : Bool := true
  /-- What may turn out to be a key, for each open flow collection and, last, outside of them. -/
  keys : List (Option KeyStart) := [none]
  /-- The column of the innermost block; minus one outside of all blocks. -/
  indent : Int := -1
  indents : List Indent := []
  /-- Where a colon needs no white space behind it. -/
  adjacentAt : Option Nat := none
  /-- The mapping of a pair without braces has begun in a flow collection and has yet to end. -/
  pairOpen : Bool := false
  /-- Since a pair without braces ended last, a brace has been opened or a question mark was read in
  a flow collection. A further pair does not begin a mapping then. -/
  bracesSeen : Bool := false
  deriving Inhabited

/-- Closes blocks to the right of a column. -/
def unindent (column : Int) : List Indent → Int → List Token → Int × List Indent × List Token
  | [], indent, tokens => (indent, [], tokens)
  | inner :: rest, indent, tokens =>
    if indent > column then
      unindent column rest inner.outer (if inner.isBlock then tokens ++ [.blockEnd] else tokens)
    else (indent, inner :: rest, tokens)

/-- Forgets columns that were made up for values of keys. -/
def forgetMadeUp : List Indent → Int → Int × List Indent
  | inner :: rest, indent =>
    if inner.isBlock then (indent, inner :: rest) else forgetMadeUp rest inner.outer
  | [], indent => (indent, [])

namespace Lexer

def inFlow (l : Lexer) : Bool := l.keys.length > 1

def push (l : Lexer) (t : Token) : Lexer := { l with tokens := l.tokens ++ [t] }

/-- Adds a token at a place among the others. -/
def insert (l : Lexer) (place : Nat) (t : Token) : Lexer :=
  { l with tokens := l.tokens.insertIdx place t }

def past (l : Lexer) (n : Nat) : Lexer := { l with cursor := l.cursor.past n }

def pastSpace? (l : Lexer) : Option Lexer := l.cursor.pastSpace?.map fun cursor => { l with cursor }

def allowKey (l : Lexer) (allowed : Bool) : Lexer := { l with keyAllowed := allowed }

/-- Closes the blocks to the right of a column. Columns do not matter inside flow collections. -/
def closeBlocks (l : Lexer) (column : Int) : Lexer :=
  if l.inFlow then l
  else
    let (indent, indents, tokens) := unindent column l.indents l.indent l.tokens
    { l with indent, indents, tokens }

/-- Opens a block at a column, unless it is open already. Its token goes to a place among the others
or behind them. -/
def openBlock (l : Lexer) (column : Int) (place : Nat) (t : Token) : Lexer :=
  if l.inFlow then l
  else
    let (indent, indents) := match l.indents with
      | inner :: rest =>
        if l.indent ≤ column && !inner.isBlock then (inner.outer, rest) else (l.indent, l.indents)
      | [] => (l.indent, [])
    let l := { l with indent, indents }
    if l.indent < column then
      { l with indents := ⟨l.indent, true⟩ :: l.indents, indent := column }.insert place t
    else l

/-- Makes up a column for what follows, one to the right of the block. -/
def indentByOne (l : Lexer) : Lexer :=
  match l.indents with
  | inner :: _ =>
    if !l.inFlow && inner.isBlock then
      { l with indents := ⟨l.indent, false⟩ :: l.indents, indent := l.indent + 1 }
    else l
  | [] => l

def noteKey (l : Lexer) : Lexer :=
  if l.keyAllowed then
    let required := !l.inFlow && l.indent == (l.cursor.column : Int) &&
      l.indents.head?.any fun inner => inner.isBlock
    let start : KeyStart :=
      ⟨l.tokens.length, l.cursor.line, l.cursor.offset, l.cursor.column, required⟩
    { l with keys := some start :: l.keys.tail }
  else l

def dropKey (l : Lexer) : Option Lexer :=
  match l.keys with
  | some start :: rest => if start.required then none else some { l with keys := none :: rest }
  | _ => some l

/-- The largest distance between the beginning of a key and its colon. -/
def longestKey : Nat := 1024

/-- Gives up what might have been a key once its line has ended. -/
def dropStaleKey (l : Lexer) : Option Lexer :=
  match l.keys with
  | [some start] =>
    if start.line < l.cursor.line || start.offset + longestKey < l.cursor.offset then l.dropKey
    else some l
  | _ => some l

/-- Moves over white space, line ends and comments to the next token. Tabs may not stand for
indentation. -/
def toToken : Nat → Lexer → Option Lexer
  | 0, _ => none
  | fuel + 1, l =>
    match l.cursor.rest with
    | [] => some l
    | c :: _ =>
      if c == '\t' && !l.indents.isEmpty && l.cursor.atLineStart &&
          (l.cursor.column : Int) < l.indent then
        l.pastSpace?.bind fun l => if lineEnds l.cursor.rest then toToken fuel l else none
      else if isBlank c then toToken fuel { l with cursor := l.cursor.pastBlank 1 }
      else if isBreak c then
        toToken fuel
          { l with cursor := l.cursor.pastBreak, keyAllowed := l.keyAllowed || !l.inFlow }
      else if c == '#' then toToken fuel { l with cursor := l.cursor.pastComment }
      else some l

/-- How many flow collections may be open inside each other. -/
def deepestFlow : Nat := 255

/-- Reads the beginning of a flow collection. -/
def openFlow (l : Lexer) (t : Token) : Option Lexer :=
  let l := l.noteKey.indentByOne
  if l.keys.length > deepestFlow then none
  else
    let l : Lexer := { l with
      keys := none :: l.keys, keyAllowed := true, bracesSeen := l.bracesSeen || t == .flowMapping }
    (l.past 1).pastSpace?.map fun l => l.push t

/-- Ends the mapping of a pair without braces, if one has begun. This happens at the next comma or
bracket, even where that belongs to the value of the pair. -/
def endPair (l : Lexer) : Lexer :=
  if l.pairOpen then { l with pairOpen := false, bracesSeen := false }.push .flowMappingEnd else l

def closeFlow (l : Lexer) (t : Token) : Option Lexer :=
  l.dropKey.bind fun l =>
    let l : Lexer := if l.inFlow then { l with keys := l.keys.tail } else l
    ((l.allowKey false).endPair.past 1).pastSpace?.map fun l =>
      let l : Lexer := if l.inFlow then { l with adjacentAt := some l.cursor.offset } else l
      l.push t

def flowEntry (l : Lexer) : Option Lexer :=
  l.dropKey.bind fun l =>
    ((l.allowKey true).endPair.past 1).pastSpace?.map fun l => l.push .flowEntry

def blockEntry (l : Lexer) : Option Lexer :=
  if l.inFlow || !l.keyAllowed then none
  else
    let l := (l.past 1).openBlock l.cursor.column l.tokens.length .blockSequence
    l.cursor.pastSpace.bind fun (cursor, hadTab, _) =>
      if hadTab && cursor.rest.head? == some '-' && wordEnds cursor.rest.tail then none
      else
        let l := { l with cursor }
        let l := if (!cursor.rest.isEmpty && lineEnds cursor.rest) || flowFollows cursor.rest then
          l.indentByOne else l
        l.dropKey.map fun l => (l.allowKey true).push .blockEntry

/-- Moves over spaces, line ends and comments to the key behind a question mark. No tab may stand in
front of the key. -/
def toExplicitKey : Nat → Lexer → Option Lexer
  | 0, _ => none
  | fuel + 1, l =>
    match l.cursor.rest with
    | [] => some l
    | c :: _ =>
      if c == '\t' then none
      else if c == ' ' then toExplicitKey fuel { l with cursor := l.cursor.pastBlank 1 }
      else if isBreak c then toExplicitKey fuel { l with cursor := l.cursor.pastBreak }
      else if c == '#' then toExplicitKey fuel { l with cursor := l.cursor.pastComment }
      else some l

/-- Reads a question mark in front of a key. -/
def explicitKey (l : Lexer) : Option Lexer :=
  if !l.inFlow && !l.keyAllowed then none
  else
    let opened := l.openBlock l.cursor.column l.tokens.length .blockMapping
    opened.dropKey.bind fun l =>
      let l : Lexer := { l with keyAllowed := !l.inFlow, bracesSeen := l.bracesSeen || l.inFlow }
      let l := l.past 1
      (toExplicitKey (l.cursor.rest.length + 1) l).map fun l => l.push .key

/-- What may not follow a colon with nothing but tabs between. -/
def isAfterTabsBarred (c : Char) : Bool := c.isAlphanum || c == '_' || c == '-'

/-- Moves over a colon. If only tabs stand behind it, no word may follow them. -/
def pastColon (l : Lexer) : Option Lexer :=
  let l := l.past 1
  if l.cursor.rest.head? == some '\t' then
    l.cursor.pastSpace.bind fun (cursor, _, hadSpace) =>
      if !hadSpace && cursor.rest.head?.any isAfterTabsBarred then none
      else some { l with cursor }
  else some l

/-- Reads a colon in front of a value. What stands before it is a key, if it can be one. In a flow
sequence, key and value are a mapping of their own, and then the key has to begin on the line of the
colon. -/
def value (l : Lexer) : Option Lexer :=
  let column : Int := l.cursor.column
  let line := l.cursor.line
  ({ l with pairOpen := l.inFlow && !l.bracesSeen } : Lexer).pastColon.bind fun l =>
    match l.keys with
    | some start :: rest =>
      if l.pairOpen && start.line < line then none
      else
        let l := l.insert start.place .key
        let l := if l.pairOpen then l.insert start.place .flowMapping else l
        let l := l.openBlock start.column start.place .blockMapping
        some (({ l.indentByOne with keys := none :: rest }.allowKey false).push .value)
    | _ =>
      let l := if l.pairOpen then l.push .flowMapping else l
      if l.inFlow then some ((l.allowKey false).push .value)
      else if !l.keyAllowed then none
      else
        let l := l.openBlock column l.tokens.length .blockMapping
        some ((l.indentByOne.allowKey true).push .value)

/-- What may stand behind a scalar in quotes: the end of the line, the rest of a flow collection, or
a colon, for which outside of flow collections the scalar has to be a single line. -/
def mayFollowQuotes (l : Lexer) (line : Nat) : Bool :=
  match l.cursor.rest with
  | [] => true
  | c :: _ =>
    isBreak c || (l.inFlow && (c == ',' || c == '\x7d' || c == ']' || c == ':')) ||
      (c == ':' && line == l.cursor.line)

def quoted (l : Lexer) (single : Bool) : Option Lexer :=
  let line := l.cursor.line
  let l := (l.noteKey.allowKey false).past 1
  (quotedScalar single l.indent (l.cursor.rest.length + 1) l.cursor {}).bind fun (cursor, s) =>
    ({ l with cursor } : Lexer).pastSpace?.bind fun l =>
      if l.mayFollowQuotes line then
        (toToken (l.cursor.rest.length + 1) l).map fun l =>
          { l with adjacentAt := some l.cursor.offset }.push (.scalar false s.chars)
      else none

def plain (l : Lexer) : Option Lexer :=
  let l := l.noteKey.allowKey false
  let (indent, indents) := forgetMadeUp l.indents l.indent
  let l := { l with indent, indents }
  if l.inFlow && (l.cursor.column : Int) < indent + 1 then none
  else
    let fuel := l.cursor.rest.length + 1
    (plainScalar l.inFlow (indent + 1) fuel l.cursor {}).map fun (cursor, s) =>
      { l with cursor, keyAllowed := l.keyAllowed || cursor.atLineStart }.push
        (.scalar true s.chars)

/-- Reads a mark between documents. Nothing but a comment may stand behind dots. -/
def documentMark (l : Lexer) (mark : Char) : Option Lexer :=
  (l.closeBlocks (-1)).dropKey.bind fun l =>
    let l := (l.allowKey false).past 3
    if mark == '-' then some (l.push .documentStart)
    else (l.push .documentEnd).pastSpace?.bind fun l =>
      if lineEnds l.cursor.rest then some l else none

/-- Reads a token that begins with a character. Anchors, tags and blocks of literal text are not
read. -/
def token (l : Lexer) (c : Char) (next : List Char) : Option Lexer :=
  if c == '[' then l.openFlow .flowSequence
  else if c == '\x7b' then l.openFlow .flowMapping
  else if c == ']' then l.closeFlow .flowSequenceEnd
  else if c == '\x7d' then l.closeFlow .flowMappingEnd
  else if c == ',' then l.flowEntry
  else if c == '-' && wordEnds next then l.blockEntry
  else if c == '?' && wordEnds next then l.explicitKey
  else if c == ':' &&
      (wordEnds next ||
        (l.inFlow && (flowFollows next || l.adjacentAt == some l.cursor.offset))) then
    l.value
  else if c == '\'' then l.quoted true
  else if c == '"' then l.quoted false
  else if ['*', '&', '!', '%', '@', '\x60'].contains c ||
      (!l.inFlow && (c == '|' || c == '>')) then none
  else l.plain

def run : Nat → Lexer → Option (List Token)
  | 0, _ => none
  | fuel + 1, l =>
    (toToken (l.cursor.rest.length + 1) l).bind fun l => l.dropStaleKey.bind fun l =>
      let l := l.closeBlocks l.cursor.column
      match l.cursor.rest with
      | [] => l.dropKey.map fun l => (l.closeBlocks (-1)).tokens
      | c :: next =>
        if l.cursor.atMark '-' then (l.documentMark '-').bind (run fuel)
        else if l.cursor.atMark '.' then (l.documentMark '.').bind (run fuel)
        else if (l.cursor.column : Int) < l.indent then none
        else (l.token c next).bind (run fuel)

end Lexer

/-- The tokens of a text. A null character ends it. -/
def tokens? (text : List Char) : Option (List Token) :=
  let text := text.takeWhile (· != '\x00')
  Lexer.run (text.length + 1) { cursor := { rest := text } }

end ServiceBroker.Settings.Yaml
