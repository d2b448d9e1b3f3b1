import NodeDataplane.Document.Yaml.BlockScalar
import NodeDataplane.Document.Yaml.Directive
import NodeDataplane.Document.Yaml.Scalar

/-!
# Tokens of a YAML text

Blocks are told by indentation, so the tokens include starts and ends of blocks that no character
stands for. Whether a scalar is a key is seen only at the colon behind it: while a key is possible,
the place where its token would go is remembered, and the token is put there later. A key that
needs no question mark stands on one line and is no longer than 1024 characters.

A text that cannot be read to its end still has tokens: those in front of the first place that is
open when reading fails, and a last one that tells why it fails. So what is wrong with the tokens in
front is found out before.
-/

namespace NodeDataplane.Yaml

inductive Token where
  | directive (directive : Directive)
  | documentStart
  | documentEnd
  | blockSequenceStart
  | blockMappingStart
  | blockEnd
  | flowSequenceStart
  | flowSequenceEnd
  | flowMappingStart
  | flowMappingEnd
  | blockEntry
  | flowEntry
  | key
  | value
  /-- A node that is referred to by its name. -/
  | reference (name : String)
  | anchor (name : String)
  | tag (tag : TagName)
  | scalar (plain : Bool) (text : String)
  /-- The place where the text cannot be read on. -/
  | broken (fault : DocumentFault)
  deriving DecidableEq, Repr

structure PossibleKey where
  position : Nat
  /-- Whether there is nothing that it could be but a key. -/
  required : Bool
  index : Nat
  line : Nat
  column : Nat
  deriving DecidableEq, Repr

structure Scanner where
  cursor : Cursor
  tokens : List Token
  /-- The column of the innermost block, -1 outside of all. -/
  indent : Int
  /-- The columns of the blocks around it, the innermost first. -/
  outer : List Int
  keyAllowed : Bool
  possible : Option PossibleKey
  /-- The possible keys around each pair of open brackets, the innermost first. -/
  around : List (Option PossibleKey)

namespace Scanner

def start (cs : List Char) : Scanner := ⟨.start cs, [], -1, [], true, none, []⟩

def inFlow (s : Scanner) : Bool := !s.around.isEmpty

def push (s : Scanner) (t : Token) : Scanner := { s with tokens := t :: s.tokens }

def pushAt (s : Scanner) (position : Nat) (t : Token) : Scanner :=
  { s with tokens := s.tokens.insertIdx (s.tokens.length - position) t }

def pushMark (s : Scanner) (n : Nat) (t : Token) : Scanner :=
  { s.push t with cursor := s.cursor.skip n }

/-! ### Possible keys -/

def isStale (c : Cursor) (k : PossibleKey) : Bool := k.line != c.line || 1024 < c.index - k.index

/-- Drop the possible keys that have become impossible; one that is required may not. -/
def dropStale (s : Scanner) : Except DocumentFault Scanner :=
  let stale (k : Option PossibleKey) : Bool := k.any (isStale s.cursor)
  let missed (k : Option PossibleKey) : Bool := k.any fun k => isStale s.cursor k && k.required
  if missed s.possible || s.around.any missed then malformed
  else .ok { s with
    possible := if stale s.possible then none else s.possible
    around := s.around.map fun k => if stale k then none else k }

def dropKey (s : Scanner) : Except DocumentFault Scanner :=
  if s.possible.any (·.required) then malformed else .ok { s with possible := none }

def saveKey (s : Scanner) : Except DocumentFault Scanner :=
  if s.keyAllowed then do
    let s ← s.dropKey
    let c := s.cursor
    let required := !s.inFlow && s.indent == c.column
    return { s with possible := some ⟨s.tokens.length, required, c.index, c.line, c.column⟩ }
  else .ok s

/-! ### Blocks -/

def unwind (column : Int) (s : Scanner) : Scanner :=
  if s.inFlow then s else go s.outer s
where
  go : List Int → Scanner → Scanner
    | [], s => s
    | around :: rest, s =>
      if column < s.indent then go rest { s.push .blockEnd with indent := around, outer := rest }
      else s

/-- Open a block at a column, if it is deeper than the innermost one. -/
def openBlock? (column : Int) (s : Scanner) : Option Scanner :=
  if s.indent < column then some { s with indent := column, outer := s.indent :: s.outer } else none

/-- Open a block here, if it is needed, with a token for its start. -/
def openHere (t : Token) (s : Scanner) : Scanner :=
  match s.openBlock? s.cursor.column with
  | some s => s.push t
  | none => s

/-! ### Single tokens -/

def leaveBlocks (s : Scanner) : Except DocumentFault Scanner := do
  let s ← (s.unwind (-1)).dropKey
  return { s with keyAllowed := false }

def directive (s : Scanner) : Except DocumentFault Scanner := do
  let s ← s.leaveBlocks
  let (directive, c) ← readDirective s.cursor.advance
  return { s.push (.directive directive) with cursor := c }

def openBrackets (t : Token) (s : Scanner) : Except DocumentFault Scanner := do
  let s ← s.saveKey
  return { s.pushMark 1 t with
    keyAllowed := true, possible := none, around := s.possible :: s.around }

def closeBrackets (t : Token) (s : Scanner) : Except DocumentFault Scanner := do
  let s ← s.dropKey
  match s.around with
  | [] => malformed
  | possible :: around =>
    return { s.pushMark 1 t with keyAllowed := false, possible, around }

/-- A comma between brackets. -/
def flowEntry (s : Scanner) : Except DocumentFault Scanner := do
  let s ← s.dropKey
  return { s.pushMark 1 .flowEntry with keyAllowed := true }

/-- The dash of a list. -/
def blockEntry (s : Scanner) : Except DocumentFault Scanner := do
  if !s.inFlow && !s.keyAllowed then malformed
  else
    let s := if s.inFlow then s else s.openHere .blockSequenceStart
    let s ← s.dropKey
    return { s.pushMark 1 .blockEntry with keyAllowed := true }

/-- The question mark of a key. -/
def explicitKey (s : Scanner) : Except DocumentFault Scanner := do
  if !s.inFlow && !s.keyAllowed then malformed
  else
    let s := if s.inFlow then s else s.openHere .blockMappingStart
    let s ← s.dropKey
    return { s.pushMark 1 .key with keyAllowed := !s.inFlow }

/-- The colon of a value: what stood before it was a key. -/
def value (s : Scanner) : Except DocumentFault Scanner := do
  match s.possible with
  | some k =>
    let s := { s with possible := none }.pushAt k.position .key
    let s := if s.inFlow then s else
      match s.openBlock? k.column with
      | some s => s.pushAt k.position .blockMappingStart
      | none => s
    return { s.pushMark 1 .value with keyAllowed := false }
  | none =>
    if !s.inFlow && !s.keyAllowed then malformed
    else
      let s := if s.inFlow then s else s.openHere .blockMappingStart
      return { s.pushMark 1 .value with keyAllowed := !s.inFlow }

/-- A token that is read by itself, at which a key may start but not behind it. -/
def keyPart (read : Cursor → Except DocumentFault (Token × Cursor)) (s : Scanner) :
    Except DocumentFault Scanner := do
  let s ← s.saveKey
  let (t, c) ← read s.cursor
  return { s.push t with cursor := c, keyAllowed := false }

def reference : Scanner → Except DocumentFault Scanner :=
  keyPart fun c => (readName c.advance).map fun (name, c) => (.reference name, c)

def anchor : Scanner → Except DocumentFault Scanner :=
  keyPart fun c => (readName c.advance).map fun (name, c) => (.anchor name, c)

def tag : Scanner → Except DocumentFault Scanner :=
  keyPart fun c => (readTag c).map fun (tag, c) => (.tag tag, c)

def quotedScalar (double : Bool) : Scanner → Except DocumentFault Scanner :=
  keyPart fun c => (readQuoted double (c.rest.length + 1) c.advance).map fun (text, c) =>
    (.scalar false (String.ofList text), c)

/-- A plain scalar. Behind a line break a key may start again. -/
def plainScalar (s : Scanner) : Except DocumentFault Scanner := do
  let s ← s.saveKey
  let (text, c, broken) :=
    readPlain s.inFlow (s.indent + 1) (s.cursor.rest.length + 1) [] false s.cursor
  return { s.push (.scalar true (String.ofList text)) with cursor := c, keyAllowed := broken }

/-- A scalar that is the lines of a block, deeper than the block around. A key may start behind. -/
def blockScalar (folding : Bool) (s : Scanner) : Except DocumentFault Scanner := do
  let s ← s.dropKey
  let (text, c) ← readBlock folding (max 1 (s.indent + 1).toNat) s.cursor.advance
  return { s.push (.scalar false (String.ofList text)) with cursor := c, keyAllowed := true }

/-! ### The whole text -/

def isIndicator (c : Char) : Bool := "-?:,[]\x7b\x7d#&*!|>'\"%@`".toList.contains c

def atPlain (s : Scanner) (c : Char) : Bool :=
  (!isBlankOrEnd (some c) && !isIndicator c) ||
    (!isBlankOrEnd (s.cursor.peekAt 1) && (c == '-' || (!s.inFlow && (c == '?' || c == ':'))))

/-- Skip blanks, comments and line breaks. Outside of brackets a key may start on a new line. -/
def skipToToken (fuel : Nat) (s : Scanner) : Scanner :=
  match fuel with
  | 0 => s
  | fuel + 1 =>
    let c := s.cursor.skipWhile (· == ' ')
    let c := if c.peek = some '#' then c.skipWhile (!isBreak ·) else c
    match c.takeBreak? with
    | none => { s with cursor := c }
    | some (_, c) =>
      skipToToken fuel { s with cursor := c, keyAllowed := s.keyAllowed || !s.inFlow }

def token (s : Scanner) (c : Char) : Except DocumentFault Scanner :=
  let atStart := s.cursor.column == 0
  let next := s.cursor.peekAt 1
  if c == '%' && atStart then s.directive
  else if atStart && s.cursor.atSeparator '-' then
    s.leaveBlocks.map (·.pushMark 3 .documentStart)
  else if atStart && s.cursor.atSeparator '.' then
    s.leaveBlocks.map (·.pushMark 3 .documentEnd)
  else if c == '[' then s.openBrackets .flowSequenceStart
  else if c == '\x7b' then s.openBrackets .flowMappingStart
  else if c == ']' then s.closeBrackets .flowSequenceEnd
  else if c == '\x7d' then s.closeBrackets .flowMappingEnd
  else if c == ',' then s.flowEntry
  else if c == '-' && isBlankOrEnd next then s.blockEntry
  else if c == '?' && (s.inFlow || isBlankOrEnd next) then s.explicitKey
  else if c == ':' && (s.inFlow || isBlankOrEnd next) then s.value
  else if c == '*' then s.reference
  else if c == '&' then s.anchor
  else if c == '!' then s.tag
  else if c == '|' && !s.inFlow then s.blockScalar false
  else if c == '>' && !s.inFlow then s.blockScalar true
  else if c == '\'' then s.quotedScalar false
  else if c == '"' then s.quotedScalar true
  else if s.atPlain c then s.plainScalar
  else malformed

/-- Go to the next token, and end the blocks that it is not in. -/
def approach (s : Scanner) : Except DocumentFault Scanner := do
  let s ← (s.skipToToken (s.cursor.rest.length + 1)).dropStale
  return s.unwind s.cursor.column

/-- The tokens in front of the first place where a key is still possible. -/
def settled (s : Scanner) : List Token :=
  let possible := (s.possible :: s.around).filterMap fun k =>
    if k.any (isStale s.cursor) then none else k.map (·.position)
  s.tokens.reverse.take (possible.foldl min s.tokens.length)

/-- What there is of the tokens when the next one cannot be read. -/
def broken (s : Scanner) (fault : DocumentFault) : List Token := s.settled ++ [.broken fault]

/-- All tokens to the end of the text, where all blocks end. -/
def run (fuel : Nat) (s : Scanner) : List Token :=
  match fuel with
  | 0 => s.broken .malformedYaml
  | fuel + 1 =>
    match s.approach with
    | .error fault => s.broken fault
    | .ok near =>
      match near.cursor.peek with
      | none =>
        match (near.unwind (-1)).dropKey with
        | .error fault => s.broken fault
        | .ok ended => ended.tokens.reverse
      | some c =>
        match near.token c with
        | .error fault => s.broken fault
        | .ok next => next.run fuel

end Scanner

/-- The tokens of a text. A byte order mark in front is skipped. -/
def Token.scan (cs : List Char) : List Token :=
  if !cs.all isAllowed then [.broken .malformedYaml]
  else
    let s := Scanner.start cs
    let s := if cs.head? = some '\ufeff' then { s with cursor := s.cursor.advance } else s
    s.run (cs.length + 1)

end NodeDataplane.Yaml
