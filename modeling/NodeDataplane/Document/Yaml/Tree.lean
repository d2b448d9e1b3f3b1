import NodeDataplane.Document.Yaml.Token

/-!
# The tree of a YAML text

The tokens of a text form one document: a tree of scalars, lists and maps. What is left out where a
value may stand is an empty plain scalar. A node that is referred to stands in every place where it
is referred to. A list or a map may be referred to inside itself; so in a node with a name, all
lists and maps are numbered, and such a reference is one to a number.

Every list and map that is being read takes room. There is room for a limited number of them inside
each other, and at one more the reading ends.

The tokens are read from the first to the last, and what is wrong with them is told at the first
token that shows it; a token that tells of a text that cannot be read ends the reading when it is
met. Every reader takes at least one token, or is called by one that has just taken one, so three
times the number of tokens bounds the nesting of calls.
-/

namespace NodeDataplane.Yaml

/-- How a scalar is written: by its form alone, as a text, or with a tag that tells its type. -/
inductive ScalarForm where
  | plain
  | quoted
  | tagged (tag : String)
  deriving DecidableEq, Repr

/-- A document before its scalars are given a meaning. Lists and maps may have tags. -/
inductive Tree where
  | scalar (form : ScalarForm) (text : String)
  | sequence (tag : Option String) (items : List Tree)
  | mapping (tag : Option String) (entries : List (Tree × Tree))
  /-- A map into which something is to be merged that is no map. -/
  | unmergeable (tag : Option String)
  /-- A list or a map with its number. -/
  | numbered (number : Nat) (tree : Tree)
  /-- Inside a list or a map with a number, this list or map again. -/
  | again (number : Nat)
  deriving Repr

structure Reading where
  tokens : List Token
  /-- The nodes that have names, the last one first. -/
  anchors : List (String × Tree)
  /-- The names of the nodes that are being read, the innermost first, with their numbers. -/
  around : List (String × Nat)
  /-- What handles stand for, as far as the document tells it. -/
  handles : List (String × String)
  /-- How many lists and maps may still be read inside each other. -/
  room : Nat

/-- How many lists and maps there is room for inside each other. -/
def maxNesting : Nat := 490

def Reading.start (tokens : List Token) : Reading := ⟨tokens, [], [], [], maxNesting⟩

/-- A number that the next node has for its own. -/
def Reading.number (r : Reading) : Nat := r.tokens.length

abbrev Reader (α : Type) : Type := StateT Reading (Except DocumentFault) α

namespace Reader

def refuse {α : Type} : Reader α := throw .malformedYaml

def peek : Reader (Option Token) := do
  match (← get).tokens.head? with
  | some (.broken fault) => throw fault
  | next => return next

def skip : Reader Unit := modify fun r => { r with tokens := r.tokens.tail }

/-- Whether the next token is one of some; the end of the text is none of them. -/
def nextIn (among : List Token) : Reader Bool := return (← peek).any among.contains

/-- Read a list or a map, which takes room until it is read to its end. -/
def nested (content : Reader Tree) : Reader Tree := do
  let r ← get
  if r.room = 0 then throw (.tooDeep "")
  else
    set { r with room := r.room - 1 }
    let tree ← content
    modify fun r => { r with room := r.room + 1 }
    return if r.around.isEmpty then tree else .numbered r.number tree

end Reader

/-! ### Names and tags -/

structure Properties where
  anchor : Option String
  tag : Option String

namespace Properties

def commonHandles : List (String × String) := [("!", "!"), ("!!", coreTag "")]

def fullTag (tag : TagName) : Reader String := do
  match tag.handle with
  | none => return tag.suffix
  | some handle =>
    match ((← get).handles ++ commonHandles).lookup handle with
    | some start => return start ++ tag.suffix
    | none => Reader.refuse

def readTag : Reader (Option TagName) := do
  match ← Reader.peek with
  | some (.tag tag) =>
    Reader.skip
    return some tag
  | _ => return none

def readAnchor : Reader (Option String) := do
  match ← Reader.peek with
  | some (.anchor name) =>
    Reader.skip
    return some name
  | _ => return none

/-- What stands in front of a node: a name and a tag, in any order. -/
def read : Reader Properties := do
  match ← readAnchor with
  | some name => return ⟨some name, ← (← readTag).mapM fullTag⟩
  | none =>
    match ← readTag with
    | some tag => return ⟨← readAnchor, some (← fullTag tag)⟩
    | none => return ⟨none, none⟩

def isEmpty (properties : Properties) : Bool := properties.anchor.isNone && properties.tag.isNone

/-- The form of a scalar. A single exclamation mark says that it counts by its form alone. -/
def scalarForm (properties : Properties) (plain : Bool) : ScalarForm :=
  match properties.tag with
  | none => if plain then .plain else .quoted
  | some tag => if tag = "!" then .plain else .tagged tag

def collectionTag (properties : Properties) : Option String := properties.tag.filter (· ≠ "!")

/-- Read the content of a node, which has its name from then on. Names are not given twice. -/
def name (properties : Properties) (content : Reader Tree) : Reader Tree := do
  match properties.anchor with
  | none => content
  | some name =>
    let r ← get
    if (r.anchors.lookup name).isSome || (r.around.lookup name).isSome then Reader.refuse
    else
      set { r with around := (name, r.number) :: r.around }
      let tree ← content
      modify fun r => { r with
        around := r.around.tail, anchors := (name, tree) :: r.anchors }
      return tree

end Properties

namespace Tree

open Reader (peek skip nextIn nested refuse)

/-- What stands for a value that is left out. -/
def missing : Tree := scalar .plain ""

def named (name : String) : Reader Tree := do
  let r ← get
  match r.around.lookup name, r.anchors.lookup name with
  | some number, _ => return again number
  | none, some tree => return tree
  | none, none => refuse

/-- Whether a list or a map between brackets ends here, which leaves its closing token behind. A
comma stands between its members, and may stand behind the last one. -/
def atFlowEnd (first : Bool) (closing : Token) : Reader Bool := do
  if !first && !(← nextIn [closing]) then
    if ← nextIn [.flowEntry] then skip else refuse
  let ended ← nextIn [closing]
  if ended then skip
  return ended

/-! ### Nodes -/

mutual

/-- A value. Lists and maps in blocks are taken only where `block` says so, and a list without
indentation of its own only where `indentless` does. -/
def readNode (fuel : Nat) (block indentless : Bool) : Reader Tree :=
  match fuel with
  | 0 => refuse
  | fuel + 1 => do
    match ← peek with
    | some (.reference name) =>
      skip
      named name
    | _ =>
      let properties ← Properties.read
      let tag := properties.collectionTag
      match ← peek with
      | some (.scalar plain text) =>
        properties.name do
          skip
          return scalar (properties.scalarForm plain) text
      | some .flowSequenceStart =>
        properties.name <| nested do
          skip
          return sequence tag (← readFlowItems fuel true)
      | some .flowMappingStart =>
        properties.name <| nested do
          skip
          return mapping tag (← readFlowEntries fuel true)
      | next =>
        if block && next == some .blockSequenceStart then
          properties.name <| nested do
            skip
            return sequence tag (← readBlockItems fuel)
        else if block && next == some .blockMappingStart then
          properties.name <| nested do
            skip
            return mapping tag (← readBlockEntries fuel)
        else if indentless && next == some .blockEntry then
          properties.name <| nested do
            return sequence tag (← readIndentlessItems fuel)
        else if properties.isEmpty then refuse
        else properties.name (return scalar (properties.scalarForm true) "")

def readBlockItems (fuel : Nat) : Reader (List Tree) :=
  match fuel with
  | 0 => refuse
  | fuel + 1 => do
    match ← peek with
    | some .blockEnd =>
      skip
      return []
    | some .blockEntry =>
      skip
      let item ←
        if ← nextIn [.blockEntry, .blockEnd] then pure missing else readNode fuel true false
      return item :: (← readBlockItems fuel)
    | _ => refuse

/-- The items of a list without indentation of its own, as long as there are any. -/
def readIndentlessItems (fuel : Nat) : Reader (List Tree) :=
  match fuel with
  | 0 => refuse
  | fuel + 1 => do
    match ← peek with
    | some .blockEntry =>
      skip
      let item ←
        if ← nextIn [.blockEntry, .key, .value, .blockEnd] then pure missing
        else readNode fuel true false
      return item :: (← readIndentlessItems fuel)
    | _ => return []

def readBlockEntries (fuel : Nat) : Reader (List (Tree × Tree)) :=
  match fuel with
  | 0 => refuse
  | fuel + 1 => do
    match ← peek with
    | some .blockEnd =>
      skip
      return []
    | some .key =>
      skip
      let key ← readBlockPart fuel
      let value ← readBlockValue fuel
      return (key, value) :: (← readBlockEntries fuel)
    | _ => refuse

def readBlockPart (fuel : Nat) : Reader Tree :=
  match fuel with
  | 0 => refuse
  | fuel + 1 => do
    if ← nextIn [.key, .value, .blockEnd] then return missing else readNode fuel true true

def readBlockValue (fuel : Nat) : Reader Tree :=
  match fuel with
  | 0 => refuse
  | fuel + 1 => do
    if ← nextIn [.value] then
      skip
      readBlockPart fuel
    else return missing

/-- The items of a list between brackets, to the closing one. A key makes a map of one entry. -/
def readFlowItems (fuel : Nat) (first : Bool) : Reader (List Tree) :=
  match fuel with
  | 0 => refuse
  | fuel + 1 => do
    if ← atFlowEnd first .flowSequenceEnd then return []
    else if ← nextIn [.key] then
      let item ← nested do
        skip
        let key ← readFlowPart fuel [.value, .flowEntry, .flowSequenceEnd]
        let value ← readFlowValue fuel .flowSequenceEnd
        return mapping none [(key, value)]
      return item :: (← readFlowItems fuel false)
    else
      let item ← readNode fuel false false
      return item :: (← readFlowItems fuel false)

def readFlowEntries (fuel : Nat) (first : Bool) : Reader (List (Tree × Tree)) :=
  match fuel with
  | 0 => refuse
  | fuel + 1 => do
    if ← atFlowEnd first .flowMappingEnd then return []
    else if ← nextIn [.key] then
      skip
      let key ← readFlowPart fuel [.value, .flowEntry, .flowMappingEnd]
      let value ← readFlowValue fuel .flowMappingEnd
      return (key, value) :: (← readFlowEntries fuel false)
    else
      let key ← readNode fuel false false
      return (key, missing) :: (← readFlowEntries fuel false)

/-- A key or a value between brackets, left out if one of some tokens follows. -/
def readFlowPart (fuel : Nat) (ends : List Token) : Reader Tree :=
  match fuel with
  | 0 => refuse
  | fuel + 1 => do
    if ← nextIn ends then return missing else readNode fuel false false

def readFlowValue (fuel : Nat) (closing : Token) : Reader Tree :=
  match fuel with
  | 0 => refuse
  | fuel + 1 => do
    if ← nextIn [.value] then
      skip
      readFlowPart fuel [.flowEntry, closing]
    else return missing

end

/-! ### Documents -/

/-- What the directives in front of a document tell of handles, and the tokens behind them. At most
one tells the version, whose major number is one, and no handle is told twice. -/
def directives (versionTold : Bool) (handles : List (String × String)) :
    List Token → Except DocumentFault (List (String × String) × List Token)
  | .directive (.version major) :: ts =>
    if versionTold || major != 1 then malformed else directives true handles ts
  | .directive (.handle name meaning) :: ts =>
    if (handles.lookup name).isSome then malformed
    else directives versionTold ((name, meaning) :: handles) ts
  | .directive .other :: ts => directives versionTold handles ts
  | ts => .ok (handles, ts)

def readDirectives : Reader Unit := do
  let r ← get
  let (handles, tokens) ← directives false [] r.tokens
  set { r with handles, tokens }

def readRoot : Reader Tree := do
  readNode (3 * (← get).tokens.length + 3) true false

/-- A document that starts with a mark, which directives may stand before. -/
def readMarked : Reader Tree := do
  readDirectives
  if ← nextIn [.documentStart] then
    skip
    match ← peek with
    | none => return missing
    | some (.directive _) => return missing
    | some .documentStart => return missing
    | some .documentEnd => return missing
    | _ => readRoot
  else refuse

def readFirst : Reader (Option Tree) := do
  match ← peek with
  | none => return none
  | some (.directive _) => return some (← readMarked)
  | some .documentStart => return some (← readMarked)
  | _ => return some (← readRoot)

/-- What stands behind the first document: marks of its end, and nothing else. -/
def readEnd : Reader Unit := do
  modify fun r => { r with tokens := r.tokens.dropWhile (· == .documentEnd) }
  if (← peek).isSome then
    readDirectives
    let _ ← peek
    refuse

def ofTokens (ts : List Token) : Except DocumentFault (Option Tree) := do
  let (tree, _) ← (do
    let tree ← readFirst
    readEnd
    return tree : Reader (Option Tree)).run (.start ts)
  return tree

end Tree

end NodeDataplane.Yaml
