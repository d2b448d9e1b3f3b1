import NodeDataplane.Document.Yaml.Cursor

/-!
# Directives, tags and names in a YAML text

A tag names the type of a node, in full between angle brackets or by a handle and the rest. What a
handle stands for may be told by a directive before the document; another directive tells the
version of the format. A node may be given a name, by which it is referred to later.
-/

namespace NodeDataplane.Yaml

/-- A tag as it is written: the rest behind a handle, or a whole tag. -/
structure TagName where
  handle : Option String
  suffix : String
  deriving DecidableEq, Repr

def coreTag (name : String) : String := "tag:yaml.org,2002:" ++ name

inductive Directive where
  /-- The version of the format, of which the major number counts. -/
  | version (major : Int)
  | handle (name meaning : String)
  /-- A directive that is not known, and has no effect. -/
  | other
  deriving DecidableEq, Repr

/-! ### Tags -/

def isTagChar (c : Char) : Bool :=
  c.isAlphanum || "-;/?:@&=+$,_.!~*'()[]%".toList.contains c

def readBytes (fuel : Nat) (c : Cursor) : Except DocumentFault (List UInt8 × Cursor) :=
  match fuel with
  | 0 => malformed
  | fuel + 1 =>
    match c.rest with
    | '%' :: high :: low :: _ =>
      match Text.natOfHex? [high, low] with
      | some byte => (readBytes fuel (c.skip 3)).map fun (more, c) => (UInt8.ofNat byte :: more, c)
      | none => malformed
    | '%' :: _ => malformed
    | _ => .ok ([], c)

/-- The characters of a tag, where bytes stand for the characters that they encode. -/
def readTagChars (fuel : Nat) (c : Cursor) : Except DocumentFault (List Char × Cursor) :=
  match fuel with
  | 0 => malformed
  | fuel + 1 =>
    let run := c.rest.takeWhile fun ch => isTagChar ch && ch != '%'
    let c := c.skip run.length
    if c.peek != some '%' then .ok (run, c)
    else do
      let (bytes, c) ← readBytes (c.rest.length + 1) c
      match String.fromUTF8? ⟨bytes.toArray⟩ with
      | none => malformed
      | some part =>
        let (more, c) ← readTagChars fuel c
        return (run ++ part.toList ++ more, c)

def readTagText (c : Cursor) : Except DocumentFault (String × Cursor) := do
  let (text, c) ← readTagChars (c.rest.length + 1) c
  if text.isEmpty then malformed else return (String.ofList text, c)

/-- A handle: a name between exclamation marks, or a single mark before a space. -/
def readHandle (c : Cursor) : Except DocumentFault (String × Cursor) :=
  if c.peek != some '!' then malformed
  else if c.peekAt 1 = some ' ' then .ok ("!", c.advance)
  else
    let name := c.advance.rest.takeWhile isNameChar
    let c := c.advance.skip name.length
    if c.peek = some '!' then .ok (String.ofList ('!' :: name ++ ['!']), c.advance) else malformed

/-- A tag from its exclamation mark on, up to what may stand behind it. -/
def readTagName (c : Cursor) : Except DocumentFault (TagName × Cursor) := do
  let next := c.peekAt 1
  if next = some '<' then
    let (suffix, c) ← readTagText (c.skip 2)
    if c.peek = some '>' then return (⟨none, suffix⟩, c.advance) else malformed
  else if isBlankOrEnd next then return (⟨none, "!"⟩, c.advance)
  else
    let word := c.advance.rest.takeWhile fun ch => !isSpaceOrEnd (some ch)
    let (handle, c) ← if word.contains '!' then readHandle c else .ok ("!", c.advance)
    let (suffix, c) ← readTagText c
    return (⟨some handle, suffix⟩, c)

/-- A tag, behind which a space or the end of the line stands. -/
def readTag (c : Cursor) : Except DocumentFault (TagName × Cursor) := do
  let (tag, c) ← readTagName c
  if isSpaceOrEnd c.peek then return (tag, c) else malformed

/-! ### Names -/

def endsName (next : Option Char) : Bool :=
  isBlankOrEnd next || next.any "?:,]\x7d%@`".toList.contains

def readName (c : Cursor) : Except DocumentFault (String × Cursor) :=
  let name := c.rest.takeWhile isNameChar
  let c := c.skip name.length
  if name.isEmpty || !endsName c.peek then malformed else .ok (String.ofList name, c)

/-! ### Directives -/

def readVersionNumber (c : Cursor) : Except DocumentFault (Int × Cursor) := do
  let digits := c.rest.takeWhile Char.isDigit
  if digits.isEmpty then malformed
  else return (← integerOfDigits digits, c.skip digits.length)

/-- A number and a dot and a number, of which the first one counts. -/
def readVersion (c : Cursor) : Except DocumentFault (Directive × Cursor) := do
  let (major, c) ← readVersionNumber c
  if c.peek != some '.' then malformed
  else
    let (_, c) ← readVersionNumber c.advance
    return (.version major, c)

def readHandleMeaning (c : Cursor) : Except DocumentFault (Directive × Cursor) := do
  let (name, c) ← readHandle c
  if c.peek != some ' ' then malformed
  else
    let (meaning, c) ← readTagText (c.skipWhile (· == ' '))
    return (.handle name meaning, c)

/-- A directive behind its percent sign, to the end of the line. -/
def readDirective (c : Cursor) : Except DocumentFault (Directive × Cursor) := do
  let name := String.ofList (c.rest.takeWhile isNameChar)
  let c := c.skipWhile isNameChar
  if name.isEmpty || !isSpaceOrEnd c.peek then malformed
  else
    let content := c.skipWhile (· == ' ')
    let (directive, c) ←
      if name = "YAML" then readVersion content
      else if name = "TAG" then readHandleMeaning content
      else .ok (.other, c.skipWhile (!isBreak ·))
    if isSpaceOrEnd c.peek then return (directive, ← c.skipLineEnd) else malformed

end NodeDataplane.Yaml
