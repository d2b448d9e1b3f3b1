import NodeDataplane.Document.Yaml.Cursor

/-!
# Scalars that are the lines of a block

Behind a bar or a greater-than sign, a scalar is the lines that follow, without the indentation that
they share. A bar keeps their breaks; a greater-than sign folds them as in other scalars, except
around lines that start with a blank. Of the breaks behind the last line one is kept, or none, or
all of them.
-/

namespace NodeDataplane.Yaml

inductive Chomping where
  | clip
  | strip
  | keep
  deriving DecidableEq, Repr

/-- What is told behind the mark of a block: the breaks that are kept, and the indentation within
the block around, if it is not read off the lines. -/
structure BlockHeader where
  chomping : Chomping
  indentation : Option Nat
  deriving DecidableEq, Repr

/-- What a sign says of the breaks at the end, and the place behind it. -/
def takeChomping (c : Cursor) : Chomping × Cursor :=
  match c.peek with
  | some '-' => (.strip, c.advance)
  | some '+' => (.keep, c.advance)
  | _ => (.clip, c)

def takeIndentation (c : Cursor) : Option Nat × Cursor :=
  match c.peek with
  | some d => if d.isDigit then (some (d.toNat - '0'.toNat), c.advance) else (none, c)
  | none => (none, c)

/-- The header of a block to the end of its line: a sign and a digit other than zero, in any order,
either of which may be left out. -/
def readBlockHeader (c : Cursor) : Except DocumentFault (BlockHeader × Cursor) :=
  let (before, c) := takeChomping c
  let (indentation, c) := takeIndentation c
  let (chomping, c) := if before = .clip then takeChomping c else (before, c)
  if indentation = some 0 || !isSpaceOrEnd c.peek then malformed
  else c.skipLineEnd.map fun c => (⟨chomping, indentation⟩, c)

/-- The breaks at a place, each behind no more spaces than fill the columns before `indent`. -/
def blockBreaks (indent fuel : Nat) (c : Cursor) : List Char × Cursor :=
  match fuel with
  | 0 => ([], c)
  | fuel + 1 =>
    let c := c.skip ((c.rest.take (indent - c.column)).takeWhile (· == ' ')).length
    match c.takeBreak? with
    | none => ([], c)
    | some (brk, c) =>
      let (more, c) := blockBreaks indent fuel c
      (brk :: more, c)

/-- The breaks before the first line, and the greatest column that spaces among them lead to. -/
def firstBreaks (fuel : Nat) (c : Cursor) : List Char × Nat × Cursor :=
  match fuel with
  | 0 => ([], 0, c)
  | fuel + 1 =>
    let spaced := c.skipWhile (· == ' ')
    let reached := if c.peek = some ' ' then spaced.column else 0
    match spaced.takeBreak? with
    | none => ([], reached, spaced)
    | some (brk, c) =>
      let (more, further, c) := firstBreaks fuel c
      (brk :: more, max reached further, c)

def Cursor.atLineOf (c : Cursor) (indent : Nat) : Bool := c.column == indent && !c.rest.isEmpty

/-- Whether the line that starts here is no text to be folded with its neighbours. -/
def Cursor.atBlank (c : Cursor) : Bool := c.peek.any fun ch => ch == ' ' || ch == '\t'

/-- What is read of a block: the lines, and the breaks behind the last one. -/
structure BlockLines where
  text : List Char
  /-- The break that ends the last line, unless the text ends there. -/
  last : List Char
  empty : List Char
  cursor : Cursor

/-- The lines of a block from a place on, where `empty` are the breaks of the lines before it. -/
def blockLines (folding : Bool) (indent fuel : Nat) (empty : List Char) (c : Cursor) : BlockLines :=
  match fuel with
  | 0 => ⟨[], [], empty, c⟩
  | fuel + 1 =>
    if !c.atLineOf indent then ⟨[], [], empty, c⟩
    else
      let line := c.rest.takeWhile (!isBreak ·)
      let behind := c.skip line.length
      let (last, next) := match behind.takeBreak? with
        | some (brk, next) => ([brk], next)
        | none => ([], behind)
      let (breaks, next) := blockBreaks indent (next.rest.length + 1) next
      if next.atLineOf indent then
        let folds := folding && last == ['\n'] && !c.atBlank && !next.atBlank
        let joint := if !folds then last else if breaks.isEmpty then [' '] else []
        let more := blockLines folding indent fuel breaks next
        { more with text := empty ++ line ++ joint ++ more.text }
      else ⟨empty ++ line, last, breaks, next⟩

/-- A scalar in a block behind its mark; its lines start at column `least` at least. -/
def readBlock (folding : Bool) (least : Nat) (c : Cursor) :
    Except DocumentFault (List Char × Cursor) := do
  let (header, c) ← readBlockHeader c
  let fuel := c.rest.length + 1
  let (indent, empty, c) := match header.indentation with
    | some more =>
      let indent := least + more - 1
      (indent, blockBreaks indent fuel c)
    | none =>
      let (empty, reached, c) := firstBreaks fuel c
      (max least reached, empty, c)
  let lines := blockLines folding indent fuel empty c
  let ending := match header.chomping with
    | .strip => []
    | .clip => lines.last
    | .keep => lines.last ++ lines.empty
  return (lines.text ++ ending, lines.cursor)

end NodeDataplane.Yaml
