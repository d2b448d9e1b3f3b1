import NodeDataplane.Document.Yaml.Cursor
import NodeDataplane.Text.Digit

/-!
# Scalars in a YAML text

A plain scalar runs on to the next character that means something else; a quoted one runs on to its
quote. Either may go over several lines, which fold: a single line break is a space, and of several
breaks the first is dropped.
-/

namespace NodeDataplane.Yaml

/-- The text between two lines of a scalar, from the first break on. -/
def folded (first : Char) (more : List Char) : List Char :=
  if first != '\n' then first :: more
  else if more.isEmpty then [' ']
  else more

/-! ### Plain scalars -/

def isFlowMark (c : Char) : Bool := c == ',' || c == '[' || c == ']' || c == '\x7b' || c == '\x7d'

/-- Whether a colon is followed by something that makes it end a key. -/
def endsKey (flow : Bool) (next : Option Char) : Bool :=
  isBlankOrEnd next || (flow && next.any isFlowMark)

/-- The characters of a plain scalar up to the next blank or mark. -/
def plainRun (flow : Bool) : List Char → List Char
  | [] => []
  | c :: rest =>
    if isBlankOrEnd (some c) || (c == ':' && endsKey flow rest.head?) ||
      (flow && (c == '?' || isFlowMark c)) then []
    else c :: plainRun flow rest

structure Gap where
  /-- The text that the gap folds into; none if there is no gap or the scalar ends here. -/
  text : List Char
  cursor : Cursor
  broken : Bool

/-- The breaks behind the first one, with the spaces between them; ends where documents are
separated, which is told by the last result. -/
def moreBreaks (fuel : Nat) (c : Cursor) : List Char × Cursor × Bool :=
  match fuel with
  | 0 => ([], c, false)
  | fuel + 1 =>
    if c.atAnySeparator then ([], c, true)
    else
      let c := c.skipWhile (· == ' ')
      match c.takeBreak? with
      | none => ([], c, false)
      | some (brk, c) =>
        let (more, c, separated) := moreBreaks fuel c
        (brk :: more, c, separated)

def plainGap (c : Cursor) : Gap :=
  let spaces := c.rest.takeWhile (· == ' ')
  let c := c.skipWhile (· == ' ')
  match c.takeBreak? with
  | none => ⟨spaces, c, false⟩
  | some (brk, c) =>
    let (more, c, separated) := moreBreaks (c.rest.length + 1) c
    ⟨if separated then [] else folded brk more, c, true⟩

/-- A plain scalar between brackets or, outside of them, one whose lines start at `indent` at
least. Also tells whether it ends behind a line break. -/
def readPlain (flow : Bool) (indent : Int) (fuel : Nat) (before : List Char) (broken : Bool)
    (c : Cursor) : List Char × Cursor × Bool :=
  match fuel with
  | 0 => ([], c, broken)
  | fuel + 1 =>
    let run := if c.peek = some '#' then [] else plainRun flow c.rest
    if run.isEmpty then ([], c, broken)
    else
      let gap := plainGap (c.skip run.length)
      if gap.text.isEmpty || gap.cursor.peek = some '#' ||
        (!flow && gap.cursor.column < indent) then
        (before ++ run, gap.cursor, gap.broken)
      else
        let (more, c, broken) := readPlain flow indent fuel gap.text gap.broken gap.cursor
        (before ++ run ++ more, c, broken)

/-! ### Quoted scalars -/

def escaped? : Char → Option Char
  | '0' => some '\x00'
  | 'a' => some '\x07'
  | 'b' => some '\x08'
  | 't' => some '\t'
  | '\t' => some '\t'
  | 'n' => some '\n'
  | 'v' => some '\x0b'
  | 'f' => some '\x0c'
  | 'r' => some '\r'
  | 'e' => some '\x1b'
  | ' ' => some ' '
  | '"' => some '"'
  | '\\' => some '\\'
  | '/' => some '/'
  | 'N' => some '\x85'
  | '_' => some '\xa0'
  | 'L' => some '\u2028'
  | 'P' => some '\u2029'
  | _ => none

/-- The number of digits behind a letter that starts a numeric escape. -/
def escapeWidth? : Char → Option Nat
  | 'x' => some 2
  | 'u' => some 4
  | 'U' => some 8
  | _ => none

/-- The character with a number. A private one stands for half a pair of units. -/
def charOfCode (n : Nat) : Except DocumentFault Char :=
  if 0x80000000 ≤ n then .error .noCharacterCode
  else if 0x110000 ≤ n then .error .noCharacter
  else if 0xd800 ≤ n ∧ n < 0xe000 then .ok (Char.ofNat (0x100000 + n))
  else .ok (Char.ofNat n)

/-- The breaks between two lines of a quoted scalar, with the blanks around them. Documents may not
be separated inside. -/
def quotedBreaks (fuel : Nat) (c : Cursor) : Except DocumentFault (List Char × Cursor) :=
  match fuel with
  | 0 => malformed
  | fuel + 1 =>
    if c.atAnySeparator then malformed
    else
      let c := c.skipWhile fun ch => ch == ' ' || ch == '\t'
      match c.takeBreak? with
      | none => .ok ([], c)
      | some (brk, c) => (quotedBreaks fuel c).map fun (more, c) => (brk :: more, c)

def quotedGap (c : Cursor) : Except DocumentFault (List Char × Cursor) :=
  let isSpace (ch : Char) : Bool := ch == ' ' || ch == '\t'
  let spaces := c.rest.takeWhile isSpace
  let c := c.skipWhile isSpace
  match c.takeBreak? with
  | none => if c.rest.isEmpty then malformed else .ok (spaces, c)
  | some (brk, c) =>
    (quotedBreaks (c.rest.length + 1) c).map fun (more, c) => (folded brk more, c)

/-- What a backslash and the characters behind it stand for; the cursor is behind the backslash. -/
def readEscape (c : Cursor) : Except DocumentFault (List Char × Cursor) :=
  match c.peek with
  | none => malformed
  | some name =>
    match escaped? name, escapeWidth? name with
    | some ch, _ => .ok ([ch], c.advance)
    | none, some width =>
      let digits := c.advance.rest.take width
      match if digits.length = width then Text.natOfHex? digits else none with
      | none => malformed
      | some n => (charOfCode n).map fun ch => ([ch], c.advance.skip width)
    | none, none =>
      match c.takeBreak? with
      | some (_, c) => quotedBreaks (c.rest.length + 1) c
      | none => malformed

/-- A quoted scalar behind its opening quote. Between single quotes, a doubled quote stands for one;
between double quotes there are escapes. -/
def readQuoted (double : Bool) (fuel : Nat) (c : Cursor) :
    Except DocumentFault (List Char × Cursor) :=
  match fuel with
  | 0 => malformed
  | fuel + 1 =>
    let also (part : List Char) (c : Cursor) : Except DocumentFault (List Char × Cursor) :=
      (readQuoted double fuel c).map fun (more, c) => (part ++ more, c)
    match c.peek with
    | none => malformed
    | some '\'' =>
      if double then also ['\''] c.advance
      else if c.peekAt 1 = some '\'' then also ['\''] (c.skip 2)
      else .ok ([], c.advance)
    | some '"' => if double then .ok ([], c.advance) else also ['"'] c.advance
    | some '\\' =>
      if double then
        match readEscape c.advance with
        | .error fault => .error fault
        | .ok (part, c) => also part c
      else also ['\\'] c.advance
    | some ch =>
      if isBlankOrEnd (some ch) then
        match quotedGap c with
        | .error fault => .error fault
        | .ok (part, c) => also part c
      else also [ch] c.advance

end NodeDataplane.Yaml
