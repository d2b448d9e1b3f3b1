import NodeDataplane.Text.Blank
import NodeDataplane.Text.Fields
import NodeDataplane.Text.Lines

/-!
# INI files

A file of assignments in sections. An assignment runs from its key to the next line that starts
another one: lines that start with a blank continue its value, an empty line ends it. A value loses
one pair of equal quotes around it. Comments take whole lines.
-/

namespace NodeDataplane.Ini

open NodeDataplane.Text

structure Assignment where
  area : String
  key : String
  value : String
  deriving DecidableEq, Repr

/-- What has been read: the section, the assignment that may go on, and those that are complete. -/
structure Reader where
  area : String
  pending : Option Assignment
  done : List Assignment
  deriving DecidableEq, Repr

def Reader.flush (r : Reader) : Reader :=
  { r with pending := none, done := r.done ++ r.pending.toList }

def unquoted (cs : List Char) : List Char :=
  match cs with
  | quote :: rest =>
    if (quote == '"' || quote == '\'') && cs.getLast? == some quote then rest.dropLast else cs
  | [] => []

/-- The key and the value of a line: what stands before and behind the first `=` or `:`. -/
def splitAssignment (cs : List Char) : String × String :=
  let isSign (c : Char) : Bool := c == '=' || c == ':'
  let key := cs.takeWhile (!isSign ·)
  let value := (cs.dropWhile (!isSign ·)).drop 1
  (String.ofList (dropAroundWhile isBlank key),
    String.ofList (unquoted (dropAroundWhile isBlank value)))

def Reader.begin (r : Reader) (cs : List Char) : Reader :=
  match cs with
  | '[' :: rest => { r with area := String.ofList rest.dropLast }
  | '#' :: _ => r
  | ';' :: _ => r
  | cs =>
    let (key, value) := splitAssignment cs
    { r with pending := some ⟨r.area, key, value⟩ }

def Reader.line (r : Reader) (line : List Char) : Reader :=
  match dropEndWhile isBlank line with
  | [] => r.flush
  | c :: rest =>
    if c == ' ' || c == '\t' then
      let more := String.ofList (rest.dropWhile isBlank)
      { r with pending := r.pending.map fun a => { a with value := a.value ++ "\n" ++ more } }
    else r.flush.begin (c :: rest)

def parse (s : String) : List Assignment :=
  ((fields '\n' (unifyLines s.toList)).foldl Reader.line ⟨"", none, []⟩).flush.done

/-- A section's name as sections are found by: in lower case, but for the one of defaults. -/
def areaKey (name : String) : String :=
  if name = "DEFAULT" then name else String.ofList (name.toList.map Char.toLower)

/-- The last value of a key in a section. -/
def lookup? (area key : String) (assignments : List Assignment) : Option String :=
  (assignments.reverse.find? fun a => areaKey a.area == areaKey area && a.key == key).map (·.value)

end NodeDataplane.Ini
