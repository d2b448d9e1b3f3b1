import NodeDataplane.Text.Fields

/-!
# Paths

A path is kept in a normal form: single slashes, no part that is empty or a dot. Two slashes in
front are kept as they are, three or more count as one. Parts that lead upwards stay.
-/

namespace NodeDataplane

open NodeDataplane.Text (fields)

structure Path where
  /-- The slashes in front: none for a path that starts where the program runs. -/
  root : String
  parts : List String
  deriving DecidableEq, Repr

namespace Path

def ofText (s : String) : Path where
  root :=
    match (s.toList.takeWhile (· == '/')).length with
    | 0 => ""
    | 2 => "//"
    | _ => "/"
  parts := ((fields '/' s.toList).map String.ofList).filter fun part => part ≠ "" && part ≠ "."

/-- The text of a path; a dot for the empty one. -/
def text (p : Path) : String :=
  if p.root.isEmpty && p.parts.isEmpty then "." else p.root ++ "/".intercalate p.parts

def name (p : Path) : String := p.parts.getLast?.getD ""

/-- What stands from the last dot of the name on, unless the dot is its first or last character. -/
def suffix (p : Path) : String :=
  let behind := (p.name.toList.reverse.takeWhile (· != '.')).reverse
  let before := p.name.length - behind.length
  if before ≤ 1 || behind.isEmpty then "" else String.ofList ('.' :: behind)

end Path

end NodeDataplane
