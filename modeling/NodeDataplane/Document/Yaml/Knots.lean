import NodeDataplane.Document.Basic

/-!
# Tying knots

In a document that is read from a tree, every list and map with a number is a knot of its own. When
these are tied, those that do not hold themselves are put in place of what leads to them. Of the
others, each is made a part of the knot of all that it leads to, with which it holds itself.
-/

namespace NodeDataplane.Document

mutual

/-- The parts of all knots in a document, with those that are inside of others. -/
def gathered : Document → List (Nat × Document)
  | list items => gatheredItems items
  | pair first second => gathered first ++ gathered second
  | map entries => gatheredEntries entries
  | knot parts _ => gatheredParts parts
  | _ => []

def gatheredItems : List Document → List (Nat × Document)
  | [] => []
  | item :: rest => gathered item ++ gatheredItems rest

def gatheredEntries : List (Document × Document) → List (Nat × Document)
  | [] => []
  | (_, value) :: rest => gathered value ++ gatheredEntries rest

def gatheredParts : List (Nat × Document) → List (Nat × Document)
  | [] => []
  | (number, part) :: rest => (number, part) :: gathered part ++ gatheredParts rest

end

mutual

/-- The numbers of the knots and strands that are met first in a document. -/
def leads : Document → List Nat
  | list items => leadsOfItems items
  | pair first second => leads first ++ leads second
  | map entries => leadsOfEntries entries
  | knot _ number => [number]
  | strand number => [number]
  | _ => []

def leadsOfItems : List Document → List Nat
  | [] => []
  | item :: rest => leads item ++ leadsOfItems rest

def leadsOfEntries : List (Document × Document) → List Nat
  | [] => []
  | (_, value) :: rest => leads value ++ leadsOfEntries rest

end

/-- The numbers of the parts that a part leads to at once. -/
def next (parts : List (Nat × Document)) (number : Nat) : List Nat :=
  ((parts.lookup number).map leads).getD []

/-- The numbers of the parts that some lead to in a number of steps, and of these themselves. -/
def reached (parts : List (Nat × Document)) (steps : Nat) (numbers : List Nat) : List Nat :=
  match steps with
  | 0 => numbers
  | steps + 1 => reached parts steps (numbers ++ numbers.flatMap (next parts)).eraseDups

def holdsItself (parts : List (Nat × Document)) (number : Nat) : Bool :=
  (reached parts parts.length (next parts number)).contains number

/-- What stands in place of a part: it itself if it does not hold itself. Such parts are nested no
deeper than there are parts. -/
def untangled (parts : List (Nat × Document)) (fuel number : Nat) : Document :=
  match fuel with
  | 0 => strand number
  | fuel + 1 =>
    if holdsItself parts number then strand number
    else tied (untangled parts fuel) ((parts.lookup number).getD null)

/-- The knot of a part and of all parts that it leads to. -/
def knotOf (parts : List (Nat × Document)) (number : Nat) : Document :=
  let inside := reached parts parts.length [number]
  knot (parts.filter fun (n, _) => inside.contains n) number

/-- A document in which knots are tied, where each list and map that has a number was one. -/
def settled (d : Document) : Document :=
  let parts := gathered d
  let single := tied (untangled parts (parts.length + 1))
  let knotted := (parts.filter fun (n, _) => holdsItself parts n).map fun (n, d) => (n, single d)
  tied (knotOf knotted) (single d)

end NodeDataplane.Document
