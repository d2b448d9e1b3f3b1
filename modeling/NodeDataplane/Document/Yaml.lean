import NodeDataplane.Document.Loader
import NodeDataplane.Document.Yaml.Knots
import NodeDataplane.Document.Yaml.Resolution

/-!
# YAML texts

`Yaml.parse` reads a whole text as one document. A text without a document is nothing.

## Limits

- A scalar type for a map that has a default value under `=` is malformed here.
- A map is not merged into a part of itself, and is no pair inside of itself: both are malformed.
- A node that is referred to counts as a copy: what is merged into it in one place is not in
  another.
- There is room for 490 lists and maps inside each other, however much of the stack is in use.
-/

namespace NodeDataplane

namespace Yaml

mutual

/-- Whether there are numbers in a tree, which there are inside of nodes with names. -/
def Tree.isNumbered : Tree → Bool
  | .sequence _ items => Tree.anyNumbered items
  | .mapping _ entries => Tree.anyNumberedEntry entries
  | .numbered _ _ => true
  | _ => false

def Tree.anyNumbered : List Tree → Bool
  | [] => false
  | item :: rest => Tree.isNumbered item || Tree.anyNumbered rest

def Tree.anyNumberedEntry : List (Tree × Tree) → Bool
  | [] => false
  | (key, value) :: rest =>
    Tree.isNumbered key || Tree.isNumbered value || Tree.anyNumberedEntry rest

end

def Tree.toDocument (tree : Tree) : Except DocumentFault Document :=
  match documentOf 0 tree.merged with
  | .error deep => .error deep.fault
  | .ok d => .ok (if tree.isNumbered then d.settled else d)

def parse (s : String) : Except DocumentFault Document := do
  match ← Tree.ofTokens (Token.scan s.toList) with
  | none => return .null
  | some tree => tree.toDocument

end Yaml

/-- The loader that runs. -/
instance defaultLoader : Loader where
  levels := 990
  yaml := Yaml.parse

end NodeDataplane
