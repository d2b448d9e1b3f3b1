import NodeDataplane.Document.Yaml.Tree

/-!
# Merging of maps

An entry of a map may say that another map is merged into it, or a list of maps. The entries that
are merged stand in front of those of the map itself, which thereby replace them where they have the
same keys; of several maps in a list, an earlier one replaces entries of a later one. A map that
only stands for a pair is no map to be merged into.

## Limits

A map is not merged into a part of itself: there, it counts as none.
-/

namespace NodeDataplane.Yaml.Tree

/-- Whether a key says that its value is merged into the map. -/
def isMergeKey : Tree → Bool
  | scalar .plain text => text == "<<"
  | scalar (.tagged tag) _ => tag == coreTag "merge"
  | _ => false

def entries? : Tree → Option (List (Tree × Tree))
  | mapping _ entries => some entries
  | numbered _ tree => tree.entries?
  | _ => none

/-- The entries that a value brings into a map that it is merged into. -/
def brought? : Tree → Option (List (Tree × Tree))
  | sequence _ items => (items.mapM entries?).map fun maps => maps.reverse.flatten
  | numbered _ tree => tree.brought?
  | tree => tree.entries?

/-- A map with what is merged into it; its values are merged already. -/
def mergedMapping (tag : Option String) (entries : List (Tree × Tree)) : Tree :=
  let (merges, own) := entries.partition (isMergeKey ·.1)
  match merges.mapM (brought? ·.2) with
  | some brought => mapping tag (brought.flatten ++ own)
  | none => unmergeable tag

/-- Whether a tag says that the items of a list are maps of one entry, each of which is a pair. -/
def isPairsTag (tag : Option String) : Bool :=
  tag == some (coreTag "omap") || tag == some (coreTag "pairs")

@[simp] theorem isPairsTag_none : isPairsTag none = false := rfl

mutual

def merged : Tree → Tree
  | scalar form text => scalar form text
  | sequence tag items =>
    sequence tag (if isPairsTag tag then mergedPairs items else mergedItems items)
  | mapping tag entries => mergedMapping tag (mergedEntries entries)
  | unmergeable tag => unmergeable tag
  | numbered number tree => numbered number (merged tree)
  | again number => again number

/-- A pair in whose parts all merges are made. -/
def mergedPair : Tree → Tree
  | mapping tag entries => mapping tag (mergedEntries entries)
  | numbered number tree => numbered number (mergedPair tree)
  | tree => tree

def mergedPairs : List Tree → List Tree
  | [] => []
  | item :: rest => mergedPair item :: mergedPairs rest

def mergedItems : List Tree → List Tree
  | [] => []
  | item :: rest => merged item :: mergedItems rest

/-- The entries of a map in whose values all merges are made. -/
def mergedEntries : List (Tree × Tree) → List (Tree × Tree)
  | [] => []
  | (key, value) :: rest => (merged key, merged value) :: mergedEntries rest

end

end NodeDataplane.Yaml.Tree
