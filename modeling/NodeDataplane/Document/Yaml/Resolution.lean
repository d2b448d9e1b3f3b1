import NodeDataplane.Document.Yaml.Merge
import NodeDataplane.Document.Yaml.Tagged

/-!
# What trees mean

The meaning of a tree is put together from those of its scalars. A scalar may mean nothing, and a
node may not fit its tag or its place. Of several such faults in a document the one nearest to the
root counts, and of those at one depth the first.

A list or a map with a number becomes a knot of its own, in which strands may lead to others; these
knots are not tied to each other yet.
-/

namespace NodeDataplane.Yaml

structure DeepFault where
  depth : Nat
  fault : DocumentFault
  deriving Repr

/-- Of two faults the one nearer to the root, or the first. -/
def DeepFault.first (f g : DeepFault) : DeepFault := if g.depth < f.depth then g else f

def both {α β : Type} (x : Except DeepFault α) (y : Except DeepFault β) :
    Except DeepFault (α × β) :=
  match x, y with
  | .ok a, .ok b => .ok (a, b)
  | .ok _, .error g => .error g
  | .error f, .ok _ => .error f
  | .error f, .error g => .error (f.first g)

def atDepth {α : Type} (depth : Nat) (x : Except DocumentFault α) : Except DeepFault α :=
  x.mapError fun fault => ⟨depth, fault⟩

/-- Whether a tag says that a node has members. -/
def isCollectionTag (tag : String) : Bool :=
  ["seq", "map", "set", "omap", "pairs"].any fun type => tag == coreTag type

/-- A node at a depth does not fit its tag, which shows where its members would be if it is to have
any. -/
def misfit {α : Type} (depth : Nat) (tag : String) : Except DeepFault α :=
  atDepth (if isCollectionTag tag then depth + 1 else depth) malformed

def scalarOf (depth : Nat) (form : ScalarForm) (s : String) : Except DeepFault Document :=
  match form with
  | .tagged tag =>
    if isCollectionTag tag then misfit depth tag else atDepth depth (taggedValue tag s)
  | form => atDepth depth (scalarValue form s)

/-- What a list or a map means at a depth, if it has no tag or that of its type. -/
def collectionOf (depth : Nat) (type : String) (tag : Option String)
    (value : Except DeepFault Document) : Except DeepFault Document :=
  match tag with
  | none => value
  | some tag => if tag = coreTag type then value else misfit depth tag

/-- The set of the keys of some entries. -/
def setOf (entries : List (Document × Document)) : Document :=
  .set (((Document.ofEntries entries).entries?.getD []).map (·.1))

/-- What a tree means as a key at a depth. Lists and maps are no keys. -/
def keyOf (depth : Nat) : Tree → Except DeepFault Document
  | .scalar form text => atDepth depth (scalarKey form text)
  | _ => atDepth depth malformed

mutual

def documentOf (depth : Nat) : Tree → Except DeepFault Document
  | .scalar form text => scalarOf depth form text
  | .sequence tag items =>
    if Tree.isPairsTag tag then (pairsOf (depth + 1) items).map .list
    else collectionOf depth "seq" tag ((itemsOf (depth + 1) items).map .list)
  | .mapping tag entries =>
    if tag = some (coreTag "set") then (entriesOf (depth + 1) entries).map setOf
    else collectionOf depth "map" tag ((entriesOf (depth + 1) entries).map Document.ofEntries)
  | .unmergeable tag =>
    if tag = some (coreTag "set") then atDepth (depth + 1) malformed
    else collectionOf depth "map" tag (atDepth (depth + 1) malformed)
  | .numbered number tree => (documentOf depth tree).map fun d => .knot [(number, d)] number
  | .again number => .ok (.strand number)

def itemsOf (depth : Nat) : List Tree → Except DeepFault (List Document)
  | [] => .ok []
  | item :: rest =>
    (both (documentOf depth item) (itemsOf depth rest)).map fun (item, rest) => item :: rest

def entriesOf (depth : Nat) : List (Tree × Tree) → Except DeepFault (List (Document × Document))
  | [] => .ok []
  | (key, value) :: rest =>
    (both (both (keyOf depth key) (documentOf depth value)) (entriesOf depth rest)).map
      fun (entry, rest) => entry :: rest

/-- What a map of one entry means as a pair, of which both parts are values. -/
def pairOf (depth : Nat) : Tree → Except DeepFault Document
  | .mapping _ [(first, second)] =>
    (both (documentOf depth first) (documentOf depth second)).map fun (first, second) =>
      .pair first second
  | .numbered _ tree => pairOf depth tree
  | _ => atDepth depth malformed

def pairsOf (depth : Nat) : List Tree → Except DeepFault (List Document)
  | [] => .ok []
  | item :: rest => (both (pairOf depth item) (pairsOf depth rest)).map fun (item, rest) =>
    item :: rest

end

end NodeDataplane.Yaml
