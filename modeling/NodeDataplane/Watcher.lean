import NodeDataplane.Disk
import NodeDataplane.Document.Json
import NodeDataplane.NodeEntry
import NodeDataplane.Registry

/-!
# Watching a file of nodes

A watcher looks at a file that lists nodes and compares what it says with what it said the time
before. Every node that is new or different is announced, in the order of the file, then every node
that is gone, in the order of names.

A file that is not there, cannot be read or makes no sense leaves everything as it was. A node whose
entry is malformed keeps the state it had. A path that is too long cannot be looked at and makes the
look fail, as do bytes that are no text, and texts that are neither read nor found malformed. What
the file says is taken over only when all announcements went through: if one fails the rest is not
made, and the next look starts from the state before.
-/

namespace NodeDataplane

/-- Nodes by their names, in the order of the file. -/
abbrev NodeTable := Table String NodeDescriptor

inductive ListingFault where
  | notMap
  | noNodes
  | notList
  /-- A malformed entry for a name that has no text. -/
  | unwritable
  deriving DecidableEq, Repr

def ListingFault.message : ListingFault → String
  | notMap => "nodes file must contain a mapping"
  | noNodes => "nodes file missing 'nodes' key"
  | notList => "'nodes' must be a list"
  | unwritable => Document.unwritableMessage

/-- What a file says: nodes, and the names in entries that are malformed. -/
structure Listing where
  nodes : NodeTable
  rejected : List String
  deriving DecidableEq, Repr

namespace Listing

def entriesOf (d : Document) : Except ListingFault (List Document) :=
  match d.entries? with
  | none => .error .notMap
  | some entries =>
    match Document.lookup? "nodes" entries with
    | none => .error .noNodes
    -- A key without a value is as good as no key.
    | some .null => .error .noNodes
    | some nodes =>
      match nodes.items? with
      | some items => .ok items
      | none => .error .notList

/-- What an entry tells for a name, if it is anything at all. -/
def toldName? (entry : Document) : Option Document :=
  (entry.entries?.bind (Document.lookup? "name")).filter Document.truthy

/-- The entry of the journal on a malformed entry of the file. -/
def skipped (entry : Document) (fault : EntryFault) : Entry :=
  ⟨.warning, .watcher, "skipping malformed node entry " ++ entry.shown ++ ": " ++ fault.message,
    none⟩

/-- Note that an entry is malformed. One that has no text is not noted. -/
def noteSkipped (entry : Document) (fault : EntryFault) : Logged Unit :=
  ⟨(), if entry.isWritable then [skipped entry fault] else []⟩

/-- Take in one more entry. A malformed one is passed over, unless its name has no text. -/
def add (listing : Listing) (entry : Document) : Logged (Except ListingFault Listing) :=
  match NodeDescriptor.ofDocument entry with
  | .ok node => pure (.ok { listing with nodes := listing.nodes.put node.name node })
  | .error fault => do
    noteSkipped entry fault
    match toldName? entry with
    | none => return .ok listing
    | some name =>
      if name.isWritable then
        return .ok { listing with rejected := listing.rejected ++ [name.text] }
      else return .error .unwritable

/-- Take in entries in turn, up to one that cannot be. -/
def addAll : List Document → Listing → Logged (Except ListingFault Listing)
  | [], listing => pure (.ok listing)
  | entry :: rest, listing => do
    match ← listing.add entry with
    | .error fault => return .error fault
    | .ok listing => addAll rest listing

def ofDocument (d : Document) : Logged (Except ListingFault Listing) :=
  match entriesOf d with
  | .error fault => pure (.error fault)
  | .ok entries => addAll entries ⟨.empty, []⟩

/-- The nodes of a file, where those in malformed entries keep the state they had. -/
def withLastGood (listing : Listing) (state : NodeTable) : NodeTable :=
  listing.rejected.foldl (fun nodes name =>
    -- A well-formed entry for the same name has precedence.
    match nodes.get? name, state.get? name with
    | none, some node => nodes.put name node
    | _, _ => nodes) listing.nodes

end Listing

/-! ### What changes -/

def upserts (revision : String) (old new : NodeTable) : List NodeEvent :=
  (new.entries.filter fun (name, node) => old.get? name ≠ some node).map fun (name, node) =>
    ⟨name, some node, revision⟩

def goneNames (old new : NodeTable) : List String :=
  (old.keys.filter fun name => !new.contains name).mergeSort fun s t => !(t < s)

def deletes (revision : String) (old new : NodeTable) : List NodeEvent :=
  (goneNames old new).map fun name => ⟨name, none, revision⟩

def changes (revision : String) (old new : NodeTable) : List NodeEvent :=
  upserts revision old new ++ deletes revision old new

theorem mem_upserts_iff {revision : String} {old new : NodeTable} {e : NodeEvent} :
    e ∈ upserts revision old new ↔
      ∃ node, new.get? e.name = some node ∧ old.get? e.name ≠ some node ∧
        e = ⟨e.name, some node, revision⟩ := by
  simp only [upserts, List.mem_map, List.mem_filter, decide_eq_true_eq, Prod.exists,
    Table.mem_entries_iff]
  constructor
  · rintro ⟨name, node, ⟨present, different⟩, rfl⟩
    exact ⟨node, present, different, rfl⟩
  · rintro ⟨node, present, different, told⟩
    exact ⟨e.name, node, ⟨present, different⟩, told.symm⟩

theorem mem_goneNames_iff {old new : NodeTable} {name : String} :
    name ∈ goneNames old new ↔ (old.get? name).isSome ∧ new.get? name = none := by
  simp only [goneNames, List.mem_mergeSort, List.mem_filter, Table.contains,
    Table.get?_isSome_iff, Bool.not_eq_true', Option.isSome_eq_false_iff,
    Option.isNone_iff_eq_none]

def NodeEvent.note (e : NodeEvent) : Logged Unit :=
  .note .debug .watcher
    ("node " ++ e.name ++ (if e.node.isSome then " updated" else " removed"))

/-- Hand events to a handler, up to the first one that it fails on. -/
def announce {σ φ : Type} (handle : σ → Record → Logged (σ × Option φ)) :
    List NodeEvent → σ → Logged (σ × Option φ)
  | [], s => pure (s, none)
  | e :: rest, s => do
    e.note
    let (s, fault) ← handle s e.toRecord
    match fault with
    -- The handler keeps what it has come to, and the rest is not announced.
    | some fault => return (s, some fault)
    | none => announce handle rest s

/-! ### Looking at the file -/

/-- Why looking at a file fails, beyond what is put up with. -/
inductive PollFault (φ : Type) where
  | file (fault : FileFault)
  | document (fault : DocumentFault)
  | handler (fault : φ)
  deriving DecidableEq, Repr

/-- A watcher: where it looks, and what was there when it looked last. -/
structure Watcher where
  path : Path
  state : NodeTable
  deriving DecidableEq, Repr

namespace Watcher

def new (path : Path) : Watcher := ⟨path, .empty⟩

variable [Loader]

/-- The document in a text: YAML by the name of the file, else JSON. A YAML text that says nothing
is an empty map. -/
def documentOf (path : Path) (text : String) : Except DocumentFault Document :=
  if path.suffix = ".yaml" ∨ path.suffix = ".yml" then
    (Loader.yaml text).map fun d => if d.truthy then d else .map []
  else Json.parse text

def readDocument (path : Path) (f : StoredFile) : Except DocumentFault Document :=
  match f.text? with
  | none => .error .undecodable
  | some text => documentOf path text

/-- Whether a fault is put up with: the text is malformed, which it may be while it is written. -/
def isTransient : DocumentFault → Bool
  | .malformedJson => true
  | .malformedYaml => true
  | _ => false

def noteUnread (w : Watcher) (reason : String) : Logged Unit :=
  .note .warning .watcher ("failed to read nodes file " ++ w.path.text ++ ": " ++ reason)

/-- The document at a place; none if there is nothing to go by. -/
def look {φ : Type} (w : Watcher) (place : Place) :
    Logged (Except (PollFault φ) (Option (Document × String))) :=
  match place with
  | .file f =>
    match readDocument w.path f with
    | .ok d => pure (.ok (some (d, f.modified)))
    | .error fault =>
      if isTransient fault then do
        w.noteUnread fault.brief
        return .ok none
      else pure (.error (.document fault))
  | .directory => do
    w.noteUnread (FileFault.isDirectory w.path.text).message
    return .ok none
  | .tooLong => pure (.error (.file (.nameTooLong w.path.text)))
  | _ => do
    .note .debug .watcher ("nodes file " ++ w.path.text ++ " does not exist yet")
    return .ok none

structure Poll (σ φ : Type) where
  watcher : Watcher
  handled : σ
  fault : Option (PollFault φ)

def take {σ φ : Type} (handle : σ → Record → Logged (σ × Option φ)) (w : Watcher) (d : Document)
    (revision : String) (s : σ) : Logged (Poll σ φ) := do
  match ← Listing.ofDocument d with
  | .error fault => do
    .note .warning .watcher
      ("invalid nodes file " ++ w.path.text ++ ": " ++ fault.message)
    return ⟨w, s, none⟩
  | .ok listing => do
    let desired := listing.withLastGood w.state
    let (s, fault) ← announce handle (changes revision w.state desired) s
    match fault with
    -- Announcements that went through are not taken back, yet the state is the one before.
    | some fault => return ⟨w, s, some (.handler fault)⟩
    | none => return ⟨{ w with state := desired }, s, none⟩

def poll {σ φ : Type} (handle : σ → Record → Logged (σ × Option φ)) (w : Watcher) (place : Place)
    (s : σ) : Logged (Poll σ φ) := do
  match ← w.look place with
  | .error fault => return ⟨w, s, some fault⟩
  | .ok none => return ⟨w, s, none⟩
  | .ok (some (d, revision)) => w.take handle d revision s

end Watcher

/-! ### Watching for a registry -/

structure Outlet where
  plant : Plant
  deliveries : List (List Record)

/-- Handle an event by a registry, and keep what the sinks were handed. -/
def Registry.publish (registry : Registry) (outlet : Outlet) (event : Record) :
    Logged (Outlet × Option RegistryFault) := do
  let handling ← registry.handle outlet.plant event
  let fault :=
    match handling.answer with
    | .ok _ => none
    | .error fault => some fault
  return (⟨handling.plant, outlet.deliveries ++ handling.received⟩, fault)

namespace PollFault

def message : PollFault RegistryFault → String
  | file fault => fault.message
  | document fault => fault.message
  | handler fault => fault.message

def failureClass : PollFault RegistryFault → FailureClass
  | file fault => fault.failureClass
  | document fault => fault.failureClass
  | handler fault => fault.failureClass

end PollFault

namespace Watcher

def pollNoting [Loader] {σ : Type} (handle : σ → Record → Logged (σ × Option RegistryFault))
    (complaint : Source × String) (w : Watcher) (place : Place) (s : σ) : Logged (Watcher × σ) := do
  let result ← w.poll handle place s
  match result.fault with
  | none => return (result.watcher, result.handled)
  | some fault =>
    ⟨(result.watcher, result.handled),
      [⟨.error, complaint.1, complaint.2, some fault.failureClass⟩]⟩

def ownComplaint : Source × String := (.watcher, "file watcher encountered an error")

end Watcher

end NodeDataplane
