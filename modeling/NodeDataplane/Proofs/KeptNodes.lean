import NodeDataplane.Proofs.Convergence
import NodeDataplane.Proofs.NodeDescription

/-!
# Nodes whose entries are malformed

A file may list a node in an entry that is well-formed, in one that is malformed, in several, or
not at all. An entry is for a name if it is a map in which the name has this text, whatever kind of
value it is; other entries are for no name.

## Main result

`malformed_entries_keep`: the last well-formed entry for a name counts. If there are only malformed
ones, nothing happens to the node, however often they are seen; and when they are gone, the node is
deleted once if it was known.

## Proof strategy

What a look makes of a name is one of three things, by the entries for it
(`Listing.becomes_withLastGood`). A look that leaves a node as it was hands out no event about it,
even if the handler fails on another one. So a stretch of such looks is without events about the
node (`Watching.looks_of_still`), by induction on the looks, and that is so while its entries are
malformed and again once it is gone. In between stands the one look that finds it gone.
-/

namespace NodeDataplane

variable {σ φ : Type}

/-! ### Entries for a name -/

namespace Listing

/-- An entry is for a name if it is a map in which the name is not nothing and has this text. -/
def IsFor (name : String) (entry : Document) : Prop :=
  ∃ fields value, entry.entries? = some fields ∧ Document.lookup? "name" fields = some value ∧
    value.truthy = true ∧ value.text = name

/-- An entry is well-formed, and tells of the node with a name. -/
def Tells (name : String) (entry : Document) : Prop :=
  ∃ node, NodeDescriptor.ofDocument entry = .ok node ∧ node.name = name

/-- There are entries for a name, and they are all malformed. -/
structure OnlyMalformed (name : String) (entries : List Document) : Prop where
  named : ∃ entry ∈ entries, IsFor name entry
  malformed : ∀ entry ∈ entries, IsFor name entry → IsMalformed entry

/-- No entry is for a name. -/
def Unmentioned (name : String) (entries : List Document) : Prop :=
  ∀ entry ∈ entries, ¬ IsFor name entry

/-- What becomes of a name with these entries, if it was known as `known` before. -/
inductive Becomes (entries : List Document) (name : String) (known : Option NodeDescriptor) :
    Option NodeDescriptor → Prop
  /-- The last entry for the name that is well-formed counts. -/
  | accepted {front back : List Document} {entry : Document} {node : NodeDescriptor}
      (split : entries = front ++ entry :: back) (named : IsFor name entry)
      (told : NodeDescriptor.ofDocument entry = .ok node)
      (last : ∀ later ∈ back, IsFor name later → IsMalformed later) :
      Becomes entries name known (some node)
  /-- Malformed entries change nothing. -/
  | kept (only : OnlyMalformed name entries) : Becomes entries name known known
  | gone (unmentioned : Unmentioned name entries) : Becomes entries name known none

theorem map_text_toldName?_eq_some_iff {entry : Document} {name : String} :
    (toldName? entry).map Document.text = some name ↔ IsFor name entry := by
  unfold toldName? IsFor
  cases entry.entries? with
  | none => simp
  | some fields =>
    cases found : Document.lookup? "name" fields with
    | none => simp [found]
    | some value => simp [found, Option.filter_eq_some_iff]

/-- A node has the name that its entry is for. -/
theorem isFor_of_ofDocument {entry : Document} {node : NodeDescriptor}
    (told : NodeDescriptor.ofDocument entry = .ok node) : IsFor node.name entry := by
  unfold NodeDescriptor.ofDocument at told
  cases map : entry.entries? with
  | none => simp [map] at told
  | some fields =>
    rw [map] at told
    have named : NodeDescriptor.nameAt fields = .ok node.name :=
      (NodeDescriptor.ofEntries_eq_ok_iff.1 told).1
    unfold NodeDescriptor.nameAt NodeDescriptor.textOf at named
    cases found : Document.lookup? "name" fields with
    | none => simp [found] at named
    | some value =>
      rw [found] at named
      -- A name that is nothing, or has no text, is not read.
      cases truthy : value.truthy <;> cases writable : value.isWritable <;>
        simp [truthy, writable] at named
      exact ⟨fields, value, map, found, truthy, named⟩

theorem isFor_unique {entry : Document} {a b : String} (first : IsFor a entry)
    (second : IsFor b entry) : a = b := by
  rw [← map_text_toldName?_eq_some_iff] at first second
  exact Option.some.inj (first.symm.trans second)

theorem mem_rejectedNames_iff {entries : List Document} {name : String} :
    name ∈ rejectedNames entries ↔ ∃ entry ∈ entries, IsFor name entry ∧ IsMalformed entry := by
  simp only [rejectedNames, List.mem_filterMap, ← map_text_toldName?_eq_some_iff]
  refine exists_congr fun entry => and_congr_right fun _ => ?_
  cases told : NodeDescriptor.ofDocument entry with
  | ok node => simp [IsMalformed, told]
  | error fault => simp [IsMalformed, told]

theorem mem_accepted_iff {entries : List Document} {node : NodeDescriptor} :
    node ∈ accepted entries ↔ ∃ entry ∈ entries, NodeDescriptor.ofDocument entry = .ok node := by
  simp only [accepted, List.mem_filterMap]
  refine exists_congr fun entry => and_congr_right fun _ => ?_
  cases NodeDescriptor.ofDocument entry <;> simp [Except.toOption]

/-! ### The last entry for a name -/

theorem get?_putAll_of_forall_ne {nodes : List NodeDescriptor} {name : String}
    (others : ∀ node ∈ nodes, node.name ≠ name) (table : NodeTable) :
    (putAll nodes table).get? name = table.get? name := by
  induction nodes generalizing table with
  | nil => rfl
  | cons node rest ih =>
    rw [List.forall_mem_cons] at others
    have same : putAll (node :: rest) table = putAll rest (table.put node.name node) := rfl
    rw [same, ih others.2, Table.get?_put_of_ne _ _ others.1]

/-- Of the members with a property one is the last, if there is any. -/
theorem exists_last_or_forall_not {α : Type} (P : α → Prop) (members : List α) :
    (∃ front a back, members = front ++ a :: back ∧ P a ∧ ∀ b ∈ back, ¬ P b) ∨
      ∀ a ∈ members, ¬ P a := by
  induction members with
  | nil => exact Or.inr nofun
  | cons first rest ih =>
    rcases ih with ⟨front, a, back, rfl, holds, last⟩ | nowhere
    · exact Or.inl ⟨first :: front, a, back, rfl, holds, last⟩
    · by_cases holds : P first
      · exact Or.inl ⟨[], first, rest, rfl, holds, nowhere⟩
      · exact Or.inr (List.forall_mem_cons.2 ⟨holds, nowhere⟩)

theorem isMalformed_iff_not_tells {entry : Document} {name : String} (named : IsFor name entry) :
    IsMalformed entry ↔ ¬ Tells name entry := by
  unfold IsMalformed Tells
  cases told : NodeDescriptor.ofDocument entry with
  | error fault => simp
  | ok node => simpa using isFor_unique (isFor_of_ofDocument told) named

theorem name_ne_of_not_tells {entries : List Document} {name : String}
    (untold : ∀ entry ∈ entries, ¬ Tells name entry) :
    ∀ node ∈ accepted entries, node.name ≠ name := by
  intro node member same
  obtain ⟨entry, listed, told⟩ := mem_accepted_iff.1 member
  exact untold entry listed ⟨node, told, same⟩

theorem becomes_withLastGood (entries : List Document) (state : NodeTable) (name : String) :
    Becomes entries name (state.get? name)
      ((Listing.withLastGood ⟨putAll (accepted entries) .empty, rejectedNames entries⟩ state).get?
        name) := by
  rw [get?_withLastGood]
  rcases exists_last_or_forall_not (Tells name) entries with
    ⟨front, entry, back, rfl, ⟨node, told, rfl⟩, last⟩ | nowhere
  · -- The nodes behind the last one for the name have other names.
    have nodes : accepted (front ++ entry :: back) = accepted front ++ node :: accepted back := by
      simp [accepted, told, Except.toOption]
    have counts : (putAll (accepted (front ++ entry :: back)) .empty).get? node.name =
        some node := by
      rw [nodes, putAll, List.foldl_append, List.foldl_cons]
      rw [← Table.get?_put_self (putAll (accepted front) .empty) node.name node]
      exact get?_putAll_of_forall_ne (name_ne_of_not_tells last) _
    rw [counts, Option.some_or]
    exact .accepted rfl (isFor_of_ofDocument told) told fun later member named =>
      (isMalformed_iff_not_tells named).2 (last later member)
  · -- Without a well-formed entry for the name, the node stays if a malformed one is there.
    rw [get?_putAll_of_forall_ne (name_ne_of_not_tells nowhere), Table.get?_empty, Option.none_or]
    have malformed : ∀ entry ∈ entries, IsFor name entry → IsMalformed entry :=
      fun entry member named => (isMalformed_iff_not_tells named).2 (nowhere entry member)
    split
    next rejected =>
      obtain ⟨entry, member, named, -⟩ := mem_rejectedNames_iff.1 rejected
      exact .kept ⟨⟨entry, member, named⟩, malformed⟩
    next unrejected =>
      refine .gone fun entry member named => unrejected ?_
      exact mem_rejectedNames_iff.2 ⟨entry, member, named, malformed entry member named⟩

namespace Becomes

variable {entries : List Document} {name : String} {known after : Option NodeDescriptor}

theorem eq_of_onlyMalformed (becomes : Becomes entries name known after)
    (only : OnlyMalformed name entries) : after = known := by
  cases becomes with
  | accepted split named told last =>
    have listed := split ▸ List.mem_append_right _ List.mem_cons_self
    obtain ⟨fault, malformed⟩ := only.malformed _ listed named
    rw [told] at malformed
    cases malformed
  | kept => rfl
  | gone unmentioned =>
    obtain ⟨entry, listed, named⟩ := only.named
    exact absurd named (unmentioned entry listed)

theorem eq_none_of_unmentioned (becomes : Becomes entries name known after)
    (unmentioned : Unmentioned name entries) : after = none := by
  cases becomes with
  | accepted split named told last =>
    have listed := split ▸ List.mem_append_right _ List.mem_cons_self
    exact absurd named (unmentioned _ listed)
  | kept only =>
    obtain ⟨entry, listed, named⟩ := only.named
    exact absurd named (unmentioned entry listed)
  | gone => rfl

end Becomes

end Listing

/-! ### Looks at lists of entries -/

namespace Watcher

variable [Loader]

/-- Whatever entries are listed at a place have a property. -/
def IfListed (path : Path) (P : List Document → Prop) (place : Place) : Prop :=
  ∀ revision entries, ListsAt path place revision entries → P entries

theorem ListsAt.ifListed_iff {path : Path} {place : Place} {revision : String}
    {entries : List Document} (listed : ListsAt path place revision entries)
    {P : List Document → Prop} : IfListed path P place ↔ P entries := by
  refine ⟨fun all => all revision entries listed, fun holds _ others again => ?_⟩
  rw [← entriesAt_of_listsAt again, entriesAt_of_listsAt listed]
  exact holds

end Watcher

/-! ### Events about a node -/

/-- The events about a node, among others. -/
def about (name : String) (records : List Record) : List Record :=
  records.filter fun r => r.key = .resource name nodeKind

theorem about_append (name : String) (first second : List Record) :
    about name (first ++ second) = about name first ++ about name second :=
  List.filter_append first second

theorem about_eq_nil_of_subset {name : String} {old new : NodeTable} {revision : String}
    {records : List Record} (same : old.get? name = new.get? name)
    (among : records ⊆ (changes revision old new).map NodeEvent.toRecord) :
    about name records = [] := by
  rw [about, List.filter_eq_nil_iff]
  intro r member named
  have different := (of_mem_map_changes (among member)).2
  rw [of_decide_eq_true named, nodeAt_node, nodeAt_node, same] at different
  exact different rfl

theorem filter_eq_singleton {α β : Type} [DecidableEq β] {f : α → β} {members : List α}
    (distinct : (members.map f).Nodup) {a : α} (member : a ∈ members) :
    members.filter (fun b => f b = f a) = [a] := by
  obtain ⟨front, back, rfl⟩ := List.append_of_mem member
  rw [List.map_append, List.map_cons, List.nodup_append, List.nodup_cons] at distinct
  obtain ⟨-, ⟨absent, -⟩, apart⟩ := distinct
  have before : front.filter (fun b => f b = f a) = [] := by
    rw [List.filter_eq_nil_iff]
    intro b earlier same
    exact apart _ (List.mem_map_of_mem earlier) _ List.mem_cons_self (of_decide_eq_true same)
  have behind : back.filter (fun b => f b = f a) = [] := by
    rw [List.filter_eq_nil_iff]
    intro b later same
    exact absent (List.mem_map.2 ⟨b, later, of_decide_eq_true same⟩)
  rw [List.filter_append, List.filter_cons_of_pos (by simp), before, behind, List.nil_append]

/-- A node that is gone is told once. -/
theorem about_changes_of_gone {name : String} {old new : NodeTable} (revision : String)
    (gone : new.get? name = none) :
    about name ((changes revision old new).map NodeEvent.toRecord) =
      if (old.get? name).isSome then [(NodeEvent.mk name none revision).toRecord] else [] := by
  split
  next known =>
    have told : NodeEvent.mk name none revision ∈ changes revision old new := by
      rw [mem_changes_iff, gone]
      exact ⟨Option.isSome_iff_ne_none.1 known, rfl⟩
    exact filter_eq_singleton (nodup_map_key_changes revision old new)
      (List.mem_map_of_mem told)
  next unknown =>
    rw [Option.not_isSome_iff_eq_none] at unknown
    exact about_eq_nil_of_subset (unknown.trans gone.symm) (List.Subset.refl _)

/-! ### Runs -/

section Loaded

variable [Loader]

namespace Watching

variable (handle : σ → Record → Logged (σ × Option φ))

/-- A look that leaves a node as it is, whatever else it finds, hands out no event about it. -/
theorem look_of_still (run : Watching σ) {place : Place} {name : String}
    (still : ∀ listing revision,
      Watcher.listingAt? run.watcher.path place = some (listing, revision) →
        (listing.withLastGood run.watcher.state).get? name = run.watcher.state.get? name) :
    (run.look handle place).after.get? name = run.watcher.state.get? name ∧
      about name (run.look handle place).handed = [] := by
  have before := before_look handle run place
  cases run.course_look handle place with
  | idle unread told kept unfailed =>
    rw [told, kept]
    exact ⟨rfl, rfl⟩
  | finished listing revision read told taken worked =>
    have same := still listing revision read
    rw [told, taken, before]
    exact ⟨same, about_eq_nil_of_subset same.symm (List.Subset.refl _)⟩
  | brokenOff listing revision read told kept f failed =>
    -- The state is the one before, and what was handed out is a part of all changes.
    rw [before] at told kept
    rw [kept]
    exact ⟨rfl, about_eq_nil_of_subset (still listing revision read).symm told.subset⟩

/-- A stretch of looks that leave a node as it is has no events about it. -/
theorem looks_of_still (run : Watching σ) {places : List Place} {name : String}
    {known : Option NodeDescriptor} (start : run.watcher.state.get? name = known)
    (still : ∀ place ∈ places, ∀ listing revision,
      Watcher.listingAt? run.watcher.path place = some (listing, revision) →
        ∀ state : NodeTable, state.get? name = known →
          (listing.withLastGood state).get? name = known) :
    (run.behind handle places).watcher.state.get? name = known ∧
      about name (handedIn (run.looks handle places)) = [] := by
  induction places generalizing run with
  | nil => exact ⟨start, rfl⟩
  | cons place rest ih =>
    rw [List.forall_mem_cons] at still
    obtain ⟨kept, silent⟩ := run.look_of_still handle fun listing revision read =>
      (still.1 listing revision read _ start).trans start.symm
    have later := ih (run.next handle place) (kept.trans start) (by rw [path_next]; exact still.2)
    rw [looks, handedIn, List.flatMap_cons, about_append, silent]
    exact later

theorem looks_append (run : Watching σ) (first second : List Place) :
    run.looks handle (first ++ second) =
      run.looks handle first ++ (run.behind handle first).looks handle second := by
  induction first generalizing run with
  | nil => rfl
  | cons place rest ih => exact congrArg (_ :: ·) (ih (run.next handle place))

theorem path_behind (run : Watching σ) (places : List Place) :
    (run.behind handle places).watcher.path = run.watcher.path := by
  induction places generalizing run with
  | nil => rfl
  | cons place rest ih => exact (ih (run.next handle place)).trans (path_next handle run place)

end Watching

/-- Every look that finds entries makes of a name what the entries say. -/
theorem becomes_of_listingAt? {path : Path} {place : Place} {listing : Listing} {revision : String}
    (read : Watcher.listingAt? path place = some (listing, revision)) (state : NodeTable)
    (name : String) : ∃ entries, Watcher.ListsAt path place revision entries ∧
      Listing.Becomes entries name (state.get? name) ((listing.withLastGood state).get? name) := by
  obtain ⟨entries, listed, -, rfl⟩ := Watcher.listingAt?_eq_some_iff.1 read
  exact ⟨entries, listed, Listing.becomes_withLastGood entries state name⟩

/-! ### Main result -/

namespace Watching

variable (handle : σ → Record → Logged (σ × Option φ)) (run : Watching σ) (name : String)

theorem becomes_look {place : Place} {revision : String} {entries : List Document}
    (listed : Watcher.ListsAt run.watcher.path place revision entries)
    (noted : Listing.CanBeNamed entries)
    (unfailed : ∀ f, (run.look handle place).fault ≠ some (.handler f)) :
    Listing.Becomes entries name (run.watcher.state.get? name)
      ((run.look handle place).after.get? name) := by
  have read := Watcher.listingAt?_eq_some_iff.2 ⟨entries, listed, noted, rfl⟩
  rw [run.after_look_of_listing handle read unfailed]
  exact Listing.becomes_withLastGood entries run.watcher.state name

theorem looks_of_onlyMalformed {places : List Place}
    (only : ∀ place ∈ places,
      Watcher.IfListed run.watcher.path (Listing.OnlyMalformed name) place) :
    (run.behind handle places).watcher.state.get? name = run.watcher.state.get? name ∧
      about name (handedIn (run.looks handle places)) = [] := by
  refine run.looks_of_still handle rfl fun place member listing revision read state known => ?_
  obtain ⟨entries, listed, becomes⟩ := becomes_of_listingAt? read state name
  exact (becomes.eq_of_onlyMalformed (only place member revision entries listed)).trans known

theorem about_looks_of_unknown {places : List Place}
    (unmentioned : ∀ place ∈ places,
      Watcher.IfListed run.watcher.path (Listing.Unmentioned name) place)
    (unknown : run.watcher.state.get? name = none) :
    about name (handedIn (run.looks handle places)) = [] := by
  refine (run.looks_of_still handle unknown fun place member listing revision read state _ => ?_).2
  obtain ⟨entries, listed, becomes⟩ := becomes_of_listingAt? read state name
  exact becomes.eq_none_of_unmentioned (unmentioned place member revision entries listed)

/-- The first look that finds no entry for a node any more tells that it is gone, if it was known,
and later looks do not tell it again. -/
theorem about_looks_of_unmentioned {place : Place} {later : List Place} {revision : String}
    {entries : List Document}
    (listed : Watcher.ListsAt run.watcher.path place revision entries)
    (noted : Listing.CanBeNamed entries)
    (unmentioned : ∀ there ∈ place :: later,
      Watcher.IfListed run.watcher.path (Listing.Unmentioned name) there)
    (unfailed : ∀ look ∈ run.looks handle (place :: later), ∀ f, look.fault ≠ some (.handler f)) :
    about name (handedIn (run.looks handle (place :: later))) =
      if (run.watcher.state.get? name).isSome then [(NodeEvent.mk name none revision).toRecord]
      else [] := by
  rw [looks, List.forall_mem_cons] at unfailed
  obtain ⟨here, behind⟩ := List.forall_mem_cons.1 unmentioned
  have gone := (run.becomes_look handle name listed noted unfailed.1).eq_none_of_unmentioned
    (here revision entries listed)
  have told : about name (run.look handle place).handed =
      if (run.watcher.state.get? name).isSome then [(NodeEvent.mk name none revision).toRecord]
      else [] := by
    have read := Watcher.listingAt?_eq_some_iff.2 ⟨entries, listed, noted, rfl⟩
    have before := before_look handle run place
    -- The look found a listing and the handler took every event, so all changes were handed out.
    cases run.course_look handle place with
    | idle unread => cases read.symm.trans unread
    | finished listing modified found told taken worked =>
      have same : (_, revision) = (listing, modified) := Option.some.inj (read.symm.trans found)
      cases same
      rw [told, before]
      exact about_changes_of_gone revision gone
    | brokenOff listing modified found told kept f failed => exact absurd failed (unfailed.1 f)
  -- From here on the node is unknown, and stays so.
  have silent : about name (handedIn ((run.next handle place).looks handle later)) = [] := by
    apply about_looks_of_unknown handle (run.next handle place) name _ gone
    rw [path_next]
    exact behind
  rw [looks, handedIn, List.flatMap_cons, about_append, told]
  exact (congrArg _ silent).trans (List.append_nil _)

end Watching

/-- **Malformed entries keep a node as it was.** Watch any path from any state, with any handler. A
look that finds entries makes of each name what they say (`Listing.Becomes`), unless the handler
fails or the name of a malformed entry has no text. As long as the entries for a name are all
malformed, the node stays as it is, and there is no event about it. When they are gone, there is
exactly one if the node is known, a delete with the revision of the document; else there is none.
Between the looks that find entries there may be any number that find none. -/
theorem malformed_entries_keep (handle : σ → Record → Logged (σ × Option φ)) (run : Watching σ)
    (name : String) :
    let path := run.watcher.path
    let known := run.watcher.state.get? name
    (∀ place revision entries, Watcher.ListsAt path place revision entries →
      Listing.CanBeNamed entries → (∀ f, (run.look handle place).fault ≠ some (.handler f)) →
      Listing.Becomes entries name known ((run.look handle place).after.get? name)) ∧
    ∀ places, (∀ place ∈ places, Watcher.IfListed path (Listing.OnlyMalformed name) place) →
      ((run.behind handle places).watcher.state.get? name = known ∧
        about name (handedIn (run.looks handle places)) = []) ∧
      ∀ place revision entries later, Watcher.ListsAt path place revision entries →
        Listing.CanBeNamed entries →
        (∀ there ∈ place :: later, Watcher.IfListed path (Listing.Unmentioned name) there) →
        (∀ look ∈ run.looks handle (places ++ place :: later),
          ∀ f, look.fault ≠ some (.handler f)) →
        about name (handedIn (run.looks handle (places ++ place :: later))) =
          if known.isSome then [(NodeEvent.mk name none revision).toRecord] else [] := by
  intro path known
  refine ⟨fun place revision entries => run.becomes_look handle name, ?_⟩
  intro places only
  have still := run.looks_of_onlyMalformed handle name only
  refine ⟨still, ?_⟩
  intro place revision entries later listed noted unmentioned unfailed
  rw [Watching.looks_append, List.forall_mem_append] at unfailed
  have told := (run.behind handle places).about_looks_of_unmentioned handle name
    (by rw [Watching.path_behind]; exact listed) noted
    (by rw [Watching.path_behind]; exact unmentioned) unfailed.2
  rw [still.1] at told
  rw [Watching.looks_append, handedIn, List.flatMap_append, about_append]
  exact (congrArg₂ _ still.2 told).trans (List.nil_append _)

end Loaded

namespace Sample

/-- A node with a section that is no map. -/
def brokenEntry : Document := .map [(.string "name", .string "a"), (.string "bgp", .string "x")]

def brokenNode : StoredFile :=
  ⟨"\x7b\"nodes\":[\x7b\"name\":\"a\",\"bgp\":\"x\"\x7d]\x7d".toUTF8, "3"⟩

theorem listsAt_brokenNode : Watcher.ListsAt path (.file brokenNode) "3" [brokenEntry] := by
  refine ⟨.map [(.string "nodes", .list [brokenEntry])], _, _, ?_, rfl, rfl, rfl⟩
  apply Watcher.documentAt?_json "\x7b\"nodes\":[\x7b\"name\":\"a\",\"bgp\":\"x\"\x7d]\x7d"
  · decide +kernel
  · decide +kernel
  · cbv

theorem listsAt_noNode : Watcher.ListsAt path (.file noNode) "2" [] := by
  refine ⟨.map [(.string "nodes", .list [])], _, _, ?_, rfl, rfl, rfl⟩
  apply Watcher.documentAt?_json "\x7b\"nodes\":[]\x7d"
  · decide +kernel
  · decide +kernel
  · cbv

theorem isFor_brokenEntry : Listing.IsFor "a" brokenEntry := ⟨_, _, rfl, rfl, rfl, rfl⟩

theorem onlyMalformed_brokenEntry : Listing.OnlyMalformed "a" [brokenEntry] where
  named := ⟨brokenEntry, List.mem_singleton_self _, isFor_brokenEntry⟩
  malformed := List.forall_mem_singleton.2 fun _ => ⟨.sectionNotMap "bgp", rfl⟩

def knownNode : Watching Nat := ⟨⟨path, Table.empty.put "a" { name := "a" }⟩, 0⟩

def brokenTwice : List Place := [.file brokenNode, .absent, .file brokenNode]

theorem malformed_entries_keep_of_brokenNode :
    Listing.Becomes [brokenEntry] "a" (some { name := "a" })
        ((knownNode.look counting (.file brokenNode)).after.get? "a") ∧
      about "a" (handedIn (knownNode.looks counting brokenTwice)) = [] ∧
      about "a" (handedIn (knownNode.looks counting (brokenTwice ++ [.file noNode, .absent]))) =
        [⟨.resource "a" nodeKind, none, "2"⟩] := by
  have works (places : List Place) : ∀ look ∈ knownNode.looks counting places,
      ∀ f, look.fault ≠ some (.handler f) :=
    (Watching.forall_looks_of_works counting (fun _ => True) (fun _ _ _ => ⟨rfl, trivial⟩)
      _ _ trivial).1
  have noted : Listing.CanBeNamed [brokenEntry] := List.forall_mem_singleton.2 fun _ name told => by
    obtain rfl : .string "a" = name := Option.some.inj told
    rfl
  have hidden (P : List Document → Prop) : Watcher.IfListed path P .absent := nofun
  have broken : ∀ place ∈ brokenTwice,
      Watcher.IfListed path (Listing.OnlyMalformed "a") place := by
    have listed := listsAt_brokenNode.ifListed_iff.2 onlyMalformed_brokenEntry
    simp only [brokenTwice, List.forall_mem_cons]
    exact ⟨listed, hidden _, listed, nofun⟩
  have gone : ∀ there ∈ [Place.file noNode, .absent],
      Watcher.IfListed path (Listing.Unmentioned "a") there := by
    simp only [List.forall_mem_cons]
    exact ⟨listsAt_noNode.ifListed_iff.2 nofun, hidden _, nofun⟩
  obtain ⟨one, stretch⟩ := malformed_entries_keep counting knownNode "a"
  obtain ⟨still, deleted⟩ := stretch brokenTwice broken
  have unfailed := works [.file brokenNode] _ List.mem_cons_self
  exact ⟨one _ _ _ listsAt_brokenNode noted unfailed, still.2,
    deleted _ _ _ _ listsAt_noNode nofun gone (works _)⟩

end Sample

end NodeDataplane
