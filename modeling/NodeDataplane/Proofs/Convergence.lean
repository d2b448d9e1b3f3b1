import NodeDataplane.Proofs.Watching
import NodeDataplane.Store

/-!
# What the events of a watcher add up to

## Main result

`handed_converges`: as long as the handler does not fail, the events that a watcher hands out add up
to its state, none of them is idle, and those of one look stand in a fixed order.

## Proof strategy

A run is followed look by look, with the store that the events of all earlier looks have made. It
agrees with the state before each look (`nodeAt`), and the changes of the look carry it over to the
state behind it.
-/

namespace NodeDataplane

variable {σ φ : Type}

/-! ### What the events add up to -/

/-- What records about the nodes of a table leave in a store. -/
def nodeAt (state : NodeTable) : Key → Option Value
  | .resource name kind => if kind = nodeKind then (state.get? name).map .node else none
  | _ => none

@[simp] theorem nodeAt_node (state : NodeTable) (name : String) :
    nodeAt state (.resource name nodeKind) = (state.get? name).map .node := by
  simp [nodeAt]

theorem nodeAt_inj {old new : NodeTable} {name : String} :
    nodeAt old (.resource name nodeKind) = nodeAt new (.resource name nodeKind) ↔
      old.get? name = new.get? name := by
  rw [nodeAt_node, nodeAt_node]
  cases old.get? name <;> cases new.get? name <;> simp

theorem of_mem_map_changes {revision : String} {old new : NodeTable} {r : Record}
    (member : r ∈ (changes revision old new).map NodeEvent.toRecord) :
    r.value = nodeAt new r.key ∧ nodeAt old r.key ≠ nodeAt new r.key := by
  obtain ⟨e, changed, rfl⟩ := List.mem_map.1 member
  obtain ⟨different, told⟩ := mem_changes_iff.1 changed
  have value : e.toRecord.value = nodeAt new (.resource e.name nodeKind) := by
    rw [told, nodeAt_node]
    rfl
  exact ⟨value, mt nodeAt_inj.1 different⟩

theorem mem_map_key_changes_iff {revision : String} {old new : NodeTable} {key : Key} :
    (∃ r ∈ (changes revision old new).map NodeEvent.toRecord, r.key = key) ↔
      nodeAt old key ≠ nodeAt new key := by
  constructor
  · rintro ⟨r, member, rfl⟩
    exact (of_mem_map_changes member).2
  · intro different
    -- Tables differ under the keys of nodes only.
    cases key with
    | resource name kind =>
      by_cases node : kind = nodeKind
      · subst node
        let e : NodeEvent := ⟨name, new.get? name, revision⟩
        have changed : e ∈ changes revision old new :=
          mem_changes_iff.2 ⟨mt nodeAt_inj.2 different, rfl⟩
        exact ⟨e.toRecord, List.mem_map_of_mem changed, rfl⟩
      · simp [nodeAt, node] at different
    | _ => exact absurd rfl different

theorem nodup_map_key_changes (revision : String) (old new : NodeTable) :
    (((changes revision old new).map NodeEvent.toRecord).map (·.key)).Nodup := by
  have keys : ((changes revision old new).map NodeEvent.toRecord).map (·.key) =
      ((changes revision old new).map (·.name)).map (Key.resource · nodeKind) := by
    simp [NodeEvent.toRecord, Function.comp_def]
  rw [keys]
  -- Nodes with different names have different keys.
  apply List.Pairwise.map _ _ nodup_map_name_changes
  intro a b apart same
  injection same with name
  exact apart name

section Changes

variable {revision : String} {old new : NodeTable} {store : Store}
  (agrees : ∀ key, store.get? key = nodeAt old key)

include agrees

theorem get?_writeAll_changes (key : Key) :
    (store.writeAll ((changes revision old new).map NodeEvent.toRecord)).get? key =
      nodeAt new key := by
  by_cases same : nodeAt old key = nodeAt new key
  · -- No event is about the key.
    rw [Store.get?_writeAll_of_forall_ne, agrees key, same]
    intro r member told
    exact mem_map_key_changes_iff.1 ⟨r, member, told⟩ same
  · apply Store.get?_writeAll_of_agreed (mem_map_key_changes_iff.2 same)
    rintro r member rfl
    exact (of_mem_map_changes member).1

theorem effective_changes :
    store.Effective ((changes revision old new).map NodeEvent.toRecord) := by
  apply Store.effective_of_nodup (nodup_map_key_changes revision old new)
  intro r member
  obtain ⟨value, different⟩ := of_mem_map_changes member
  rw [agrees, value]
  exact different

end Changes

/-! ### Runs -/

section Loaded

variable [Loader]

namespace Watching

variable {handle : σ → Record → Logged (σ × Option φ)} {run : Watching σ} {places : List Place}
  (works : ∀ look ∈ run.looks handle places, ∀ f, look.fault ≠ some (.handler f))

include works

/-- A store that agrees with the state keeps agreeing with it, and every event changes it. -/
theorem writeAll_handedIn {store : Store}
    (agrees : ∀ key, store.get? key = nodeAt run.watcher.state key) :
    (∀ key, (store.writeAll (handedIn (run.looks handle places))).get? key =
        nodeAt (run.behind handle places).watcher.state key) ∧
      store.Effective (handedIn (run.looks handle places)) := by
  induction places generalizing run store with
  | nil => exact ⟨agrees, .nil store⟩
  | cons place rest ih =>
    rw [looks, List.forall_mem_cons] at works
    -- The store agrees with the state behind the look, wherever the look ended.
    have step : (∀ key, (store.writeAll (run.look handle place).handed).get? key =
          nodeAt (run.next handle place).watcher.state key) ∧
        store.Effective (run.look handle place).handed := by
      cases run.course_look handle place with
      | idle unread told kept unfailed =>
        rw [told]
        refine ⟨fun key => (agrees key).trans ?_, .nil store⟩
        exact congrArg (nodeAt · key) kept.symm
      | finished listing revision read told taken worked =>
        rw [told]
        exact ⟨get?_writeAll_changes agrees, effective_changes agrees⟩
      | brokenOff listing revision read told kept f failed => exact absurd failed (works.1 f)
    obtain ⟨later, effective⟩ := ih works.2 step.1
    simp only [looks, handedIn, List.flatMap_cons, Store.writeAll_append]
    exact ⟨later, step.2.append effective⟩

omit works in
/-- A document that is as it was at the look before has nothing new to announce. -/
theorem handed_look_next {place again : Place}
    (unfailed : ∀ f, (run.look handle place).fault ≠ some (.handler f))
    (same : (Watcher.documentAt? run.watcher.path again).map (·.1) =
      (Watcher.documentAt? run.watcher.path place).map (·.1)) :
    ((run.next handle place).look handle again).handed = [] := by
  have listed : (Watcher.listingAt? run.watcher.path again).map (·.1) =
      (Watcher.listingAt? run.watcher.path place).map (·.1) := by
    rw [Watcher.map_fst_listingAt?, Watcher.map_fst_listingAt?, same]
  -- Whatever is announced at the second look is among the changes from a state to itself.
  have silent {listing : Listing} {revision : String}
      (read : Watcher.listingAt? run.watcher.path again = some (listing, revision)) :
      changes revision (run.next handle place).watcher.state
        (listing.withLastGood (run.next handle place).watcher.state) = [] := by
    rw [read, Option.map_some] at listed
    cases run.course_look handle place with
    | idle unread =>
      have unread : Watcher.listingAt? run.watcher.path place = none := unread
      rw [unread] at listed
      cases listed
    | finished first revision read told taken worked =>
      have read : Watcher.listingAt? run.watcher.path place = some (first, revision) := read
      rw [read, Option.map_some, Option.some.injEq] at listed
      subst listed
      have state : (run.next handle place).watcher.state =
          listing.withLastGood run.watcher.state := taken
      rw [state]
      exact changes_eq_nil fun name => (listing.get?_withLastGood_withLastGood _ name).symm
    | brokenOff first revision read told kept f failed => exact absurd failed (unfailed f)
  have course := (run.next handle place).course_look handle again
  rw [path_next] at course
  -- A look that announces nothing, all of nothing, or the start of nothing.
  cases course with
  | idle unread told => exact told
  | finished listing revision read told taken =>
    have none_changed := silent read
    have taken : ((run.next handle place).look handle again).after =
        listing.withLastGood (run.next handle place).watcher.state := taken
    have told : ((run.next handle place).look handle again).handed =
        (changes revision (run.next handle place).watcher.state
          ((run.next handle place).look handle again).after).map NodeEvent.toRecord := told
    rw [told, taken, none_changed]
    rfl
  | brokenOff listing revision read told =>
    have none_changed := silent read
    have told : ((run.next handle place).look handle again).handed <+:
        (changes revision (run.next handle place).watcher.state
          (listing.withLastGood (run.next handle place).watcher.state)).map
            NodeEvent.toRecord := told
    rw [none_changed] at told
    exact List.prefix_nil.1 told

theorem handed_eq_nil_of_same {done rest : List (Look φ)} {earlier look : Look φ}
    (split : run.looks handle places = done ++ earlier :: look :: rest)
    (same : (Watcher.documentAt? run.watcher.path look.place).map (·.1) =
      (Watcher.documentAt? run.watcher.path earlier.place).map (·.1)) : look.handed = [] := by
  induction done generalizing run places with
  | nil =>
    match places, split with
    | place :: again :: _, split =>
      simp only [looks, List.nil_append, List.cons.injEq] at split
      obtain ⟨rfl, rfl, _⟩ := split
      exact handed_look_next (works _ List.mem_cons_self) same
  | cons first done ih =>
    match places, split with
    | place :: others, split =>
      rw [looks, List.cons_append, List.cons.injEq] at split
      rw [looks, List.forall_mem_cons] at works
      refine ih works.2 split.2 ?_
      rw [path_next]
      exact same

end Watching

/-! ### The order of events -/

/-- The events of a look: each node once, first the nodes that are there, in the order in which the
document accepts them, then the nodes that are gone, in the order of names. -/
def Look.InOrder (path : Path) (look : Look φ) : Prop :=
  (look.handed.map (·.key)).Nodup ∧
    ∃ present gone : List NodeEvent, look.handed = (present ++ gone).map NodeEvent.toRecord ∧
      (∀ e ∈ present, e.node.isSome) ∧ (∀ e ∈ gone, e.node = none) ∧
      (present.map (·.name)).Sublist
        (firstSeen (Listing.acceptedNames (Watcher.entriesAt path look.place))) ∧
      (gone.map (·.name)).Pairwise (· < ·)

theorem Look.inOrder_of_course {path : Path} {look : Look φ} (course : look.Course path)
    (unfailed : ∀ f, look.fault ≠ some (.handler f)) : look.InOrder path := by
  cases course with
  | idle unread told =>
    rw [InOrder, told]
    exact ⟨List.nodup_nil, [], [], rfl, by simp, by simp, List.nil_sublist _, List.Pairwise.nil⟩
  | finished listing revision read told taken worked =>
    rw [InOrder, told]
    refine ⟨nodup_map_key_changes revision look.before look.after,
      upserts revision look.before look.after, deletes revision look.before look.after,
      rfl, ?_, ?_, ?_, ?_⟩
    · intro e member
      obtain ⟨node, _, _, made⟩ := mem_upserts_iff.1 member
      rw [made]
      rfl
    · intro e member
      rw [(mem_deletes_iff.1 member).2.2]
    · rw [taken, ← Watcher.keys_listingAt? read]
      exact listing.map_name_upserts_sublist look.before revision
    · rw [map_name_deletes]
      exact pairwise_goneNames
  | brokenOff listing revision read told kept f failed => exact absurd failed (unfailed f)

theorem Watching.inOrder_of_mem_looks {handle : σ → Record → Logged (σ × Option φ)}
    {run : Watching σ} {places : List Place} {look : Look φ}
    (member : look ∈ run.looks handle places)
    (unfailed : ∀ f, look.fault ≠ some (.handler f)) : look.InOrder run.watcher.path := by
  induction places generalizing run with
  | nil => cases member
  | cons place rest ih =>
    rcases List.mem_cons.1 member with rfl | later
    · exact Look.inOrder_of_course (run.course_look handle place) unfailed
    · rw [← path_next handle run place]
      exact ih later

/-! ### Main result -/

/-- **A watcher converges, and no event is idle.** Watch a path on which anything may be found, with
a handler that does not fail. Then the events that were handed out, applied in turn, leave just what
the state of the watcher says; each of them changes what is found under its key; those of one look
stand in order; and a look at the document of the look before hands out none. -/
theorem handed_converges (handle : σ → Record → Logged (σ × Option φ)) (path : Path) (s : σ)
    (places : List Place)
    (works : ∀ look ∈ (Watching.start path s).looks handle places,
      ∀ f, look.fault ≠ some (.handler f)) :
    let looks := (Watching.start path s).looks handle places
    let state := ((Watching.start path s).behind handle places).watcher.state
    (∀ key, (Store.writeAll .empty (handedIn looks)).get? key = nodeAt state key) ∧
      Store.Effective .empty (handedIn looks) ∧
      (∀ look ∈ looks, look.InOrder path) ∧
      ∀ done earlier look rest, looks = done ++ earlier :: look :: rest →
        (Watcher.documentAt? path look.place).map (·.1) =
          (Watcher.documentAt? path earlier.place).map (·.1) → look.handed = [] := by
  have agrees : ∀ key, (Table.empty : Store).get? key =
      nodeAt (Watching.start path s).watcher.state key := by
    intro key
    cases key with
    | resource name kind => simp [Watching.start, Watcher.new, nodeAt]
    | _ => rfl
  obtain ⟨converged, effective⟩ := Watching.writeAll_handedIn works agrees
  refine ⟨converged, effective, ?_, ?_⟩
  · intro look member
    have ordered := Watching.inOrder_of_mem_looks member (works look member)
    exact ordered
  · intro done earlier look rest split same
    exact Watching.handed_eq_nil_of_same works split same

end Loaded

def counting (seen : Nat) (_ : Record) : Logged (Nat × Option RegistryFault) :=
  pure (seen + 1, none)

def vanishingNode : List (Look RegistryFault) :=
  (Watching.start Sample.path 0).looks counting [.file Sample.oneNode, .absent, .file Sample.noNode]

theorem handed_converges_of_vanishing_node :
    (∀ look ∈ vanishingNode, ∀ f, look.fault ≠ some (.handler f)) ∧
      Store.Effective .empty (handedIn vanishingNode) ∧
      (handedIn vanishingNode).map (fun r => (r.key, r.isDelete)) =
        [(.resource "a" nodeKind, false), (.resource "a" nodeKind, true)] := by
  have works : ∀ look ∈ vanishingNode, ∀ f, look.fault ≠ some (.handler f) :=
    (Watching.forall_looks_of_works counting (fun _ => True) (fun _ _ _ => ⟨rfl, trivial⟩)
      _ _ trivial).1
  refine ⟨works, (handed_converges counting Sample.path 0 _ works).2.1, ?_⟩
  -- Each file is read once; what follows from its listing is computed.
  have first : (Watching.start Sample.path 0).poll counting (.file Sample.oneNode) =
      ⟨⟨Sample.path, Table.empty.put "a" { name := "a" }⟩,
        (1, [⟨.resource "a" nodeKind, some (.node { name := "a" }), "1"⟩]), none⟩ := by
    rw [Watching.poll_of_listing counting (.start Sample.path 0) Sample.listingAt?_oneNode]
    cbv
  have hidden (run : Watching Nat) : run.poll counting .absent =
      ⟨run.watcher, (run.handled, []), none⟩ := rfl
  have last : (Watching.mk ⟨Sample.path, Table.empty.put "a" { name := "a" }⟩ 1).poll counting
      (.file Sample.noNode) =
        ⟨⟨Sample.path, .empty⟩, (2, [⟨.resource "a" nodeKind, none, "2"⟩]), none⟩ := by
    rw [Watching.poll_of_listing counting ⟨⟨Sample.path, _⟩, 1⟩ Sample.listingAt?_noNode]
    cbv
  simp only [vanishingNode, Watching.looks, Watching.look, Watching.next, first, hidden, last]
  decide

end NodeDataplane
