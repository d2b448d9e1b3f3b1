import NodeDataplane.Agent
import NodeDataplane.Proofs.Convergence

/-!
# What is left of a handler's failures

A watcher takes a document over only when all its changes went through. After a failure the next
look starts from the state before, so the changes that the handler was given already are announced
once more, unless the document has meanwhile gone back to what the watcher remembers.

## Main result

`lastWord_iff`: the last event about a node tells the state of the watcher if and only if the look
that handed it out came to its end.

## Proof strategy

Follow the run up to the look with the last word. Later looks do not speak of the node, so its state
stays as that look left it: as the event says, if the look came to its end, and else as it was
before, which is what the event changes.
-/

namespace NodeDataplane

variable {σ φ : Type}

/-- The last event about a node that was handed out in some looks. -/
def lastWord? (name : String) (looks : List (Look φ)) : Option Record :=
  ((handedIn looks).filter fun r => r.key = .resource name nodeKind).getLast?

theorem lastWord?_cons (name : String) (look : Look φ) (rest : List (Look φ)) :
    lastWord? name (look :: rest) = (lastWord? name rest).or (lastWord? name [look]) := by
  simp only [lastWord?, handedIn, List.flatMap_cons, List.flatMap_nil, List.filter_append,
    List.append_nil, List.getLast?_append]

theorem lastWord?_eq_none_iff {name : String} {looks : List (Look φ)} :
    lastWord? name looks = none ↔ ∀ r ∈ handedIn looks, r.key ≠ .resource name nodeKind := by
  rw [lastWord?, List.getLast?_eq_none_iff, List.filter_eq_nil_iff]
  simp only [decide_eq_true_eq, ne_eq]

theorem mem_of_lastWord? {name : String} {look : Look φ} {r : Record}
    (spoken : lastWord? name [look] = some r) :
    r ∈ look.handed ∧ r.key = .resource name nodeKind := by
  have found := List.mem_filter.1 (List.mem_of_getLast? spoken)
  simpa [handedIn] using found

/-! ### Looks that do not speak of a node -/

section Loaded

variable [Loader]

namespace Watching

variable (handle : σ → Record → Logged (σ × Option φ))

theorem nodeAt_next_of_silent (run : Watching σ) {place : Place} {key : Key}
    (silent : ∀ r ∈ (run.look handle place).handed, r.key ≠ key) :
    nodeAt (run.next handle place).watcher.state key = nodeAt run.watcher.state key := by
  cases run.course_look handle place with
  | idle unread told kept => exact congrArg (nodeAt · key) kept
  | finished listing revision read told =>
    rw [told] at silent
    -- A change of the node would have been announced.
    by_cases same : nodeAt run.watcher.state key = nodeAt (run.next handle place).watcher.state key
    · exact same.symm
    · obtain ⟨r, member, about⟩ := mem_map_key_changes_iff.2 same
      exact absurd about (silent r member)
  | brokenOff listing revision read told kept => exact congrArg (nodeAt · key) kept

theorem nodeAt_behind_of_silent (run : Watching σ) {places : List Place} {key : Key}
    (silent : ∀ r ∈ handedIn (run.looks handle places), r.key ≠ key) :
    nodeAt (run.behind handle places).watcher.state key = nodeAt run.watcher.state key := by
  induction places generalizing run with
  | nil => rfl
  | cons place rest ih =>
    simp only [looks, handedIn, List.flatMap_cons, List.forall_mem_append] at silent
    exact (ih (run.next handle place) silent.2).trans (run.nodeAt_next_of_silent handle silent.1)

/-! ### The look with the last word -/

/-- What a look leaves of a node that it hands out: the event, or what the event changes. -/
theorem value_iff_of_mem_handed (run : Watching σ) {place : Place} {r : Record}
    (member : r ∈ (run.look handle place).handed) :
    r.value = nodeAt (run.next handle place).watcher.state r.key ↔
      (run.look handle place).fault = none := by
  cases run.course_look handle place with
  | idle unread told =>
    rw [told] at member
    cases member
  | finished listing revision read told taken worked =>
    rw [told] at member
    exact iff_of_true (of_mem_map_changes member).1 worked
  | brokenOff listing revision read told kept f failed =>
    obtain ⟨value, different⟩ := of_mem_map_changes (told.subset member)
    -- The state is the one before the look, which the event differs from.
    refine iff_of_false ?_ (by simp [failed])
    intro same
    have kept : (run.next handle place).watcher.state = run.watcher.state := kept
    rw [kept] at same
    exact different (same.symm.trans value)

end Watching

/-! ### Main result -/

/-- **A failure is made up for only by a look that speaks of the node again.** Let a watcher look
at its path any number of times, with any handler, which may fail on any event. Some look handed out
the last event about a node, and the event tells the state of the watcher if and only if that look
did not fail. -/
theorem lastWord_iff (handle : σ → Record → Logged (σ × Option φ)) (run : Watching σ)
    (places : List Place) {name : String} {r : Record}
    (spoken : lastWord? name (run.looks handle places) = some r) :
    ∃ done look later, run.looks handle places = done ++ look :: later ∧ r ∈ look.handed ∧
      (∀ x ∈ handedIn later, x.key ≠ .resource name nodeKind) ∧
      (r.value = ((run.behind handle places).watcher.state.get? name).map .node ↔
        look.fault = none) := by
  induction places generalizing run with
  | nil => simp [lastWord?, Watching.looks, handedIn] at spoken
  | cons place rest ih =>
    rw [Watching.looks, lastWord?_cons] at spoken
    cases later : lastWord? name ((run.next handle place).looks handle rest) with
    | none =>
      -- This look has the last word; the node stays as it leaves it.
      have silent := lastWord?_eq_none_iff.1 later
      rw [later, Option.none_or] at spoken
      obtain ⟨member, about⟩ := mem_of_lastWord? spoken
      have stays := Watching.nodeAt_behind_of_silent handle (run.next handle place) silent
      refine ⟨[], run.look handle place, _, rfl, member, silent, ?_⟩
      rw [← run.value_iff_of_mem_handed handle member, about, ← stays, nodeAt_node]
      rfl
    | some word =>
      -- A later look speaks of the node.
      rw [later, Option.some_or] at spoken
      obtain ⟨done, look, others, split, found⟩ := ih (run.next handle place) (later.trans spoken)
      refine ⟨run.look handle place :: done, look, others, ?_, found⟩
      rw [Watching.looks, split, List.cons_append]

end Loaded

/-! ### A node that stays behind -/

/-- The registry of the agent, with a sink that fails. -/
def refusing : Registry := { Agent.registry with sinks := [Sink.failing] }

def unused : Watching Outlet := .start Sample.path ⟨Agent.plant {}, []⟩

def shortLived : List Place := [.file Sample.oneNode, .file Sample.noNode]

theorem poll_oneNode : ∃ outlet, unused.poll refusing.publish (.file Sample.oneNode) =
    ⟨⟨Sample.path, .empty⟩,
      (outlet, [⟨.resource "a" nodeKind, some (.node { name := "a" }), "1"⟩]),
      some (.handler .sink)⟩ := by
  have changed : changes Sample.oneNode.modified .empty
      ((Listing.mk (Table.empty.put "a" { name := "a" }) []).withLastGood .empty) =
        [⟨"a", some { name := "a" }, "1"⟩] := by decide +kernel
  have failed : (refusing.publish ⟨Agent.plant {}, []⟩
      ⟨.resource "a" nodeKind, some (.node { name := "a" }), "1"⟩).value.2 = some .sink := by
    decide +kernel
  have told : (keeping refusing.publish (unused.handled, [])
      (NodeEvent.toRecord ⟨"a", some { name := "a" }, "1"⟩)).value.2 = some .sink := failed
  rw [unused.poll_of_listing refusing.publish Sample.listingAt?_oneNode]
  have state : unused.watcher.state = .empty := rfl
  simp only [state, changed, value_announce_cons, told]
  exact ⟨_, rfl⟩

theorem poll_noNode (outlet : Outlet) :
    (Watching.mk ⟨Sample.path, .empty⟩ outlet).poll refusing.publish (.file Sample.noNode) =
      ⟨⟨Sample.path, .empty⟩, (outlet, []), none⟩ := by
  rw [Watching.poll_of_listing refusing.publish ⟨⟨Sample.path, _⟩, outlet⟩
    Sample.listingAt?_noNode]
  cbv

theorem looks_shortLived : unused.looks refusing.publish shortLived =
    [⟨.file Sample.oneNode, .empty, .empty,
        [⟨.resource "a" nodeKind, some (.node { name := "a" }), "1"⟩], some (.handler .sink)⟩,
      ⟨.file Sample.noNode, .empty, .empty, [], none⟩] := by
  obtain ⟨outlet, first⟩ := poll_oneNode
  simp only [shortLived, Watching.looks, Watching.look, Watching.next, first, poll_noNode]
  rfl

theorem lastWord_shortLived : lastWord? "a" (unused.looks refusing.publish shortLived) =
    some ⟨.resource "a" nodeKind, some (.node { name := "a" }), "1"⟩ := by
  rw [looks_shortLived]
  decide

theorem lastWord_iff_of_shortLived :
    lastWord? "a" (unused.looks refusing.publish shortLived) =
        some ⟨.resource "a" nodeKind, some (.node { name := "a" }), "1"⟩ ∧
      ∃ done look later, unused.looks refusing.publish shortLived = done ++ look :: later ∧
        ⟨.resource "a" nodeKind, some (.node { name := "a" }), "1"⟩ ∈ look.handed ∧
        (∀ x ∈ handedIn later, x.key ≠ .resource "a" nodeKind) ∧
        (some (Value.node { name := "a" }) =
            ((unused.behind refusing.publish shortLived).watcher.state.get? "a").map .node ↔
          look.fault = none) := by
  exact ⟨lastWord_shortLived,
    lastWord_iff refusing.publish unused shortLived lastWord_shortLived⟩

/-- A node that is announced and never taken back, although the last look went through and the
watcher knows no node. -/
theorem announced_and_left_behind :
    (unused.looks refusing.publish shortLived).getLast?.map (·.fault) = some none ∧
      lastWord? "a" (unused.looks refusing.publish shortLived) =
        some ⟨.resource "a" nodeKind, some (.node { name := "a" }), "1"⟩ ∧
      (unused.behind refusing.publish shortLived).watcher.state.get? "a" = none := by
  refine ⟨?_, lastWord_shortLived, ?_⟩
  · rw [looks_shortLived]
    rfl
  · obtain ⟨outlet, first⟩ := poll_oneNode
    simp only [shortLived, Watching.behind, Watching.next, first, poll_noNode]
    rfl

end NodeDataplane
