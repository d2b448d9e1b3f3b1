import NodeDataplane.Agent
import NodeDataplane.Proofs.Takeover
import NodeDataplane.Proofs.Watching

/-!
# Who holds a block in the end

A watcher works with the registry of the agent: one processor that publishes blocks, one sink that
keeps what it is handed. As long as no block has two holders, the store of all delivered records is
compared with the holders of the watcher's state.

## Main result

`blocks_of_watching`: a block is in the store just if a node of the state holds it, bound to that
node, and not deleted behind its back: when the node last changed, no other node held the block
before without standing in front of it (`Revoked`).

## Proof strategy

Follow the run look by look. The ledger always knows the state. A look that changes the holder of a
block settles the block by the order of events; any other look leaves both the block and what is
said of its holder alone.
-/

namespace NodeDataplane

open Processor

/-! ### The agent's processor at work -/

namespace Agent

def outlet (config : ProcessorConfig) (ledger : BlockLedger) (deliveries : List (List Record)) :
    Outlet :=
  ⟨⟨[ledger], [⟨.node config 0, 0⟩]⟩, deliveries⟩

theorem publish_outlet (config : ProcessorConfig) (ledger : BlockLedger)
    (deliveries : List (List Record)) (e : NodeEvent) :
    (registry.publish (outlet config ledger deliveries) e.toRecord).value =
      (outlet config (outcomeOf config ledger e).value.ledger
        (deliveries ++ [(outcomeOf config ledger e).value.records]), none) := by
  have handled : (registry.handle (outlet config ledger deliveries).plant e.toRecord).value = _ :=
    Registry.value_handle_of_node rfl rfl e
  -- The sink keeps the records and does not fail, so the event is handled without fault.
  rw [Registry.publish, Logged.value_bind, handled]
  rfl

theorem foldl_publish (config : ProcessorConfig) (ledger : BlockLedger)
    (deliveries : List (List Record)) (events : List NodeEvent) :
    ∃ later, (events.map NodeEvent.toRecord).foldl (fun o r => (registry.publish o r).value.1)
        (outlet config ledger deliveries) =
          outlet config (ledgerBehind config ledger events) (deliveries ++ later) ∧
      later.flatten = emitted config ledger events := by
  induction events generalizing ledger deliveries with
  | nil => exact ⟨[], by simp [ledgerBehind], rfl⟩
  | cons e rest ih =>
    obtain ⟨later, same, given⟩ := ih (outcomeOf config ledger e).value.ledger
      (deliveries ++ [(outcomeOf config ledger e).value.records])
    refine ⟨(outcomeOf config ledger e).value.records :: later, ?_, ?_⟩
    · rw [List.map_cons, List.foldl_cons, publish_outlet, same, List.append_assoc]
      rfl
    · rw [List.flatten_cons, given]
      rfl

end Agent

/-! ### Which blocks are taken back -/

section Revoked

variable {φ : Type} {looks : List (Look φ)} {look : Look φ} {name : String} {c : IPNetwork}

def lastChange? (name : String) (looks : List (Look φ)) : Option (Look φ) :=
  (looks.filter fun look => look.before.get? name ≠ look.after.get? name).getLast?

/-- When the node last changed, another one held the block before and did not stand in front of it.
The delete of the block came behind its assignment then. -/
def Revoked (looks : List (Look φ)) (name : String) (c : IPNetwork) : Prop :=
  ∃ look, lastChange? name looks = some look ∧
    ∃ other, other ≠ name ∧ Holds look.before other c ∧ ¬ [other, name].Sublist look.after.keys

/-- What a block is bound to behind some looks. -/
def Bound (looks : List (Look φ)) (state : NodeTable) (c : IPNetwork) (value : Value) : Prop :=
  ∃ name, Holds state name c ∧ value = .block ⟨c, hostAffinity name⟩ ∧ ¬ Revoked looks name c

theorem revoked_append_of_same (same : look.before.get? name = look.after.get? name) :
    Revoked (looks ++ [look]) name c ↔ Revoked looks name c := by
  simp [Revoked, lastChange?, same]

theorem revoked_append_of_ne (changed : look.before.get? name ≠ look.after.get? name) :
    Revoked (looks ++ [look]) name c ↔
      ∃ other, other ≠ name ∧ Holds look.before other c ∧
        ¬ [other, name].Sublist look.after.keys := by
  simp [Revoked, lastChange?, changed]

theorem bound_append_of_same (look : Look φ) {value : Value}
    (same : ∀ name, Holds look.before name c ∨ Holds look.after name c →
      look.before.get? name = look.after.get? name) :
    Bound (looks ++ [look]) look.after c value ↔ Bound looks look.before c value := by
  constructor
  · rintro ⟨name, held, bound, kept⟩
    have unchanged := same name (Or.inr held)
    rw [revoked_append_of_same unchanged] at kept
    rw [Holds, ← unchanged] at held
    exact ⟨name, held, bound, kept⟩
  · rintro ⟨name, held, bound, kept⟩
    have unchanged := same name (Or.inl held)
    rw [← revoked_append_of_same unchanged] at kept
    rw [Holds, unchanged] at held
    exact ⟨name, held, bound, kept⟩

/-- A look carries what blocks are bound to over from one table to the next. -/
theorem get?_emitted_iff_bound {config : ProcessorConfig} (pods : config.usePodBlocks = true)
    {ledger : BlockLedger} {store : Store} (knows : Knows ledger look.before)
    (exclusive : Exclusive look.before) (still : Exclusive look.after) (revision : String)
    (value : Value)
    (bound : ∀ value, store.get? (.block c) = some value ↔ Bound looks look.before c value) :
    (store.writeAll (emitted config ledger (changes revision look.before look.after))).get?
        (.block c) = some value ↔ Bound (looks ++ [look]) look.after c value := by
  by_cases gained : ∃ name, look.before.get? name ≠ look.after.get? name ∧ Holds look.after name c
  · -- The block has a holder that is announced; what matters is the holder before.
    obtain ⟨name, changed, held⟩ := gained
    have only : Bound (looks ++ [look]) look.after c value ↔
        value = .block ⟨c, hostAffinity name⟩ ∧ ¬ Revoked (looks ++ [look]) name c := by
      constructor
      · rintro ⟨holder, holds, bound, kept⟩
        cases still c holder name holds held
        exact ⟨bound, kept⟩
      · rintro ⟨bound, kept⟩
        exact ⟨name, held, bound, kept⟩
    rw [only, revoked_append_of_ne changed]
    by_cases behind : ∃ other, other ≠ name ∧ Holds look.before other c ∧
        ¬ [other, name].Sublist look.after.keys
    · -- The event about the holder before comes later and deletes the block.
      obtain ⟨other, apart, before, after⟩ := id behind
      have gone : ¬ Holds look.after other c := fun holds => apart (still c other name holds held)
      have late : ∀ holder, Holds look.after holder c →
          ¬ [other, holder].Sublist look.after.keys := by
        intro holder holds
        rw [still c holder name holds held]
        exact after
      rw [get?_emitted_of_lost pods knows exclusive before gone late]
      exact iff_of_false (Option.some_ne_none value).symm fun bound => bound.2 behind
    · -- It comes earlier, or there is none.
      have front : ∀ other, other ≠ name → Holds look.before other c →
          [other, name].Sublist look.after.keys := by
        simpa using behind
      rw [get?_emitted_of_gained pods knows still held changed front, Option.some.injEq, eq_comm]
      exact (and_iff_left behind).symm
  · by_cases lost : ∃ name, look.before.get? name ≠ look.after.get? name ∧ Holds look.before name c
    · -- The holder before gives the block up. A node that holds it now would have changed.
      obtain ⟨name, changed, held⟩ := lost
      have free : ∀ holder, ¬ Holds look.after holder c := by
        intro holder holds
        by_cases same : look.before.get? holder = look.after.get? holder
        · have before : Holds look.before holder c := by
            rwa [Holds, same]
          exact changed (exclusive c holder name before held ▸ same)
        · exact gained ⟨holder, same, holds⟩
      rw [get?_emitted_of_lost pods knows exclusive held (free name)
        (fun holder holds => absurd holds (free holder))]
      refine iff_of_false (Option.some_ne_none value).symm ?_
      rintro ⟨holder, holds, _⟩
      exact free holder holds
    · -- Nobody that is announced has to do with the block.
      have idle : ∀ name, look.before.get? name ≠ look.after.get? name →
          ¬ Holds look.before name c ∧ ¬ Holds look.after name c := fun name changed =>
        ⟨fun held => lost ⟨name, changed, held⟩, fun held => gained ⟨name, changed, held⟩⟩
      rw [get?_emitted_of_kept pods knows idle, bound, bound_append_of_same]
      intro name held
      by_cases same : look.before.get? name = look.after.get? name
      · exact same
      · exact (held.elim (idle name same).1 (idle name same).2).elim

end Revoked

/-! ### Runs -/

/-- The ledger knows the state, and the delivered records leave each block as it is bound. -/
def Settled (config : ProcessorConfig) (looks : List (Look RegistryFault))
    (run : Watching Outlet) : Prop :=
  ∃ ledger deliveries, run.handled = Agent.outlet config ledger deliveries ∧
    Knows ledger run.watcher.state ∧
    ∀ c value, (Store.writeAll .empty deliveries.flatten).get? (.block c) = some value ↔
      Bound looks run.watcher.state c value

section Loaded

variable [Loader]

theorem Settled.next {config : ProcessorConfig} (pods : config.usePodBlocks = true)
    {looks : List (Look RegistryFault)} {run : Watching Outlet} (settled : Settled config looks run)
    (place : Place) (unfailed : ∀ f, (run.look Agent.registry.publish place).fault ≠
      some (.handler f)) (exclusive : Exclusive run.watcher.state)
    (still : Exclusive (run.look Agent.registry.publish place).after) :
    Settled config (looks ++ [run.look Agent.registry.publish place])
      (run.next Agent.registry.publish place) := by
  obtain ⟨ledger, deliveries, handled, knows, bound⟩ := settled
  have worked := run.handled_next Agent.registry.publish place
  rw [handled] at worked
  cases run.course_look Agent.registry.publish place with
  | idle unread told kept =>
    rw [told] at worked
    have state : (run.next Agent.registry.publish place).watcher.state = run.watcher.state := kept
    refine ⟨ledger, deliveries, worked, ?_, ?_⟩
    · rw [state]
      exact knows
    · intro c value
      rw [bound c value]
      refine (bound_append_of_same (run.look Agent.registry.publish place) ?_).symm
      intro name _
      exact congrArg (Table.get? · name) kept.symm
  | finished listing revision read told =>
    rw [told] at worked
    obtain ⟨later, same, given⟩ := Agent.foldl_publish config ledger deliveries
      (changes revision run.watcher.state (run.look Agent.registry.publish place).after)
    refine ⟨_, deliveries ++ later, worked.trans same, ?_, ?_⟩
    · exact knows.ledgerBehind_changes pods
    · intro c value
      rw [List.flatten_append, given, Store.writeAll_append]
      exact get?_emitted_iff_bound pods knows exclusive still revision value (bound c)
  | brokenOff listing revision read told kept f failed => exact absurd failed (unfailed f)

theorem Settled.behind {config : ProcessorConfig} (pods : config.usePodBlocks = true)
    {looks : List (Look RegistryFault)} {run : Watching Outlet} (settled : Settled config looks run)
    (places : List Place)
    (works : ∀ look ∈ run.looks Agent.registry.publish places,
      ∀ f, look.fault ≠ some (.handler f))
    (exclusive : Exclusive run.watcher.state)
    (still : ∀ look ∈ run.looks Agent.registry.publish places, Exclusive look.after) :
    Settled config (looks ++ run.looks Agent.registry.publish places)
      (run.behind Agent.registry.publish places) := by
  induction places generalizing looks run with
  | nil =>
    rw [Watching.looks, List.append_nil]
    exact settled
  | cons place rest ih =>
    rw [Watching.looks, List.forall_mem_cons] at works still
    have step := settled.next pods place works.1 exclusive still.1
    have all := ih step works.2 still.1 still.2
    rw [List.append_assoc] at all
    exact all

omit [Loader] in
theorem settled_start (config : ProcessorConfig) (path : Path) :
    Settled config [] (.start path ⟨Agent.plant config, []⟩) := by
  refine ⟨.empty, [], rfl, fun name => rfl, ?_⟩
  intro c value
  refine iff_of_false nofun ?_
  rintro ⟨name, held, _⟩
  exact not_holds_empty name c held

theorem Agent.publish_works (config : ProcessorConfig) (path : Path) (places : List Place) :
    ∀ look ∈ (Watching.start path ⟨Agent.plant config, []⟩).looks Agent.registry.publish places,
      ∀ f, look.fault ≠ some (.handler f) := by
  refine (Watching.forall_looks_of_works Agent.registry.publish
    (fun o => ∃ ledger deliveries, o = Agent.outlet config ledger deliveries) ?_
    (.start path ⟨Agent.plant config, []⟩) places ⟨.empty, [], rfl⟩).1
  rintro _ e ⟨ledger, deliveries, rfl⟩
  rw [Agent.publish_outlet]
  exact ⟨rfl, _, _, rfl⟩

/-! ### Main result -/

/-- **Who holds a block in the end.** Let the agent, publishing blocks, watch a path at which
anything may be found, such that no look leaves a block with two holders. No look fails on account
of the registry, and in the store of all delivered records a block has a value just if a node of the
watcher's state holds it; it is bound to that node, and it was not revoked. -/
theorem blocks_of_watching (config : ProcessorConfig) (pods : config.usePodBlocks = true)
    (path : Path) (places : List Place)
    (exclusive : ∀ look ∈
      (Watching.start path ⟨Agent.plant config, []⟩).looks Agent.registry.publish places,
        Exclusive look.after) :
    let looks := (Watching.start path ⟨Agent.plant config, []⟩).looks Agent.registry.publish places
    let run := (Watching.start path ⟨Agent.plant config, []⟩).behind Agent.registry.publish places
    (∀ look ∈ looks, ∀ f, look.fault ≠ some (.handler f)) ∧
      ∀ c value, (Store.writeAll .empty run.handled.deliveries.flatten).get? (.block c) =
          some value ↔
        ∃ name, Holds run.watcher.state name c ∧ value = .block ⟨c, hostAffinity name⟩ ∧
          ¬ Revoked looks name c := by
  have works := Agent.publish_works config path places
  obtain ⟨ledger, deliveries, handled, _, bound⟩ :=
    (settled_start config path).behind pods places works exclusive_empty exclusive
  refine ⟨works, ?_⟩
  rw [handled]
  exact bound

end Loaded

/-! ### A node that is renamed -/

namespace Sample

def blockOfA : StoredFile :=
  ⟨"\x7b\"nodes\":[\x7b\"name\":\"a\",\"pod_cidrs\":[\"10.0.0.0/24\"]\x7d]\x7d".toUTF8, "1"⟩

def blockOfB : StoredFile :=
  ⟨"\x7b\"nodes\":[\x7b\"name\":\"b\",\"pod_cidrs\":[\"10.0.0.0/24\"]\x7d]\x7d".toUTF8, "2"⟩

def block : IPNetwork := .v4 (Net.Block.of 0x0a000000#32 24)

def holder (name : String) : NodeTable :=
  Table.empty.put name { name, podBlocks := ["10.0.0.0/24"] }

theorem listingAt?_blockOfA :
    Watcher.listingAt? path (.file blockOfA) = some (⟨holder "a", []⟩, blockOfA.modified) := by
  apply Watcher.listingAt?_json
    "\x7b\"nodes\":[\x7b\"name\":\"a\",\"pod_cidrs\":[\"10.0.0.0/24\"]\x7d]\x7d"
    (d := .map [(.string "nodes", .list [.map [(.string "name", .string "a"),
      (.string "pod_cidrs", .list [.string "10.0.0.0/24"])]])])
  · decide +kernel
  · decide +kernel
  · cbv
  · decide +kernel

theorem listingAt?_blockOfB :
    Watcher.listingAt? path (.file blockOfB) = some (⟨holder "b", []⟩, blockOfB.modified) := by
  apply Watcher.listingAt?_json
    "\x7b\"nodes\":[\x7b\"name\":\"b\",\"pod_cidrs\":[\"10.0.0.0/24\"]\x7d]\x7d"
    (d := .map [(.string "nodes", .list [.map [(.string "name", .string "b"),
      (.string "pod_cidrs", .list [.string "10.0.0.0/24"])]])])
  · decide +kernel
  · decide +kernel
  · cbv
  · decide +kernel

def handoverText : String :=
  "\x7b\"nodes\":[\x7b\"name\":\"a\"\x7d,\x7b\"name\":\"b\",\"pod_cidrs\":[\"10.0.0.0/24\"]\x7d]\x7d"

def blockFromAToB : StoredFile := ⟨handoverText.toUTF8, "2"⟩

/-- The node that held the block is still there, in front of the one that holds it now. -/
def handedOver : NodeTable :=
  (Table.empty.put "a" { name := "a" }).put "b" { name := "b", podBlocks := ["10.0.0.0/24"] }

theorem listingAt?_blockFromAToB :
    Watcher.listingAt? path (.file blockFromAToB) =
      some (⟨handedOver, []⟩, blockFromAToB.modified) := by
  apply Watcher.listingAt?_json handoverText
    (d := .map [(.string "nodes", .list [.map [(.string "name", .string "a")],
      .map [(.string "name", .string "b"), (.string "pod_cidrs", .list [.string "10.0.0.0/24"])]])])
  · decide +kernel
  · decide +kernel
  · cbv
  · decide +kernel

theorem holds_block (name : String) : Holds (holder name) name block :=
  ⟨_, Table.get?_put_self _ _ _, "10.0.0.0/24", List.mem_singleton_self _, by decide⟩

theorem exclusive_holder (name : String) : Exclusive (holder name) := by
  have only {other : String} {c : IPNetwork} (held : Holds (holder name) other c) :
      name = other := by
    obtain ⟨node, present, _⟩ := held
    by_cases same : name = other
    · exact same
    · rw [holder, Table.get?_put_of_ne _ _ same] at present
      cases present
  intro c a b first second
  exact (only first).symm.trans (only second)

theorem eq_of_holds_handedOver {name : String} {c : IPNetwork} (held : Holds handedOver name c) :
    name = "b" := by
  obtain ⟨node, present, raw, given, -⟩ := held
  by_contra other
  rw [handedOver, Table.get?_put_of_ne _ _ (Ne.symm other)] at present
  -- The node in front has no blocks any more.
  by_cases first : "a" = name
  · subst first
    rw [Table.get?_put_self, Option.some.injEq] at present
    subst present
    cases given
  · rw [Table.get?_put_of_ne _ _ first] at present
    cases present

theorem holds_handedOver : Holds handedOver "b" block :=
  ⟨_, Table.get?_put_self _ _ _, "10.0.0.0/24", List.mem_singleton_self _, by decide⟩

theorem changed_handedOver : (holder "a").get? "b" ≠ handedOver.get? "b" := by
  decide +kernel

theorem sublist_handedOver : ["a", "b"].Sublist handedOver.keys := by
  decide +kernel

theorem exclusive_handedOver : Exclusive handedOver := fun _ _ _ first second =>
  (eq_of_holds_handedOver first).trans (eq_of_holds_handedOver second).symm

theorem after_blockOfA : ((Watching.start path ⟨Agent.plant {}, []⟩).look Agent.registry.publish
    (.file blockOfA)).after = holder "a" :=
  Watching.after_look_of_listing Agent.registry.publish (.start path ⟨Agent.plant {}, []⟩)
    listingAt?_blockOfA (Agent.publish_works {} path [.file blockOfA] _ List.mem_cons_self)

/-- What a second file leaves behind, once the first one gave the block to its node. -/
theorem after_second {f : StoredFile} {state : NodeTable}
    (read : Watcher.listingAt? path (.file f) = some (⟨state, []⟩, f.modified)) :
    (((Watching.start path ⟨Agent.plant {}, []⟩).next Agent.registry.publish
      (.file blockOfA)).look Agent.registry.publish (.file f)).after = state := by
  have found : Watcher.listingAt? ((Watching.start path ⟨Agent.plant {}, []⟩).next
      Agent.registry.publish (.file blockOfA)).watcher.path (.file f) =
        some (⟨state, []⟩, f.modified) := by
    rw [Watching.path_next]
    exact read
  exact Watching.after_look_of_listing Agent.registry.publish _ found
    (Agent.publish_works {} path [.file blockOfA, .file f] _
      (List.mem_cons_of_mem _ List.mem_cons_self))

theorem exclusive_second {f : StoredFile} {state : NodeTable}
    (read : Watcher.listingAt? path (.file f) = some (⟨state, []⟩, f.modified))
    (exclusive : Exclusive state) :
    ∀ look ∈ (Watching.start path ⟨Agent.plant {}, []⟩).looks Agent.registry.publish
      [.file blockOfA, .file f], Exclusive look.after := by
  simp only [Watching.looks, List.forall_mem_cons, after_blockOfA, after_second read]
  exact ⟨exclusive_holder "a", exclusive, nofun⟩

end Sample

/-- A block moves to a node behind the one that held it. -/
theorem blocks_of_watching_handover :
    ({} : ProcessorConfig).usePodBlocks = true ∧
      (∀ look ∈ (Watching.start Sample.path ⟨Agent.plant {}, []⟩).looks Agent.registry.publish
        [.file Sample.blockOfA, .file Sample.blockFromAToB], Exclusive look.after) ∧
      Holds (Sample.holder "a") "a" Sample.block ∧
      (Store.writeAll .empty ((Watching.start Sample.path ⟨Agent.plant {}, []⟩).behind
        Agent.registry.publish
          [.file Sample.blockOfA, .file Sample.blockFromAToB]).handled.deliveries.flatten).get?
            (.block Sample.block) = some (.block ⟨Sample.block, hostAffinity "b"⟩) := by
  have first := Sample.after_blockOfA
  have second := Sample.after_second Sample.listingAt?_blockFromAToB
  have exclusive := Sample.exclusive_second Sample.listingAt?_blockFromAToB
    Sample.exclusive_handedOver
  refine ⟨rfl, exclusive, Sample.holds_block "a",
    ((blocks_of_watching {} rfl Sample.path _ exclusive).2 _ _).2 ⟨"b", ?_, rfl, ?_⟩⟩
  · simp only [Watching.behind, Watching.state_next, second]
    exact Sample.holds_handedOver
  · -- The node that held the block stands in front, so its delete comes before the assignment.
    rw [Watching.looks_pair, revoked_append_of_ne]
    · rintro ⟨other, -, held, behind⟩
      rw [Watching.before_look, Watching.state_next, first] at held
      have same := Sample.exclusive_holder "a" _ _ _ held (Sample.holds_block "a")
      subst same
      rw [second] at behind
      exact behind Sample.sublist_handedOver
    · rw [Watching.before_look, Watching.state_next, first, second]
      exact Sample.changed_handedOver

/-- A renamed node holds its block, which nobody else does, and yet the store has lost it: the
delete of the old name comes behind the assignment to the new one. -/
theorem renamed_node_loses_block :
    (∀ look ∈ (Watching.start Sample.path ⟨Agent.plant {}, []⟩).looks Agent.registry.publish
        [.file Sample.blockOfA, .file Sample.blockOfB], Exclusive look.after) ∧
      Holds ((Watching.start Sample.path ⟨Agent.plant {}, []⟩).behind Agent.registry.publish
        [.file Sample.blockOfA, .file Sample.blockOfB]).watcher.state "b" Sample.block ∧
      (Store.writeAll .empty ((Watching.start Sample.path ⟨Agent.plant {}, []⟩).behind
        Agent.registry.publish
          [.file Sample.blockOfA, .file Sample.blockOfB]).handled.deliveries.flatten).get?
            (.block Sample.block) = none := by
  have first := Sample.after_blockOfA
  have second := Sample.after_second Sample.listingAt?_blockOfB
  have exclusive := Sample.exclusive_second Sample.listingAt?_blockOfB (Sample.exclusive_holder "b")
  refine ⟨exclusive, ?_, ?_⟩
  · simp only [Watching.behind, Watching.state_next, second]
    exact Sample.holds_block "b"
  · obtain ⟨ledger, deliveries, handled, _, bound⟩ :=
      (settled_start {} Sample.path).behind rfl _ (Agent.publish_works {} Sample.path _)
        exclusive_empty exclusive
    rw [handled, Option.eq_none_iff_forall_ne_some]
    intro value found
    obtain ⟨name, held, _, kept⟩ := (bound _ _).1 found
    simp only [Watching.behind, Watching.state_next, second] at held
    have same : name = "b" := Sample.exclusive_holder "b" _ _ _ held (Sample.holds_block "b")
    subst same
    -- The second look changed the new name and found the block with the old one.
    have changed : (Sample.holder "a").get? "b" ≠ (Sample.holder "b").get? "b" := by
      decide +kernel
    rw [List.nil_append, Watching.looks_pair, revoked_append_of_ne] at kept
    · apply kept
      refine ⟨"a", by decide, ?_, ?_⟩
      · rw [Watching.before_look, Watching.state_next, first]
        exact Sample.holds_block "a"
      · rw [second]
        decide +kernel
    · rw [Watching.before_look, Watching.state_next, first, second]
      exact changed

end NodeDataplane
