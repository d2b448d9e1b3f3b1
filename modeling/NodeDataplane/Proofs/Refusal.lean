import NodeDataplane.Proofs.Attempt

/-!
# What is refused

A processor refuses an event that is about no node, and no other one. Whatever the texts of a node
are, it gives all records of the node, and an event that it refuses leaves no trace.

## Main result

`refused_exactly`: the steps of the work break off on an event that is about no node, before
anything is done, and otherwise end with all records.

## Proof strategy

Every event is that of a node, or there is one reason to refuse it (`eq_toRecord_or_refusedFor`). In
the second case the first step breaks off, which looks at the event alone. In the first case no step
does.
-/

namespace NodeDataplane

/-! ### Events that are about no node -/

def Key.IsNode (key : Key) : Prop := ∃ name, key = .resource name nodeKind

def Value.IsNode (value : Value) : Prop := ∃ node, value = .node node

/-- What keeps an event from being one of a node. A value is only looked at behind the key of a
node. -/
inductive Record.RefusedFor (event : Record) : EventFault → Prop
  | key (foreign : ¬ event.key.IsNode) : RefusedFor event (.keyMismatch event.key)
  | value {value : Value} (node : event.key.IsNode) (given : event.value = some value)
      (foreign : ¬ value.IsNode) : RefusedFor event (.valueMismatch value.typeName)

namespace NodeEvent

theorem ofRecord_of_foreign_key {event : Record} (foreign : ¬ event.key.IsNode) :
    ofRecord event = .error (.keyMismatch event.key) := by
  obtain ⟨key, value, revision⟩ := event
  cases key with
  | resource name kind =>
    have other : kind ≠ nodeKind := fun same => foreign ⟨name, by rw [same]⟩
    simp only [ofRecord, if_pos other]
  | _ => rfl

theorem ofRecord_of_foreign_value {event : Record} {value : Value} (node : event.key.IsNode)
    (given : event.value = some value) (foreign : ¬ value.IsNode) :
    ofRecord event = .error (.valueMismatch value.typeName) := by
  obtain ⟨key, _, revision⟩ := event
  obtain ⟨name, rfl⟩ := node
  cases given
  cases value with
  | node node => exact absurd ⟨node, rfl⟩ foreign
  | _ => rfl

/-- Every event is that of a node, or there is one reason to refuse it. -/
theorem eq_toRecord_or_refusedFor (event : Record) :
    (∃ e : NodeEvent, event = e.toRecord) ∨
      ∃ fault, event.RefusedFor fault ∧ ofRecord event = .error fault := by
  -- The cases come in the order of the checks: the key first, then the value.
  by_cases key : event.key.IsNode
  · cases given : event.value with
    | none =>
      obtain ⟨name, key⟩ := key
      exact .inl ⟨⟨name, none, event.revision⟩, by cases event; simp_all [toRecord]⟩
    | some value =>
      by_cases node : value.IsNode
      · obtain ⟨name, key⟩ := key
        obtain ⟨node, rfl⟩ := node
        exact .inl ⟨⟨name, some node, event.revision⟩, by cases event; simp_all [toRecord]⟩
      · exact .inr ⟨_, .value key given node, ofRecord_of_foreign_value key given node⟩
  · exact .inr ⟨_, .key key, ofRecord_of_foreign_key key⟩

theorem ofRecord_eq_error_iff {event : Record} {fault : EventFault} :
    ofRecord event = .error fault ↔ event.RefusedFor fault := by
  constructor
  · intro refused
    rcases eq_toRecord_or_refusedFor event with ⟨e, rfl⟩ | ⟨other, why, same⟩
    · rw [e.ofRecord_toRecord] at refused
      cases refused
    · rw [refused] at same
      cases same
      exact why
  · rintro (⟨foreign⟩ | ⟨node, given, foreign⟩)
    · exact ofRecord_of_foreign_key foreign
    · exact ofRecord_of_foreign_value node given foreign

/-- An event is refused for one reason. -/
theorem refusedFor_unique {event : Record} {fault other : EventFault}
    (first : event.RefusedFor fault) (second : event.RefusedFor other) : fault = other :=
  Except.error.inj ((ofRecord_eq_error_iff.2 first).symm.trans (ofRecord_eq_error_iff.2 second))

theorem not_refusedFor_toRecord (e : NodeEvent) (fault : EventFault) :
    ¬ e.toRecord.RefusedFor fault := by
  rw [← ofRecord_eq_error_iff, e.ofRecord_toRecord]
  nofun

end NodeEvent

/-- The blocks of the node that a record tells of. -/
def Record.podBlocks (r : Record) : List String :=
  match r.value with
  | some (.node node) => node.podBlocks
  | _ => []

theorem NodeEvent.podBlocks_toRecord (e : NodeEvent) :
    e.toRecord.podBlocks = e.node.elim [] (·.podBlocks) := by
  obtain ⟨name, node, revision⟩ := e
  cases node <;> rfl

namespace Attempt

section Keys

variable {α : Type} (text : α → Option String) (e : NodeEvent) (blocks : List α)

/-- The keys of the records of blocks. A block without a text, or with one that writes no network,
has no record. -/
def blockKeys : List Key :=
  blocks.filterMap fun block => (Field.parse .cidr (text block) none).value?.map .block

theorem map_key_deletes : (deletes text e blocks).map (·.key) = blockKeys text blocks := by
  rw [deletes, blockKeys, List.map_filterMap]
  apply List.filterMap_congr
  intro block _
  cases h : (Field.parse .cidr (text block) none).value? <;> simp [deleteOf, h]

theorem map_key_assignments : (assignments text e blocks).map (·.key) = blockKeys text blocks := by
  rw [assignments, blockKeys, List.map_filterMap]
  apply List.filterMap_congr
  intro block _
  cases h : (Field.parse .cidr (text block) none).value? <;> simp [assignmentOf, h]

end Keys

section Ends

variable {α : Type} [DecidableEq α] (text : α → Option String) (config : ProcessorConfig)
  (given : List α) (held : Table String (List α))

theorem run_process_of_refused {event : Record} {fault : EventFault}
    (refused : event.RefusedFor fault) :
    run (process text config event given) held = (.error (.event fault), held) := by
  have checked : (check event : Attempt α _) = throw (.event fault) := by
    rw [check, NodeEvent.ofRecord_eq_error_iff.2 refused]
  -- The check is the first step, so nothing was done to the ledger.
  rw [process, checked, run_bind, run_throw]

/-- The work on an event of a node ends with all its records. -/
theorem exists_run_process_eq_ok (e : NodeEvent) :
    let current := if e.toRecord.value.isNone then [] else firstSeen given
    let gone := goneOf held e.name current
    ∃ records failure behind,
      run (process text config e.toRecord given) held = (.ok (records, failure), behind) ∧
      records.map (·.key) = Processor.settingOrder config e.name ++
        if config.usePodBlocks then blockKeys text gone ++ blockKeys text current else [] := by
  intro current gone
  -- An event without a value is that of a node that is gone.
  have same : current = currentOf e given := by
    simp only [current, currentOf, NodeEvent.toRecord, Option.isNone_map]
  refine ⟨_, _, _, run_process_toRecord text config e given held, ?_⟩
  rw [List.map_append, Processor.map_key_nodeRecords, Processor.settingKeys_eq, ← same]
  split
  next => rw [List.map_append, map_key_deletes, map_key_assignments]
  next => rfl

end Ends

end Attempt

namespace Processor

open Attempt (blockKeys goneOf)

theorem answer_eq_error_iff {config : ProcessorConfig} {ledger : BlockLedger} {event : Record}
    {fault : EventFault} :
    answer config ledger event = .error fault ↔ event.RefusedFor fault := by
  rw [← NodeEvent.ofRecord_eq_error_iff, answer, process]
  cases NodeEvent.ofRecord event with
  | error other => simp [Except.map]
  | ok e => simp [Except.map]

/-- The steps on texts come to the answer of a processor, also where it refuses the event. -/
theorem run_process_podBlocks (config : ProcessorConfig) (ledger : BlockLedger) (event : Record) :
    Attempt.run (Attempt.process some config event event.podBlocks) ledger.blocks =
      match answer config ledger event with
      | .error fault => (.error (.event fault), ledger.blocks)
      | .ok o => (.ok (o.records, NodeFailure.of? event.key.name o.failures), o.ledger.blocks) := by
  rcases NodeEvent.eq_toRecord_or_refusedFor event with ⟨e, rfl⟩ | ⟨fault, refused, -⟩
  · rw [answer_toRecord, NodeEvent.podBlocks_toRecord, Attempt.run_process_texts]
    rfl
  · rw [answer_eq_error_iff.2 refused, Attempt.run_process_of_refused some config _ _ refused]

/-- **Only what is about no node is refused, and it leaves no trace.** A processor refuses an event
exactly for a key that is not that of a node, or behind such a key for a value that is given and is
no node; and its answers are what the steps of the work come to. The steps themselves, with any
blocks, break off for no other reason, and then with the ledger as it was before the event: not on a
text that no reader can read, nor on a block without a text, nor on an error without failures. Where
they do not break off, they come to a record for every setting and for every block that has a text
which writes a network. -/
theorem refused_exactly (config : ProcessorConfig) :
    (∀ (ledger : BlockLedger) (event : Record),
      (∀ fault, answer config ledger event = .error fault ↔ event.RefusedFor fault) ∧
      Attempt.run (Attempt.process some config event event.podBlocks) ledger.blocks =
        match answer config ledger event with
        | .error fault => (.error (.event fault), ledger.blocks)
        | .ok o => (.ok (o.records, NodeFailure.of? event.key.name o.failures), o.ledger.blocks)) ∧
    ∀ {α : Type} [DecidableEq α] (text : α → Option String) (event : Record) (given : List α)
      (held : Table String (List α)),
      let came := Attempt.run (Attempt.process text config event given) held
      let current := if event.value.isNone then [] else firstSeen given
      let gone := goneOf held event.key.name current
      (∀ why, came.1 = .error why ↔ ∃ fault, event.RefusedFor fault ∧ why = .event fault) ∧
      (∀ why, came.1 = .error why → came.2 = held) ∧
      ((∀ fault, ¬ event.RefusedFor fault) → ∃ records failure,
        came.1 = .ok (records, failure) ∧
        records.map (·.key) = settingOrder config event.key.name ++
          if config.usePodBlocks then blockKeys text gone ++ blockKeys text current else []) := by
  refine ⟨fun ledger event =>
    ⟨fun _ => answer_eq_error_iff, run_process_podBlocks config ledger event⟩, ?_⟩
  intro α _ text event given held came current gone
  rcases NodeEvent.eq_toRecord_or_refusedFor event with ⟨e, rfl⟩ | ⟨fault, refused, -⟩
  · have accepted := e.not_refusedFor_toRecord
    obtain ⟨records, failure, behind, ended, keys⟩ :=
      Attempt.exists_run_process_eq_ok text config given held e
    have ended : came = (.ok (records, failure), behind) := ended
    rw [ended]
    refine ⟨fun why => iff_of_false nofun ?_, nofun, fun _ => ⟨records, failure, rfl, keys⟩⟩
    rintro ⟨fault, refused, -⟩
    exact accepted fault refused
  · have broken : came = (.error (.event fault), held) :=
      Attempt.run_process_of_refused text config given held refused
    rw [broken]
    refine ⟨fun why => ?_, fun _ _ => rfl, fun accepted => absurd refused (accepted fault)⟩
    constructor
    · rintro ⟨⟩
      exact ⟨fault, refused, rfl⟩
    · rintro ⟨other, also, rfl⟩
      rw [NodeEvent.refusedFor_unique refused also]

/-- A block without a text stands among blocks with one. It has no record and no failure, and the
ledger holds it like the others. -/
example :
    let given := [none, some "10.0.0.0/24", some "x"]
    let came := Attempt.run (Attempt.process id {}
      (NodeEvent.toRecord ⟨"a", some { name := "a" }, "1"⟩) given) .empty
    came.1.toOption.map (fun ended => ended.2.map (·.failures.map (·.field))) =
        some (some ["pod_cidrs[x]"]) ∧
      came.2.get? "a" = some given := by
  decide +kernel

end Processor

end NodeDataplane
