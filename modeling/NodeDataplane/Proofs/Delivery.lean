import NodeDataplane.Registry

/-!
# What sinks are handed

The sinks of a registry work on one list, one after the other. A sink that fails ends the delivery,
and what a sink takes out of the list is missing for all later ones and for the caller.

## Main result

`Registry.received_handle`: which sinks an event reaches and what each of them is handed, what the
caller gets, and when all of them get the list that the processor produced.

## Proof strategy

What a sink is handed is told by the sinks in front of it (`leftBehind`), and so is whether it is
reached (`NoneFails`). Both unfold along the list of sinks as the delivery does.
-/

namespace NodeDataplane

/-- What is left of a list behind sinks that work on it one after the other. -/
def leftBehind (sinks : List Sink) (records : List Record) : List Record :=
  sinks.foldl (fun records sink => sink.leaves records) records

/-- Whether none of the first `count` sinks fails on what it is handed. -/
def NoneFails (sinks : List Sink) (records : List Record) (count : Nat) : Prop :=
  ∀ i sink, i < count → sinks[i]? = some sink →
    sink.fails (leftBehind (sinks.take i) records) = false

theorem noneFails_zero (sinks : List Sink) (records : List Record) : NoneFails sinks records 0 :=
  fun _ _ below => absurd below (Nat.not_lt_zero _)

theorem noneFails_cons_succ {sink : Sink} {rest : List Sink} {records : List Record} {count : Nat} :
    NoneFails (sink :: rest) records (count + 1) ↔
      sink.fails records = false ∧ NoneFails rest (sink.leaves records) count := by
  constructor
  · intro none_fails
    refine ⟨none_fails 0 sink (Nat.succ_pos count) rfl, fun i other below found => ?_⟩
    exact none_fails (i + 1) other (Nat.succ_lt_succ below) found
  · rintro ⟨works, none_fails⟩ i other below found
    cases i with
    | zero =>
      cases found
      exact works
    | succ i => exact none_fails i other (Nat.lt_of_succ_lt_succ below) found

/-! ### Delivery -/

/-- A sink is reached if none in front of it fails, and is handed what those have left. -/
theorem received_deliver_iff {sinks : List Sink} {records given : List Record} {i : Nat} :
    (deliver sinks records).received[i]? = some given ↔
      i < sinks.length ∧ NoneFails sinks records i ∧
        given = leftBehind (sinks.take i) records := by
  induction sinks generalizing records i with
  | nil => simp [deliver]
  | cons sink rest ih =>
    cases i with
    | zero =>
      -- The first sink is always reached.
      have first : (deliver (sink :: rest) records).received[0]? = some records := by
        rw [deliver]
        split <;> rfl
      rw [first, Option.some.injEq]
      simp [noneFails_zero, leftBehind, eq_comm]
    | succ i =>
      rw [noneFails_cons_succ, List.take_succ_cons, leftBehind, List.foldl_cons, List.length_cons,
        Nat.succ_lt_succ_iff]
      cases fails : sink.fails records with
      | true => simp [deliver_cons_of_fails rest fails]
      | false =>
        rw [deliver, if_neg (by simp [fails]), List.getElem?_cons_succ, ih]
        simp [leftBehind]

theorem failed_deliver_iff {sinks : List Sink} {records : List Record} :
    (deliver sinks records).failed = false ↔ NoneFails sinks records sinks.length := by
  induction sinks generalizing records with
  | nil => exact iff_of_true rfl (noneFails_zero [] records)
  | cons sink rest ih =>
    rw [List.length_cons, noneFails_cons_succ]
    cases fails : sink.fails records with
    | true => simp [deliver_cons_of_fails rest fails]
    | false =>
      rw [deliver, if_neg (by simp [fails])]
      simpa using ih

theorem left_deliver {sinks : List Sink} {records : List Record}
    (works : NoneFails sinks records sinks.length) :
    (deliver sinks records).left = leftBehind sinks records := by
  induction sinks generalizing records with
  | nil => rfl
  | cons sink rest ih =>
    rw [List.length_cons, noneFails_cons_succ] at works
    rw [deliver, if_neg (by simp [works.1])]
    exact ih works.2

/-! ### Sinks that leave the list alone -/

/-- Whether each of some sinks keeps a list as it is and does not fail on it. -/
def AllKeep (sinks : List Sink) (records : List Record) : Prop :=
  ∀ sink ∈ sinks, sink.leaves records = records ∧ sink.fails records = false

theorem leftBehind_of_allKeep {sinks : List Sink} {records : List Record}
    (keep : AllKeep sinks records) : leftBehind sinks records = records := by
  induction sinks with
  | nil => rfl
  | cons sink rest ih =>
    rw [AllKeep, List.forall_mem_cons] at keep
    rw [leftBehind, List.foldl_cons, keep.1.1]
    exact ih keep.2

theorem noneFails_of_allKeep {sinks : List Sink} {records : List Record} {count : Nat}
    (keep : AllKeep (sinks.take count) records) : NoneFails sinks records count := by
  intro i sink below found
  have early : sink ∈ sinks.take count :=
    List.mem_of_getElem? ((List.getElem?_take_of_lt below).trans found)
  have before : AllKeep (sinks.take i) records := fun other member =>
    keep other (List.take_subset_take_left sinks (Nat.le_of_lt below) member)
  rw [leftBehind_of_allKeep before]
  exact (keep sink early).2

/-! ### Main result -/

namespace Registry

theorem value_handle_of_produced {registry : Registry} {plant : Plant} {event : Record}
    {name kind : String} {worker : Nat} {production : Logged Production}
    (routed : registry.route event = .ok (name, kind, worker))
    (produced : plant.produce worker event = .ok production) :
    (registry.handle plant event).value =
      let delivery := deliver registry.sinks production.value.records
      ⟨production.value.plant, delivery.received,
        if delivery.failed then .error .sink else .ok delivery.left⟩ := by
  simp only [handle, routed, produced, Logged.value_bind, Logged.value_pure]

/-- **Every sink gets what those in front of it have left.** Let a processor produce records for an
event, with failures of fields or without, and let any sinks fail or change the list that they are
handed. The sinks are called in the order in which they were added, each once, up to the first one
that fails; a sink is handed what is left of the one list behind all sinks in front of it, and
whatever those behind it do has no part in it. If no sink fails the caller gets what the last one
left, and else the failure. So a sink is handed the list as it was produced if no sink in front of
it fails or changes it, and where no sink does either, all of them and the caller get this list. -/
theorem received_handle {registry : Registry} {plant : Plant} {event : Record}
    {name kind : String} {worker : Nat} {production : Logged Production}
    (routed : registry.route event = .ok (name, kind, worker))
    (produced : plant.produce worker event = .ok production) :
    let sinks := registry.sinks
    let records := production.value.records
    let handling := (registry.handle plant event).value
    (∀ i given, handling.received[i]? = some given ↔
      i < sinks.length ∧ NoneFails sinks records i ∧
        given = leftBehind (sinks.take i) records) ∧
      (NoneFails sinks records sinks.length → handling.answer = .ok (leftBehind sinks records)) ∧
      (¬ NoneFails sinks records sinks.length → handling.answer = .error .sink) ∧
      (∀ i, i < sinks.length → AllKeep (sinks.take i) records →
        handling.received[i]? = some records) ∧
      (AllKeep sinks records →
        handling.received = List.replicate sinks.length records ∧
          handling.answer = .ok records) := by
  intro sinks records handling
  have handled : handling = _ := value_handle_of_produced routed produced
  rw [handled]
  refine ⟨fun i given => received_deliver_iff, ?_, ?_, ?_, ?_⟩
  · intro works
    have unfailed : (deliver sinks records).failed = false := failed_deliver_iff.2 works
    rw [← left_deliver works]
    exact if_neg (by rw [unfailed]; exact Bool.false_ne_true)
  · intro troubled
    have failed : (deliver sinks records).failed = true := by
      rw [← Bool.not_eq_false, failed_deliver_iff]
      exact troubled
    exact if_pos failed
  · intro i below keep
    exact received_deliver_iff.2
      ⟨below, noneFails_of_allKeep keep, (leftBehind_of_allKeep keep).symm⟩
  · intro keep
    have delivered := deliver_of_keeping (fun sink member => (keep sink member).1)
      fun sink member => (keep sink member).2
    simp only [sinks, records] at delivered
    rw [delivered]
    exact ⟨rfl, rfl⟩

/-! ### Sinks that get in each other's way -/

namespace Sample

/-- A registry with one processor of nodes. -/
def registryWith (sinks : List Sink) : Registry := ⟨Table.empty.put nodeKind 0, sinks⟩

def plant : Plant := ⟨[.empty], [⟨.node {} 0, 0⟩]⟩

/-- A node with an address that is none. -/
def event : NodeEvent := ⟨"a", some { name := "a", vxlanTunnelAddress4 := some "nope" }, "1"⟩

def production : Logged Production := do
  let outcome ← Processor.outcomeOf {} (plant.ledger 0) event
  return ⟨outcome.records, outcome.failures, plant.setLedger 0 outcome.ledger⟩

theorem produce_event : plant.produce 0 event.toRecord = .ok production :=
  Plant.produce_of_node rfl event

theorem records_production_ne_nil : production.value.records ≠ [] := by
  decide +kernel

end Sample

open Sample

/-- The first of three sinks takes everything out of the list, and the second one fails. -/
theorem received_handle_of_draining_sink :
    let sinks : List Sink := [.draining, .failing, .recording]
    let records := Sample.production.value.records
    let handling := ((registryWith sinks).handle Sample.plant event.toRecord).value
    (registryWith sinks).route event.toRecord = .ok ("a", nodeKind, 0) ∧
      Sample.plant.produce 0 event.toRecord = .ok Sample.production ∧
      Sample.production.value.failures.map (·.field) = ["ipv4_vxlan_tunnel_addr"] ∧
      handling.received[0]? = some records ∧ handling.received[1]? = some [] ∧
      handling.received[2]? = none ∧ handling.answer = .error .sink := by
  intro sinks records handling
  have routed : (registryWith sinks).route event.toRecord = .ok ("a", nodeKind, 0) := rfl
  obtain ⟨received, -, failed, first, -⟩ := received_handle routed produce_event
  have second : NoneFails sinks records 1 := by
    intro i sink below found
    obtain rfl : i = 0 := Nat.lt_one_iff.1 below
    cases found
    rfl
  have troubled {count : Nat} (behind : 1 < count) : ¬ NoneFails sinks records count := fun works =>
    Bool.noConfusion (works 1 .failing behind rfl)
  refine ⟨routed, produce_event, by decide +kernel, first 0 (by decide) nofun, ?_, ?_, ?_⟩
  · exact (received 1 []).2 ⟨by decide, second, rfl⟩
  · rw [Option.eq_none_iff_forall_ne_some]
    intro given found
    exact troubled (by decide) ((received 2 given).1 found).2.1
  · exact failed (troubled (by decide))

/-- A sink behind one that empties the list is handed nothing, though records were produced; and one
behind a sink that fails is not called at all. -/
theorem sinks_in_the_way :
    let records := Sample.production.value.records
    let handledBy (sinks : List Sink) :=
      ((registryWith sinks).handle Sample.plant event.toRecord).value
    records ≠ [] ∧
      (handledBy [.draining, .recording]).received = [records, []] ∧
      (handledBy [.draining, .recording]).answer = .ok [] ∧
      (handledBy [.failing, .recording]).received = [records] := by
  intro records handledBy
  have handled (sinks : List Sink) : handledBy sinks = _ :=
    value_handle_of_produced rfl produce_event
  refine ⟨records_production_ne_nil, ?_, ?_, ?_⟩ <;> rw [handled] <;> rfl

end Registry

end NodeDataplane
