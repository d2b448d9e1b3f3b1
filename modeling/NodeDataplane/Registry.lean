import NodeDataplane.Processor

/-!
# Dispatching events

A registry binds kinds of resources to processors and knows the sinks that records go to. An event
goes to the processor bound to its kind; the records it gives go to every sink in turn.

Processors work on ledgers, and several processors may share one. The `Plant` holds every ledger and
every processor there is; a processor names its ledger by number. The registry itself is only
routing: no event changes it.

The sinks are handed one list, one after the other: what a sink leaves of it is what the next one
gets, and what is returned in the end. A sink that fails keeps the records from all later ones.
-/

namespace NodeDataplane

/-! ### Processors and their ledgers -/

inductive Behaviour where
  /-- Turns node events into records, on the ledger with a number. -/
  | node (config : ProcessorConfig) (ledger : Nat)
  | recording
  | rejecting
  deriving DecidableEq, Repr

structure Worker where
  behaviour : Behaviour
  starts : Nat
  deriving DecidableEq, Repr

structure Plant where
  ledgers : List BlockLedger
  workers : List Worker
  deriving DecidableEq, Repr

namespace Plant

def empty : Plant := ⟨[], []⟩

instance : Inhabited Plant := ⟨empty⟩

def ledger (plant : Plant) (number : Nat) : BlockLedger := plant.ledgers.getD number .empty

def setLedger (plant : Plant) (number : Nat) (ledger : BlockLedger) : Plant :=
  { plant with ledgers := plant.ledgers.set number ledger }

theorem ledger_setLedger {plant : Plant} {number : Nat} (there : number < plant.ledgers.length)
    (ledger : BlockLedger) : (plant.setLedger number ledger).ledger number = ledger := by
  simp [Plant.ledger, setLedger, there]

/-- Without a ledger of that number, nothing is kept. -/
theorem setLedger_of_length_le {plant : Plant} {number : Nat}
    (missing : plant.ledgers.length ≤ number) (ledger : BlockLedger) :
    plant.setLedger number ledger = plant := by
  rw [setLedger, List.set_eq_of_length_le missing]

theorem setLedger_setLedger (plant : Plant) (number : Nat) (first second : BlockLedger) :
    (plant.setLedger number first).setLedger number second = plant.setLedger number second := by
  simp [setLedger]

/-- Add a ledger; its number is the number of ledgers there were. -/
def addLedger (plant : Plant) (ledger : BlockLedger) : Plant :=
  { plant with ledgers := plant.ledgers ++ [ledger] }

/-- Add a processor; its number is the number of processors there were. -/
def addWorker (plant : Plant) (behaviour : Behaviour) : Plant :=
  { plant with workers := plant.workers ++ [⟨behaviour, 0⟩] }

/-- Add a processor of node events. The ledger that is offered is shared only if something is in
it; otherwise the processor gets a new ledger of its own. -/
def addNodeWorker (plant : Plant) (config : ProcessorConfig) (offered : Option Nat) : Plant :=
  match offered.filter fun number => !(plant.ledger number).isEmpty with
  | some number => plant.addWorker (.node config number)
  | none => (plant.addLedger .empty).addWorker (.node config plant.ledgers.length)

theorem addNodeWorker_of_filled {plant : Plant} {number : Nat} (config : ProcessorConfig)
    (h : (plant.ledger number).isEmpty = false) :
    plant.addNodeWorker config (some number) = plant.addWorker (.node config number) := by
  simp [addNodeWorker, Option.filter_some, h]

theorem addNodeWorker_of_isEmpty {plant : Plant} {number : Nat} (config : ProcessorConfig)
    (h : (plant.ledger number).isEmpty = true) :
    plant.addNodeWorker config (some number) =
      (plant.addLedger .empty).addWorker (.node config plant.ledgers.length) := by
  simp [addNodeWorker, Option.filter_some, h]

@[simp] theorem ledger_addWorker (plant : Plant) (behaviour : Behaviour) (number : Nat) :
    (plant.addWorker behaviour).ledger number = plant.ledger number := rfl

@[simp] theorem ledger_addLedger_self (plant : Plant) (ledger : BlockLedger) :
    (plant.addLedger ledger).ledger plant.ledgers.length = ledger := by
  simp [addLedger, Plant.ledger]

theorem ledger_addLedger_of_lt {plant : Plant} {number : Nat} (ledger : BlockLedger)
    (h : number < plant.ledgers.length) :
    (plant.addLedger ledger).ledger number = plant.ledger number := by
  simp [addLedger, Plant.ledger, List.getElem?_append_left h]

def ledgerOf? (plant : Plant) (worker : Nat) : Option Nat :=
  match plant.workers[worker]? with
  | some { behaviour := .node _ number, .. } => some number
  | _ => none

def workerLedger (plant : Plant) (worker : Nat) : BlockLedger :=
  (plant.ledgerOf? worker).elim .empty plant.ledger

end Plant

inductive WorkerFault where
  | event (fault : EventFault)
  | rejected (key : Key)
  deriving DecidableEq, Repr

/-- What a processor gives for an event: the records, the failures of fields, and the plant. -/
structure Production where
  records : List Record
  failures : List FieldFailure
  plant : Plant
  deriving DecidableEq, Repr

def Plant.produce (plant : Plant) (worker : Nat) (event : Record) :
    Except WorkerFault (Logged Production) :=
  match plant.workers[worker]? with
  | some { behaviour := .node config number, .. } =>
    match Processor.process config (plant.ledger number) event with
    | .error fault => .error (.event fault)
    | .ok outcome => .ok do
      let outcome ← outcome
      return ⟨outcome.records, outcome.failures, plant.setLedger number outcome.ledger⟩
  | some { behaviour := .rejecting, .. } => .error (.rejected event.key)
  -- A recording processor hands the event on.
  | _ => .ok (pure ⟨[event], [], plant⟩)

theorem Plant.produce_of_node {plant : Plant} {worker number starts : Nat}
    {config : ProcessorConfig} (works : plant.workers[worker]? = some ⟨.node config number, starts⟩)
    (e : NodeEvent) : plant.produce worker e.toRecord = .ok do
      let outcome ← Processor.outcomeOf config (plant.ledger number) e
      return ⟨outcome.records, outcome.failures, plant.setLedger number outcome.ledger⟩ := by
  have processed : Processor.process config (plant.ledger number) e.toRecord =
      .ok (Processor.outcomeOf config (plant.ledger number) e) := by
    rw [Processor.process, NodeEvent.ofRecord_toRecord]
    rfl
  simp only [produce, works, processed]

def Plant.start (plant : Plant) (worker : Nat) : Logged Plant :=
  match plant.workers[worker]? with
  | none => pure plant
  | some w =>
    ⟨{ plant with workers := plant.workers.set worker { w with starts := w.starts + 1 } },
      match w.behaviour with
      | .node _ _ => Processor.startingLog
      | _ => []⟩

/-! ### Sinks -/

/-- A sink, by what it leaves of the list it is handed and whether it fails. -/
structure Sink where
  leaves : List Record → List Record
  fails : List Record → Bool

namespace Sink

def recording : Sink := ⟨id, fun _ => false⟩

def failing : Sink := ⟨id, fun _ => true⟩

def draining : Sink := ⟨fun _ => [], fun _ => false⟩

end Sink

/-- What was delivered to the sinks that were reached, what is left of the list in the end, and
whether a sink failed. -/
structure Delivery where
  received : List (List Record)
  left : List Record
  failed : Bool
  deriving DecidableEq, Repr

def deliver : List Sink → List Record → Delivery
  | [], records => ⟨[], records, false⟩
  | sink :: rest, records =>
    -- The sinks behind one that fails are not reached.
    if sink.fails records then ⟨[records], sink.leaves records, true⟩
    else
      let later := deliver rest (sink.leaves records)
      { later with received := records :: later.received }

/-- Sinks that keep the list as it is and do not fail are all handed the same. -/
theorem deliver_of_keeping {sinks : List Sink} {records : List Record}
    (keeps : ∀ sink ∈ sinks, sink.leaves records = records)
    (works : ∀ sink ∈ sinks, sink.fails records = false) :
    deliver sinks records = ⟨List.replicate sinks.length records, records, false⟩ := by
  induction sinks with
  | nil => rfl
  | cons sink rest ih =>
    rw [List.forall_mem_cons] at keeps works
    rw [deliver, if_neg (by simp [works.1]), keeps.1, ih keeps.2 works.2]
    rfl

theorem deliver_cons_of_fails {sink : Sink} {records : List Record} (rest : List Sink)
    (h : sink.fails records = true) :
    deliver (sink :: rest) records = ⟨[records], sink.leaves records, true⟩ := by
  rw [deliver, if_pos h]

/-! ### The registry -/

/-- Which processor is bound to which kind, and the sinks in the order in which they were added. -/
structure Registry where
  bindings : Table String Nat
  sinks : List Sink

inductive RegistryFault where
  | alreadyRegistered (kind : String)
  | unsupportedKey (key : Key)
  | unboundKind (kind : String)
  | worker (fault : WorkerFault)
  | sink
  deriving DecidableEq, Repr

namespace RegistryFault

def message : RegistryFault → String
  | alreadyRegistered kind => "processor for kind '" ++ kind ++ "' already registered"
  | unsupportedKey key => "Unsupported key type: <class '" ++ key.className ++ "'>"
  | unboundKind kind => "no processor registered for kind '" ++ kind ++ "'"
  | worker (.event fault) => fault.message
  | worker (.rejected key) => "processor rejects " ++ key.name
  | sink => "sink failed"

def failureClass : RegistryFault → FailureClass
  | alreadyRegistered _ => .invalidValue
  | unsupportedKey _ => .wrongType
  | unboundKind _ => .unknownKey
  | worker (.event fault) => fault.failureClass
  | worker (.rejected _) => .runtime
  | sink => .runtime

end RegistryFault

namespace Registry

def empty : Registry := ⟨.empty, []⟩

instance : Inhabited Registry := ⟨empty⟩

/-- Bind a kind to a processor. A kind that is bound stays as it is. -/
def register (registry : Registry) (kind : String) (worker : Nat) :
    Except RegistryFault Registry :=
  if registry.bindings.contains kind then .error (.alreadyRegistered kind)
  else .ok { registry with bindings := registry.bindings.put kind worker }

def unregister (registry : Registry) (kind : String) : Registry :=
  { registry with bindings := registry.bindings.erase kind }

def addSink (registry : Registry) (sink : Sink) : Registry :=
  { registry with sinks := registry.sinks ++ [sink] }

/-- Tell the processor of every bound kind that a full synchronisation starts. -/
def start (registry : Registry) (plant : Plant) : Logged Plant :=
  registry.bindings.entries.foldlM (fun plant binding => plant.start binding.2) plant

def route (registry : Registry) (event : Record) : Except RegistryFault (String × String × Nat) :=
  match event.key with
  | .resource name kind =>
    match registry.bindings.get? kind with
    | some worker => .ok (name, kind, worker)
    | none => .error (.unboundKind kind)
  | key => .error (.unsupportedKey key)

structure Handling where
  plant : Plant
  received : List (List Record)
  answer : Except RegistryFault (List Record)

def notePartial (kind name : String) (failures : List FieldFailure) : Logged Unit :=
  match NodeFailure.of? name failures with
  | none => pure ()
  | some failure =>
    .note .warning .registry
      ("Processor for " ++ kind ++ " '" ++ name ++ "' returned partial results: " ++
        failure.message)

/-- Handle an event: let its processor work on it, then hand the records to the sinks. -/
def handle (registry : Registry) (plant : Plant) (event : Record) : Logged Handling :=
  match registry.route event with
  | .error fault => pure ⟨plant, [], .error fault⟩
  | .ok (name, kind, worker) =>
    match plant.produce worker event with
    | .error fault => pure ⟨plant, [], .error (.worker fault)⟩
    | .ok production => do
      let production ← production
      notePartial kind name production.failures
      let delivery := deliver registry.sinks production.records
      -- A sink that fails does not undo what the processor did.
      return ⟨production.plant, delivery.received,
        if delivery.failed then .error .sink else .ok delivery.left⟩

/-- What comes of a node event, whatever is noted. -/
theorem value_handle_of_node {registry : Registry} {plant : Plant} {worker number starts : Nat}
    {config : ProcessorConfig} (bound : registry.bindings.get? nodeKind = some worker)
    (works : plant.workers[worker]? = some ⟨.node config number, starts⟩) (e : NodeEvent) :
    (registry.handle plant e.toRecord).value =
      let outcome := (Processor.outcomeOf config (plant.ledger number) e).value
      let delivery := deliver registry.sinks outcome.records
      ⟨plant.setLedger number outcome.ledger, delivery.received,
        if delivery.failed then .error .sink else .ok delivery.left⟩ := by
  have routed : registry.route e.toRecord = .ok (e.name, nodeKind, worker) := by
    simp only [route, NodeEvent.toRecord, bound]
  simp only [handle, routed, Plant.produce_of_node works, Logged.value_bind, Logged.value_pure]

end Registry

end NodeDataplane
