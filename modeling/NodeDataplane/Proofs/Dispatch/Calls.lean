import NodeDataplane.Registry

/-!
# The calls of a registry

All that a registry does to others it does by calls: processors are called to work on events and to
be told of full synchronisations, sinks to take records. A `Scene` keeps these calls. Who processors
and sinks are and what they do is left to a `Crew`; a call may change whatever the crew is about.

## Main results

- `Scene.calls_handAll`: sinks are called in turn.
- `Dispatcher.calls_start`, `Dispatching.isWorkOf_handle`: whom a registry calls.
- `Registry.serveAll_eq`: the registry of plants serves in this way, with the plant as crew.
-/

namespace NodeDataplane

/-! ### Calls -/

inductive Outcall (π ς : Type) where
  | process (processor : π) (event : Record)
  /-- A processor is told that a full synchronisation starts. -/
  | start (processor : π)
  | hand (sink : ς) (records : List Record)
  deriving DecidableEq, Repr

/-- What processors and sinks do when they are called. A processor gives records for an event or
fails, and only takes note of a full synchronisation; a sink leaves some of what it is handed or
fails. -/
structure Crew (π ς σ φ : Type) where
  process : π → Record → σ → Except φ (List Record) × σ
  start : π → σ → σ
  hand : ς → List Record → σ → Except φ (List Record) × σ

/-- What the crew has come to, and the calls so far. -/
structure Scene (π ς σ : Type) where
  state : σ
  calls : List (Outcall π ς)

variable {π ς σ φ : Type}

namespace Scene

variable (crew : Crew π ς σ φ)

def process (scene : Scene π ς σ) (processor : π) (event : Record) :
    Except φ (List Record) × Scene π ς σ :=
  let came := crew.process processor event scene.state
  (came.1, ⟨came.2, scene.calls ++ [.process processor event]⟩)

def start (scene : Scene π ς σ) (processor : π) : Scene π ς σ :=
  ⟨crew.start processor scene.state, scene.calls ++ [.start processor]⟩

def hand (scene : Scene π ς σ) (sink : ς) (records : List Record) :
    Except φ (List Record) × Scene π ς σ :=
  let came := crew.hand sink records scene.state
  (came.1, ⟨came.2, scene.calls ++ [.hand sink records]⟩)

/-- Hand records to sinks in turn, up to one that fails. Each gets what the one before it left. -/
def handAll : List ς → List Record → Scene π ς σ → Except φ (List Record) × Scene π ς σ
  | [], records, scene => (.ok records, scene)
  | sink :: rest, records, scene =>
    let came := scene.hand crew sink records
    match came.1 with
    | .ok left => handAll rest left came.2
    | .error fault => (.error fault, came.2)

end Scene

/-! ### Requests -/

/-- A registry of any processors and sinks. -/
structure Dispatcher (π ς : Type) where
  bindings : Table String π
  sinks : List ς

namespace Dispatcher

inductive Request (π ς : Type) where
  | register (kind : String) (processor : π)
  | unregister (kind : String)
  | addSink (sink : ς)
  | start
  | handle (event : Record)

/-- Why a request fails: by the registry itself, or because someone it called failed. -/
inductive Fault (φ : Type) where
  | own (fault : RegistryFault)
  | passedOn (fault : φ)
  deriving DecidableEq, Repr

variable (crew : Crew π ς σ φ)

def empty : Dispatcher π ς := ⟨.empty, []⟩

def register (d : Dispatcher π ς) (kind : String) (processor : π) :
    Except (Fault φ) (Dispatcher π ς) :=
  if d.bindings.contains kind then .error (.own (.alreadyRegistered kind))
  else .ok { d with bindings := d.bindings.put kind processor }

def unregister (d : Dispatcher π ς) (kind : String) : Dispatcher π ς :=
  { d with bindings := d.bindings.erase kind }

def addSink (d : Dispatcher π ς) (sink : ς) : Dispatcher π ς :=
  { d with sinks := d.sinks ++ [sink] }

def start (d : Dispatcher π ς) (scene : Scene π ς σ) : Scene π ς σ :=
  d.bindings.entries.foldl (fun scene binding => scene.start crew binding.2) scene

def handle (d : Dispatcher π ς) (event : Record) (scene : Scene π ς σ) :
    Except (Fault φ) (List Record) × Scene π ς σ :=
  match event.key with
  | .resource _ kind =>
    match d.bindings.get? kind with
    | none => (.error (.own (.unboundKind kind)), scene)
    | some processor =>
      let came := scene.process crew processor event
      match came.1 with
      | .error fault => (.error (.passedOn fault), came.2)
      | .ok records =>
        let handed := came.2.handAll crew d.sinks records
        (handed.1.mapError .passedOn, handed.2)
  | key => (.error (.own (.unsupportedKey key)), scene)

end Dispatcher

/-- A registry, and what its crew has come to. -/
structure Dispatching (π ς σ : Type) where
  dispatcher : Dispatcher π ς
  state : σ

/-- A request, what it returned, the calls that it took, and what there is afterwards. -/
structure Turn (π ς σ φ : Type) where
  request : Dispatcher.Request π ς
  answer : Except (Dispatcher.Fault φ) (Option (List Record))
  calls : List (Outcall π ς)
  after : Dispatching π ς σ

namespace Dispatching

variable (crew : Crew π ς σ φ)

def new (state : σ) : Dispatching π ς σ := ⟨.empty, state⟩

def serve (run : Dispatching π ς σ) (request : Dispatcher.Request π ς) : Turn π ς σ φ :=
  match request with
  | .register kind processor =>
    match run.dispatcher.register kind processor with
    | .error fault => ⟨request, .error fault, [], run⟩
    | .ok dispatcher => ⟨request, .ok none, [], { run with dispatcher }⟩
  | .unregister kind =>
    ⟨request, .ok none, [], { run with dispatcher := run.dispatcher.unregister kind }⟩
  | .addSink sink =>
    ⟨request, .ok none, [], { run with dispatcher := run.dispatcher.addSink sink }⟩
  | .start =>
    let scene := run.dispatcher.start crew ⟨run.state, []⟩
    ⟨request, .ok none, scene.calls, { run with state := scene.state }⟩
  | .handle event =>
    let came := run.dispatcher.handle crew event ⟨run.state, []⟩
    ⟨request, came.1.map some, came.2.calls, { run with state := came.2.state }⟩

def turns : Dispatching π ς σ → List (Dispatcher.Request π ς) → List (Turn π ς σ φ)
  | _, [] => []
  | run, request :: rest =>
    let turn := run.serve crew request
    turn :: turns turn.after rest

def behind (run : Dispatching π ς σ) (requests : List (Dispatcher.Request π ς)) :
    Dispatching π ς σ :=
  requests.foldl (fun run request => (run.serve crew request).after) run

theorem behind_concat (run : Dispatching π ς σ) (requests : List (Dispatcher.Request π ς))
    (request : Dispatcher.Request π ς) :
    run.behind crew (requests ++ [request]) =
      ((run.behind crew requests).serve crew request).after := by
  rw [behind, List.foldl_append]
  rfl

theorem turns_concat (run : Dispatching π ς σ) (requests : List (Dispatcher.Request π ς))
    (request : Dispatcher.Request π ς) :
    run.turns crew (requests ++ [request]) =
      run.turns crew requests ++ [(run.behind crew requests).serve crew request] := by
  induction requests generalizing run with
  | nil => rfl
  | cons first rest ih =>
    rw [List.cons_append, turns, turns, ih]
    rfl

end Dispatching

/-! ### Whom a request calls -/

/-- Sinks are called in turn, and all of them unless one fails. -/
theorem Scene.calls_handAll (crew : Crew π ς σ φ) (sinks : List ς) (records : List Record)
    (scene : Scene π ς σ) :
    ∃ handed : List (ς × List Record),
      (handAll crew sinks records scene).2.calls =
        scene.calls ++ handed.map (fun (sink, records) => .hand sink records) ∧
      handed.map (·.1) <+: sinks ∧
      ∀ left, (handAll crew sinks records scene).1 = .ok left → handed.map (·.1) = sinks := by
  induction sinks generalizing records scene with
  | nil => exact ⟨[], (List.append_nil _).symm, List.prefix_refl _, fun _ _ => rfl⟩
  | cons sink rest ih =>
    -- Whatever the sink does, its call is noted.
    let after : Scene π ς σ := (scene.hand crew sink records).2
    have called : after.calls = scene.calls ++ [.hand sink records] := rfl
    rw [handAll]
    cases taken : (scene.hand crew sink records).1 with
    | error fault =>
      refine ⟨[(sink, records)], called, ?_, nofun⟩
      exact (List.prefix_cons_inj sink).2 List.nil_prefix
    | ok left =>
      obtain ⟨handed, calls, start, all⟩ := ih left after
      refine ⟨(sink, records) :: handed, ?_, ?_, ?_⟩
      · refine calls.trans ?_
        rw [called, List.append_assoc]
        rfl
      · exact (List.prefix_cons_inj sink).2 start
      · intro last came
        exact congrArg (sink :: ·) (all last came)

/-- The processor of every binding is called, in the order of the bindings. -/
theorem Dispatcher.calls_start (crew : Crew π ς σ φ) (d : Dispatcher π ς) (scene : Scene π ς σ) :
    (d.start crew scene).calls =
      scene.calls ++ d.bindings.entries.map fun binding => .start binding.2 := by
  rw [start]
  induction d.bindings.entries generalizing scene with
  | nil => exact (List.append_nil _).symm
  | cons binding rest ih =>
    rw [List.foldl_cons, ih, Scene.start, List.map_cons, List.append_assoc]
    rfl

namespace Dispatcher

variable (crew : Crew π ς σ φ) {d : Dispatcher π ς} {event : Record}

theorem handle_of_unsupported (unsupported : ∀ name kind, event.key ≠ .resource name kind)
    (scene : Scene π ς σ) :
    d.handle crew event scene = (.error (.own (.unsupportedKey event.key)), scene) := by
  rw [handle]
  split
  next name kind keyed => exact absurd keyed (unsupported name kind)
  next => rfl

variable {name kind : String} (keyed : event.key = .resource name kind)

include keyed

theorem handle_of_unbound (unbound : d.bindings.get? kind = none) (scene : Scene π ς σ) :
    d.handle crew event scene = (.error (.own (.unboundKind kind)), scene) := by
  simp only [handle, keyed, unbound]

theorem handle_of_bound {processor : π} (bound : d.bindings.get? kind = some processor)
    (scene : Scene π ς σ) :
    d.handle crew event scene =
      let came := scene.process crew processor event
      match came.1 with
      | .error fault => (.error (.passedOn fault), came.2)
      | .ok records =>
        let handed := came.2.handAll crew d.sinks records
        (handed.1.mapError .passedOn, handed.2) := by
  simp only [handle, keyed, bound]

end Dispatcher

/-- A turn is the work of a processor on an event: the processor is called once, and then sinks are
in turn, all of them if nobody fails. If the processor fails, this is the failure of the request,
and no sink is called. -/
structure Turn.IsWorkOf (crew : Crew π ς σ φ) (run : Dispatching π ς σ) (processor : π)
    (event : Record) (turn : Turn π ς σ φ) : Prop where
  called : ∃ handed : List (ς × List Record),
    turn.calls = .process processor event ::
      handed.map (fun (sink, records) => .hand sink records) ∧
    handed.map (·.1) <+: run.dispatcher.sinks ∧
    ∀ left, turn.answer = .ok left → handed.map (·.1) = run.dispatcher.sinks
  failed : ∀ fault, (crew.process processor event run.state).1 = .error fault →
    turn.answer = .error (.passedOn fault) ∧ turn.calls = [.process processor event]

namespace Dispatching

variable (crew : Crew π ς σ φ) (run : Dispatching π ς σ) {event : Record}

theorem serve_register_of_bound {kind : String}
    (bound : run.dispatcher.bindings.get? kind ≠ none) (processor : π) :
    run.serve crew (.register kind processor) =
      ⟨.register kind processor, .error (.own (.alreadyRegistered kind)), [], run⟩ := by
  have taken : run.dispatcher.bindings.contains kind = true := by
    rwa [Table.contains, Option.isSome_iff_ne_none]
  simp only [serve, Dispatcher.register, taken, if_true]

theorem serve_register_of_unbound {kind : String}
    (unbound : run.dispatcher.bindings.get? kind = none) (processor : π) :
    run.serve crew (.register kind processor) =
      ⟨.register kind processor, .ok none, [],
        ⟨⟨run.dispatcher.bindings.put kind processor, run.dispatcher.sinks⟩, run.state⟩⟩ := by
  simp [serve, Dispatcher.register, Table.contains, unbound]

theorem serve_handle_of_unsupported (unsupported : ∀ name kind, event.key ≠ .resource name kind) :
    run.serve crew (.handle event) =
      ⟨.handle event, .error (.own (.unsupportedKey event.key)), [], run⟩ := by
  rw [serve, Dispatcher.handle_of_unsupported crew unsupported]
  rfl

theorem serve_handle_of_unbound {name kind : String} (keyed : event.key = .resource name kind)
    (unbound : run.dispatcher.bindings.get? kind = none) :
    run.serve crew (.handle event) =
      ⟨.handle event, .error (.own (.unboundKind kind)), [], run⟩ := by
  rw [serve, Dispatcher.handle_of_unbound crew keyed unbound]
  rfl

theorem isWorkOf_handle {name kind : String} {processor : π}
    (keyed : event.key = .resource name kind)
    (bound : run.dispatcher.bindings.get? kind = some processor) :
    (run.serve crew (.handle event)).IsWorkOf crew run processor event := by
  let called : Scene π ς σ :=
    ⟨(crew.process processor event run.state).2, [.process processor event]⟩
  have worked : Scene.process crew ⟨run.state, []⟩ processor event =
    ((crew.process processor event run.state).1, called) := rfl
  rw [serve, Dispatcher.handle_of_bound crew keyed bound, worked]
  -- The call of the processor is noted in any case; whether it gave records decides on the sinks.
  cases answer : (crew.process processor event run.state).1 with
  | error fault =>
    refine ⟨⟨[], rfl, List.nil_prefix, nofun⟩, ?_⟩
    intro other failed
    cases answer.symm.trans failed
    exact ⟨rfl, rfl⟩
  | ok records =>
    obtain ⟨handed, calls, start, all⟩ :=
      Scene.calls_handAll crew run.dispatcher.sinks records called
    refine ⟨⟨handed, calls, start, ?_⟩, ?_⟩
    · -- The request is answered only if no sink failed.
      intro left answered
      cases came : (Scene.handAll crew run.dispatcher.sinks records called).1 with
      | error fault =>
        simp only [came] at answered
        cases answered
      | ok left => exact all left came
    · intro fault failed
      cases answer.symm.trans failed

theorem calls_handle_eq_nil_iff : (run.serve crew (.handle event)).calls = [] ↔
    ∀ name kind, event.key = .resource name kind → run.dispatcher.bindings.get? kind = none := by
  cases keyed : event.key with
  | resource name kind =>
    cases bound : run.dispatcher.bindings.get? kind with
    | none => simp [serve_handle_of_unbound crew run keyed bound, bound]
    | some processor =>
      obtain ⟨handed, calls, -⟩ := (run.isWorkOf_handle crew keyed bound).called
      simp [calls, bound]
  | _ =>
    have unsupported : ∀ name kind, event.key ≠ .resource name kind := by simp [keyed]
    simp [serve_handle_of_unsupported crew run unsupported]

end Dispatching

/-! ### The registry of plants -/

/-- The processors of a plant, by number, and the sinks. -/
def Plant.crew : Crew Nat Sink Plant RegistryFault where
  process worker event plant :=
    match plant.produce worker event with
    | .error fault => (.error (.worker fault), plant)
    | .ok production => (.ok production.value.records, production.value.plant)
  start worker plant := (plant.start worker).value
  hand sink records plant :=
    (if sink.fails records then .error .sink else .ok (sink.leaves records), plant)

/-- What comes of a request to the registry of a plant: what it returned, what there is afterwards,
and what the sinks were handed. -/
structure Registry.Served where
  answer : Except RegistryFault (Option (List Record))
  registry : Registry
  plant : Plant
  received : List (List Record)

namespace Registry

def serve (registry : Registry) (plant : Plant) (request : Dispatcher.Request Nat Sink) : Served :=
  match request with
  | .register kind worker =>
    match registry.register kind worker with
    | .error fault => ⟨.error fault, registry, plant, []⟩
    | .ok registry => ⟨.ok none, registry, plant, []⟩
  | .unregister kind => ⟨.ok none, registry.unregister kind, plant, []⟩
  | .addSink sink => ⟨.ok none, registry.addSink sink, plant, []⟩
  | .start => ⟨.ok none, registry, (registry.start plant).value, []⟩
  | .handle event =>
    let handling := (registry.handle plant event).value
    ⟨handling.answer.map some, registry, handling.plant, handling.received⟩

def serveAll : Registry → Plant → List (Dispatcher.Request Nat Sink) → List Served
  | _, _, [] => []
  | registry, plant, request :: rest =>
    let served := registry.serve plant request
    served :: serveAll served.registry served.plant rest

def dispatcher (registry : Registry) : Dispatcher Nat Sink := ⟨registry.bindings, registry.sinks⟩

end Registry

def Outcall.handed? : Outcall π ς → Option (List Record)
  | hand _ records => some records
  | _ => none

def Dispatcher.Fault.flat : Dispatcher.Fault RegistryFault → RegistryFault
  | own fault => fault
  | passedOn fault => fault

theorem Dispatcher.Fault.mapError_flat {α : Type} (answer : Except RegistryFault α) :
    (answer.mapError passedOn).mapError (·.flat) = answer := by
  cases answer <;> rfl

/-- A turn as the registry of a plant shows it. -/
def Turn.seen (turn : Turn Nat Sink Plant RegistryFault) : Registry.Served :=
  ⟨turn.answer.mapError (·.flat), ⟨turn.after.dispatcher.bindings, turn.after.dispatcher.sinks⟩,
    turn.after.state, turn.calls.filterMap (·.handed?)⟩

namespace Registry

theorem value_start (registry : Registry) (scene : Scene Nat Sink Plant) :
    (registry.start scene.state).value = (registry.dispatcher.start Plant.crew scene).state := by
  rw [start, Dispatcher.start, dispatcher]
  induction registry.bindings.entries generalizing scene with
  | nil => rfl
  | cons binding rest ih =>
    rw [List.foldlM_cons, Logged.value_bind, List.foldl_cons]
    exact ih (scene.start Plant.crew binding.2)

/-- Records are delivered to sinks by calling them. -/
theorem handAll_eq (sinks : List Sink) (records : List Record) (scene : Scene Nat Sink Plant) :
    let delivery := deliver sinks records
    let handed := Scene.handAll Plant.crew sinks records scene
    handed.1 = (if delivery.failed then .error .sink else .ok delivery.left) ∧
      handed.2.state = scene.state ∧
      handed.2.calls.filterMap (·.handed?) =
        scene.calls.filterMap (·.handed?) ++ delivery.received := by
  induction sinks generalizing records scene with
  | nil => exact ⟨rfl, rfl, (List.append_nil _).symm⟩
  | cons sink rest ih =>
    have taken : scene.hand Plant.crew sink records =
        (if sink.fails records then .error .sink else .ok (sink.leaves records),
          ⟨scene.state, scene.calls ++ [.hand sink records]⟩) := rfl
    rw [deliver, Scene.handAll, taken]
    by_cases fails : sink.fails records = true
    · simp [fails, Outcall.handed?]
    · obtain ⟨answer, state, calls⟩ := ih (sink.leaves records)
        ⟨scene.state, scene.calls ++ [.hand sink records]⟩
      simp only [fails]
      refine ⟨answer, state, calls.trans ?_⟩
      simp [Outcall.handed?]

/-- An event is handled by calling its processor and then the sinks. -/
theorem handle_eq (registry : Registry) (plant : Plant) (event : Record) :
    let handling := (registry.handle plant event).value
    let handled := registry.dispatcher.handle Plant.crew event ⟨plant, []⟩
    handling.answer = handled.1.mapError (·.flat) ∧ handling.plant = handled.2.state ∧
      handling.received = handled.2.calls.filterMap (·.handed?) := by
  cases keyed : event.key with
  | resource name kind =>
    cases bound : registry.bindings.get? kind with
    | none =>
      rw [handle, route, Dispatcher.handle_of_unbound Plant.crew keyed bound]
      simp only [keyed, bound]
      exact ⟨rfl, rfl, rfl⟩
    | some worker =>
      rw [handle, route, Dispatcher.handle_of_bound Plant.crew keyed bound]
      simp only [keyed, bound]
      cases produced : plant.produce worker event with
      | error fault =>
        have worked : Scene.process Plant.crew ⟨plant, []⟩ worker event =
            (.error (.worker fault), ⟨plant, [.process worker event]⟩) := by
          simp [Scene.process, Plant.crew, produced]
        rw [worked]
        exact ⟨rfl, rfl, rfl⟩
      | ok production =>
        have worked : Scene.process Plant.crew ⟨plant, []⟩ worker event =
            (.ok production.value.records, ⟨production.value.plant, [.process worker event]⟩) := by
          simp [Scene.process, Plant.crew, produced]
        obtain ⟨answer, state, calls⟩ := handAll_eq registry.sinks production.value.records
          ⟨production.value.plant, [.process worker event]⟩
        rw [worked]
        exact ⟨answer.symm.trans (Dispatcher.Fault.mapError_flat _).symm, state.symm, calls.symm⟩
  | _ =>
    rw [handle, route, Dispatcher.handle_of_unsupported Plant.crew (by simp [keyed])]
    simp only [keyed]
    exact ⟨rfl, rfl, rfl⟩

/-- The registry of a plant serves a request by calling the plant. -/
theorem serve_eq (registry : Registry) (plant : Plant) (request : Dispatcher.Request Nat Sink) :
    registry.serve plant request =
      ((Dispatching.mk registry.dispatcher plant).serve Plant.crew request).seen := by
  cases request with
  | register kind worker =>
    rw [serve, Dispatching.serve, register, Dispatcher.register]
    by_cases bound : registry.bindings.contains kind = true <;> simp [dispatcher, bound] <;> rfl
  | unregister kind => rfl
  | addSink sink => rfl
  | start =>
    have told := registry.value_start ⟨plant, []⟩
    have called := registry.dispatcher.calls_start Plant.crew ⟨plant, []⟩
    -- Sinks have no part in it.
    have unheard : (registry.dispatcher.start Plant.crew ⟨plant, []⟩).calls.filterMap (·.handed?) =
        [] := by
      simp [called, Outcall.handed?]
    rw [serve, Dispatching.serve, Turn.seen, told, unheard]
    rfl
  | handle event =>
    obtain ⟨answer, state, received⟩ := registry.handle_eq plant event
    rw [serve, Dispatching.serve, Turn.seen, answer, state, received]
    cases (registry.dispatcher.handle Plant.crew event ⟨plant, []⟩).1 <;> rfl

theorem serveAll_eq (registry : Registry) (plant : Plant)
    (requests : List (Dispatcher.Request Nat Sink)) :
    registry.serveAll plant requests =
      ((Dispatching.mk registry.dispatcher plant).turns Plant.crew requests).map Turn.seen := by
  induction requests generalizing registry plant with
  | nil => rfl
  | cons request rest ih =>
    rw [serveAll, Dispatching.turns, List.map_cons, serve_eq, ih]
    rfl

end Registry

end NodeDataplane
