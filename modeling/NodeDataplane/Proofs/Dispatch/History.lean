import Mathlib.Data.List.Induction
import NodeDataplane.Proofs.Dispatch.Calls
import NodeDataplane.Proofs.Standing

/-!
# Whom a registry calls after its history

What a registry does with a request depends on the requests before it in one way only: a kind is
bound to the processor that it was registered with last, unless it was unregistered since.

## Main result

`Dispatching.dispatch_of_history`: which requests are refused, and whom the others call, after any
requests to a new registry.

## Proof strategy

One request changes the processor of a kind as it changes the last registration that stands
(`get?_serve`, `exists_split_concat_iff`), so by induction on the requests from the end they agree
(`get?_behind`). The order of the bindings is that of the registrations that stand
(`entries_behind`).
-/

namespace NodeDataplane

variable {π ς σ φ : Type}

/-! ### Registrations that stand -/

namespace Turn

/-- The kind that a turn bound, and to what. -/
def registered? (turn : Turn π ς σ φ) : Option (String × π) :=
  match turn.request, turn.answer with
  | .register kind processor, .ok _ => some (kind, processor)
  | _, _ => none

def unregisters (kind : String) (turn : Turn π ς σ φ) : Bool :=
  match turn.request with
  | .unregister other => other = kind
  | _ => false

/-- To unregister a kind revokes its registration. -/
def revokes (turn earlier : Turn π ς σ φ) : Bool :=
  earlier.registered?.any fun (kind, _) => turn.unregisters kind

def addedSink? (turn : Turn π ς σ φ) : Option ς :=
  match turn.request with
  | .addSink sink => some sink
  | _ => none

end Turn

/-- A kind was registered, and not unregistered since. -/
def IsBound (kind : String) (turns : List (Turn π ς σ φ)) : Prop :=
  ∃ front turn back, turns = front ++ turn :: back ∧
    (∃ processor, turn.registered? = some (kind, processor)) ∧
    ∀ later ∈ back, later.request ≠ .unregister kind

/-- The last registration of a kind is that of a processor, and the kind was not unregistered
since. -/
def IsBoundTo (kind : String) (processor : π) (turns : List (Turn π ς σ φ)) : Prop :=
  ∃ front turn back, turns = front ++ turn :: back ∧
    turn.registered? = some (kind, processor) ∧
    ∀ later ∈ back, later.request ≠ .unregister kind ∧
      ∀ other, later.registered? ≠ some (kind, other)

/-- The registrations that stand, in their order. -/
def inForce (turns : List (Turn π ς σ φ)) : List (String × π) :=
  (standing Turn.revokes turns).filterMap (·.registered?)

theorem isBound_iff {kind : String} {turns : List (Turn π ς σ φ)} :
    IsBound kind turns ↔ ∃ processor, IsBoundTo kind processor turns := by
  induction turns using List.reverseRecOn with
  | nil => simp [IsBound, IsBoundTo]
  | append_singleton turns turn ih =>
    simp only [IsBound, IsBoundTo, exists_split_concat_iff] at ih ⊢
    rw [ih]
    -- The turn is a registration of the kind itself, or leaves it to the turns before.
    by_cases now : ∃ processor, turn.registered? = some (kind, processor)
    · obtain ⟨processor, now⟩ := now
      simp [now]
    · simp only [not_exists] at now
      simp [now]

theorem inForce_concat (turns : List (Turn π ς σ φ)) (turn : Turn π ς σ φ) :
    inForce (turns ++ [turn]) =
      (inForce turns).filter (fun binding => !turn.unregisters binding.1) ++
        turn.registered?.toList := by
  apply filterMap_standing_concat
  intro earlier binding registered
  simp [Turn.revokes, registered]

namespace Dispatching

variable (crew : Crew π ς σ φ)

/-! ### The registry behind the requests -/

/-- A request binds a kind, or leaves it as it was unless it unregisters it. -/
theorem get?_serve (run : Dispatching π ς σ) (request : Dispatcher.Request π ς) (kind : String)
    (processor : π) :
    let turn := run.serve crew request
    turn.after.dispatcher.bindings.get? kind = some processor ↔
      turn.registered? = some (kind, processor) ∨
        (turn.request ≠ .unregister kind ∧ ∀ other, turn.registered? ≠ some (kind, other)) ∧
          run.dispatcher.bindings.get? kind = some processor := by
  cases request with
  | register other given =>
    by_cases free : run.dispatcher.bindings.get? other = none
    · rw [serve_register_of_unbound crew run free]
      by_cases same : other = kind
      · subst same
        simp [Turn.registered?, free]
      · simp [Turn.registered?, same, Table.get?_put_of_ne _ _ same]
    · rw [serve_register_of_bound crew run free]
      simp [Turn.registered?]
  | unregister other =>
    by_cases same : other = kind
    · subst same
      simp [serve, Dispatcher.unregister, Turn.registered?]
    · simp [serve, Dispatcher.unregister, Turn.registered?, same, Table.get?_erase_of_ne _ same]
  | addSink sink => simp [serve, Dispatcher.addSink, Turn.registered?]
  | start => simp [serve, Turn.registered?]
  | handle event => simp [serve, Turn.registered?]

variable (s : σ) (requests : List (Dispatcher.Request π ς))

theorem get?_behind (kind : String) (processor : π) :
    ((new s).behind crew requests).dispatcher.bindings.get? kind = some processor ↔
      IsBoundTo kind processor ((new s).turns crew requests) := by
  induction requests using List.reverseRecOn with
  | nil => simp [behind, new, Dispatcher.empty, turns, IsBoundTo]
  | append_singleton requests request ih =>
    rw [behind_concat, turns_concat, IsBoundTo, exists_split_concat_iff]
    refine (get?_serve crew _ request kind processor).trans ?_
    rw [ih]
    rfl

theorem entries_behind :
    ((new s).behind crew requests).dispatcher.bindings.entries =
      inForce ((new s).turns crew requests) := by
  induction requests using List.reverseRecOn with
  | nil => rfl
  | append_singleton requests request ih =>
    -- A registration comes last, and to unregister a kind takes its entry out.
    rw [behind_concat, turns_concat, inForce_concat, ← ih]
    generalize (new s).behind crew requests = run
    cases request with
    | register kind processor =>
      by_cases free : run.dispatcher.bindings.get? kind = none
      · have absent : kind ∉ run.dispatcher.bindings.keys := by
          rw [← Table.get?_isSome_iff, free]
          exact Bool.false_ne_true
        rw [serve_register_of_unbound crew run free, Table.entries_put_of_not_mem absent]
        simp [Turn.unregisters, Turn.registered?]
      · rw [serve_register_of_bound crew run free]
        simp [Turn.unregisters, Turn.registered?]
    | unregister kind =>
      simp [serve, Dispatcher.unregister, Turn.unregisters, Turn.registered?, Table.erase, eq_comm]
    | addSink sink => simp [serve, Dispatcher.addSink, Turn.unregisters, Turn.registered?]
    | start => simp [serve, Turn.unregisters, Turn.registered?]
    | handle event => simp [serve, Turn.unregisters, Turn.registered?]

theorem sinks_behind :
    ((new s).behind crew requests).dispatcher.sinks =
      ((new s).turns crew requests).filterMap (·.addedSink?) := by
  induction requests using List.reverseRecOn with
  | nil => rfl
  | append_singleton requests request ih =>
    rw [behind_concat, turns_concat, List.filterMap_append, ← ih]
    generalize (new s).behind crew requests = run
    cases request with
    | register kind processor =>
      by_cases free : run.dispatcher.bindings.get? kind = none
      · simp [serve_register_of_unbound crew run free, Turn.addedSink?]
      · simp [serve_register_of_bound crew run free, Turn.addedSink?]
    | unregister kind => simp [serve, Dispatcher.unregister, Turn.addedSink?]
    | addSink sink => simp [serve, Dispatcher.addSink, Turn.addedSink?]
    | start => simp [serve, Turn.addedSink?]
    | handle event => simp [serve, Turn.addedSink?]

/-! ### Main result -/

/-- **A registry goes by the last registration that stands.** Ask a new registry for anything, in
any order, with any processors and sinks. A kind is refused if it was registered and not
unregistered since, and then nobody is called and nothing changes. An event is refused, again
without a call or a change, just if its key is not of a resource or the kind is not bound. Else the
processor of the last registration of the kind is called once, and then sinks in turn; if the
processor fails, this is the failure of the request and no sink is called. No event changes who is
bound or which sinks there are. When a full synchronisation starts, the processor of every kind that
is bound is called, in the order of the registrations that stand. The registry of a plant serves its
requests in just this way. -/
theorem dispatch_of_history :
    let run := (new s).behind crew requests
    let turns := (new s).turns crew requests
    (∀ kind processor,
      let turn := run.serve crew (.register kind processor)
      ((∃ fault, turn.answer = .error fault) ↔ IsBound kind turns) ∧
      ∀ fault, turn.answer = .error fault →
        fault = .own (.alreadyRegistered kind) ∧ turn.calls = [] ∧ turn.after = run) ∧
    (∀ event,
      let turn := run.serve crew (.handle event)
      turn.after.dispatcher = run.dispatcher ∧
      (turn.calls = [] ↔ ∀ name kind, event.key = .resource name kind → ¬ IsBound kind turns) ∧
      ((∀ name kind, event.key ≠ .resource name kind) →
        turn.answer = .error (.own (.unsupportedKey event.key)) ∧ turn.after = run) ∧
      ∀ name kind, event.key = .resource name kind →
        (¬ IsBound kind turns →
          turn.answer = .error (.own (.unboundKind kind)) ∧ turn.after = run) ∧
        ∀ processor, IsBoundTo kind processor turns → turn.IsWorkOf crew run processor event) ∧
    (run.serve crew .start).calls = (inForce turns).map (fun binding => .start binding.2) ∧
    ((inForce turns).map (·.1)).Nodup ∧
    (∀ kind processor, (kind, processor) ∈ inForce turns ↔ IsBoundTo kind processor turns) ∧
    run.dispatcher.sinks = turns.filterMap (·.addedSink?) ∧
    (∀ kind key, (RegistryFault.alreadyRegistered kind).failureClass = .invalidValue ∧
      (RegistryFault.unsupportedKey key).failureClass = .wrongType ∧
      (RegistryFault.unboundKind kind).failureClass = .unknownKey) ∧
    ∀ plant requests, Registry.empty.serveAll plant requests =
      ((new plant).turns Plant.crew requests).map Turn.seen := by
  intro run turns
  have entries : run.dispatcher.bindings.entries = inForce turns := entries_behind crew s requests
  have boundTo (kind : String) (processor : π) :
      run.dispatcher.bindings.get? kind = some processor ↔ IsBoundTo kind processor turns :=
    get?_behind crew s requests kind processor
  have bound (kind : String) : run.dispatcher.bindings.get? kind = none ↔ ¬ IsBound kind turns := by
    simp only [isBound_iff, ← boundTo, Option.eq_none_iff_forall_ne_some, not_exists, ne_eq]
  refine ⟨fun kind processor => ?_, fun event => ?_, ?_, ?_, fun kind processor => ?_,
    sinks_behind crew s requests, fun kind key => ⟨rfl, rfl, rfl⟩, Registry.empty.serveAll_eq⟩
  · by_cases free : run.dispatcher.bindings.get? kind = none
    · have unbound := (bound kind).1 free
      simp [serve_register_of_unbound crew run free, unbound]
    · have registered := not_not.1 (mt (bound kind).2 free)
      simp [serve_register_of_bound crew run free, registered]
  · refine ⟨rfl, ?_, fun unsupported => ?_, fun name kind keyed => ⟨fun unbound => ?_, ?_⟩⟩
    · simp only [calls_handle_eq_nil_iff, bound]
    · rw [serve_handle_of_unsupported crew run unsupported]
      exact ⟨rfl, rfl⟩
    · rw [serve_handle_of_unbound crew run keyed ((bound kind).2 unbound)]
      exact ⟨rfl, rfl⟩
    · intro processor told
      exact isWorkOf_handle crew run keyed ((boundTo kind processor).2 told)
  · rw [← entries]
    exact run.dispatcher.calls_start crew ⟨run.state, []⟩
  · exact entries ▸ run.dispatcher.bindings.distinct
  · rw [← entries, Table.mem_entries_iff, boundTo]

def idle : Crew Nat Nat Unit Empty where
  process _ event s := (.ok [event], s)
  start _ s := s
  hand _ records s := (.ok records, s)

/-- One processor under two kinds, of which the first goes to another one later. -/
example : (((new ()).behind idle [.register "Node" 1, .register "Profile" 1, .register "Node" 2,
    .unregister "Node", .register "Node" 2]).serve idle .start).calls =
      [.start 1, .start 2] := by
  decide

end Dispatching

end NodeDataplane
