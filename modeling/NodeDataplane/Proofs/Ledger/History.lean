import Mathlib.Data.List.Induction
import NodeDataplane.Proofs.Ledger.Lists
import NodeDataplane.Proofs.Standing

/-!
# What a ledger says of its history

A ledger says nothing but what its calls have told it. What a node was given stands until it is
forgotten; of all that stands, the last counts for the blocks of the node, and the first that gave
it a block counts for its place among the nodes.

## Main result

`BlockLedger.answers_of_history`: what a ledger answers after any calls, and that a list that was
returned stays as it is.

## Proof strategy

Induction on the calls from the end: the last call changes what stands as it changes the ledger
(`lookup_behind`, `nodes_behind`). The lists that were returned are followed through the ledger that
keeps its lists under numbers.
-/

namespace NodeDataplane

/-! ### What stands of the calls -/

namespace LedgerCall

/-- To forget a node revokes all that it was given. -/
def revokes : LedgerCall → LedgerCall → Bool
  | forget node, reconcile other _ => node = other
  | _, _ => false

/-- The blocks that a call gives to a node. -/
def givenTo? (node : String) : LedgerCall → Option (List String)
  | reconcile other current => if other = node then some current else none
  | _ => none

/-- The node that a call gives some block. -/
def supplied? : LedgerCall → Option String
  | reconcile node current => if current = [] then none else some node
  | _ => none

/-- What a node was given since it was last forgotten. -/
def givenSince (node : String) (calls : List LedgerCall) : List (List String) :=
  (standing revokes calls).filterMap (givenTo? node)

/-- The nodes that were given a block since they were last forgotten, once for each such call. -/
def suppliedSince (calls : List LedgerCall) : List String :=
  (standing revokes calls).filterMap supplied?

theorem givenTo?_eq_some_iff {node : String} {call : LedgerCall} {current : List String} :
    call.givenTo? node = some current ↔ call = reconcile node current := by
  cases call with
  | reconcile other given => by_cases same : other = node <;> simp [givenTo?, same]
  | _ => simp [givenTo?]

theorem supplied?_eq_some_iff {node : String} {call : LedgerCall} :
    call.supplied? = some node ↔ ∃ current, current ≠ [] ∧ call = reconcile node current := by
  cases call with
  | reconcile other given =>
    by_cases nothing : given = []
    · simp [supplied?, nothing]
    · simp [supplied?, nothing, eq_comm]
  | _ => simp [supplied?]

/-- What a node was given is revoked by no other call than to forget the node. -/
theorem revokes_reconcile (call : LedgerCall) (node : String) (current : List String) :
    call.revokes (reconcile node current) = !decide (call ≠ forget node) := by
  cases call <;> simp [revokes]

/-- A node was given blocks by a call behind which it is not forgotten. -/
theorem mem_givenSince_iff {node : String} {calls : List LedgerCall} {current : List String} :
    current ∈ givenSince node calls ↔
      ∃ front back, calls = front ++ reconcile node current :: back ∧ forget node ∉ back := by
  simp only [givenSince, List.mem_filterMap, givenTo?_eq_some_iff, exists_eq_right,
    mem_standing_iff, revokes_reconcile]
  refine exists_congr fun front => exists_congr fun back => and_congr_right fun _ => ?_
  simp only [Bool.not_eq_false', decide_eq_true_eq]
  exact ⟨fun apart member => apart _ member rfl, fun absent call member same =>
    absent (same ▸ member)⟩

theorem mem_suppliedSince_iff {node : String} {calls : List LedgerCall} :
    node ∈ suppliedSince calls ↔ ∃ current ∈ givenSince node calls, current ≠ [] := by
  simp only [suppliedSince, givenSince, List.mem_filterMap, givenTo?_eq_some_iff,
    supplied?_eq_some_iff, exists_eq_right]
  constructor
  · rintro ⟨call, stands, current, given, rfl⟩
    exact ⟨current, stands, given⟩
  · rintro ⟨current, stands, given⟩
    exact ⟨_, stands, current, given, rfl⟩

theorem givenSince_concat (node : String) (calls : List LedgerCall) (call : LedgerCall) :
    givenSince node (calls ++ [call]) =
      (givenSince node calls).filter (fun _ => call ≠ forget node) ++
        (call.givenTo? node).toList := by
  apply filterMap_standing_concat
  intro earlier current given
  rw [givenTo?_eq_some_iff.1 given, revokes_reconcile]

theorem suppliedSince_concat (calls : List LedgerCall) (call : LedgerCall) :
    suppliedSince (calls ++ [call]) =
      (suppliedSince calls).filter (fun node => call ≠ forget node) ++ call.supplied?.toList := by
  apply filterMap_standing_concat
  intro earlier node supplied
  obtain ⟨current, -, rfl⟩ := supplied?_eq_some_iff.1 supplied
  exact call.revokes_reconcile node current

end LedgerCall

namespace BlockLedger

open LedgerCall (givenSince suppliedSince)

/-! ### The ledger behind the calls -/

theorem lookup_behind (calls : List LedgerCall) (node : String) :
    (empty.behind calls).lookup node = firstSeen ((givenSince node calls).getLastD []) := by
  induction calls using List.reverseRecOn with
  | nil => rfl
  | append_singleton calls call ih =>
    rw [behind_concat, LedgerCall.givenSince_concat]
    cases call with
    | reconcile other current =>
      rw [BlockLedger.call, reconcile]
      by_cases same : other = node
      · subst same
        simp [lookup_record_self, LedgerCall.givenTo?]
      · simp [lookup_record_of_ne _ _ same, LedgerCall.givenTo?, same, ih]
    | forget other =>
      rw [BlockLedger.call]
      by_cases same : other = node
      · subst same
        simp [LedgerCall.givenTo?, firstSeen]
      · simp [lookup_forget_of_ne _ same, LedgerCall.givenTo?, same, ih]
    | _ =>
      rw [BlockLedger.call, ih]
      simp [LedgerCall.givenTo?]

theorem nodes_behind (calls : List LedgerCall) :
    (empty.behind calls).nodes = firstSeen (suppliedSince calls) := by
  induction calls using List.reverseRecOn with
  | nil => rfl
  | append_singleton calls call ih =>
    rw [behind_concat, LedgerCall.suppliedSince_concat]
    cases call with
    | reconcile node current =>
      have all : (suppliedSince calls).filter
          (fun other => LedgerCall.reconcile node current ≠ .forget other) =
            suppliedSince calls := by
        simp
      rw [BlockLedger.call, reconcile, nodes_record, ih, all]
      by_cases given : current = []
      · simp [given, LedgerCall.supplied?]
      · simp [given, LedgerCall.supplied?, firstSeen_concat]
    | forget node =>
      rw [BlockLedger.call, nodes_forget, ih, ← firstSeen_filter]
      simp [LedgerCall.supplied?, eq_comm]
    | _ => simpa [BlockLedger.call, LedgerCall.supplied?] using ih

/-! ### Main result -/

/-- **A ledger answers as its history says.** Call a new ledger in any way. The blocks of a node are
those it was given last since it was last forgotten, each where it first stands, and none if it was
given none since. The nodes are those that were given some block since they were last forgotten,
each once, in the order of the first such call; their number is the length of this list. What a call
returns is a list of the caller's own: let callers keep the lists and write into them as they like.
The calls return the same, and no list ever changes but by what a caller writes into it. -/
theorem answers_of_history (calls : List LedgerCall) :
    let ledger := empty.behind calls
    (∀ node, (ledger.call (.lookup node)).1 =
      .texts (firstSeen ((givenSince node calls).getLastD []))) ∧
    (∀ node, node ∈ ledger.nodes ↔ ∃ front current back,
      calls = front ++ .reconcile node current :: back ∧ current ≠ [] ∧ .forget node ∉ back) ∧
    ledger.nodes.Nodup ∧
    (ledger.call .nodes).1 = .texts (firstSeen (suppliedSince calls)) ∧
    (ledger.call .size).1 = .count ledger.nodes.length ∧
    ∀ deeds call later,
      let came := (FiledLedger.empty.behind deeds).call call
      came.2.read came.1 = ((empty.behind (FiledLedger.callsOf deeds)).call call).1 ∧
        ∀ number, came.1 = .list number → (∀ texts, .write number texts ∉ later) →
          (came.2.behind later).list number = came.2.list number := by
  intro ledger
  have nodes : ledger.nodes = firstSeen (suppliedSince calls) := nodes_behind calls
  refine ⟨fun node => congrArg LedgerAnswer.texts (lookup_behind calls node), fun node => ?_,
    ledger.blocks.nodup_keys, congrArg LedgerAnswer.texts nodes,
    congrArg LedgerAnswer.count ledger.blocks.size_eq_length_keys, ?_⟩
  · rw [nodes, mem_firstSeen, LedgerCall.mem_suppliedSince_iff]
    simp only [LedgerCall.mem_givenSince_iff]
    constructor
    · rintro ⟨current, ⟨front, back, split, kept⟩, given⟩
      exact ⟨front, current, back, split, given, kept⟩
    · rintro ⟨front, current, back, split, given, kept⟩
      exact ⟨current, ⟨front, back, split, kept⟩, given⟩
  · intro deeds call later came
    obtain ⟨returned, files⟩ := (FiledLedger.files_empty.behind deeds).call call
    refine ⟨returned, fun number listed unwritten => ?_⟩
    exact FiledLedger.list_behind (files.given (FiledLedger.mem_handed_call listed)) unwritten

/-- A node that is forgotten comes back behind those that stayed. -/
example :
    let ledger := empty.behind [.reconcile "a" ["x"], .reconcile "b" [], .reconcile "b" ["y", "y"],
      .reconcile "a" [], .forget "a", .reconcile "a" ["z"]]
    ledger.nodes = ["b", "a"] ∧ ledger.lookup "b" = ["y"] ∧ ledger.lookup "a" = ["z"] := by
  decide +kernel

end BlockLedger

end NodeDataplane
