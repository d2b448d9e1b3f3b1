import NodeDataplane.BlockLedger

/-!
# Calls of a ledger

A ledger is called again and again, by name of a node. Each call finds a ledger, returns a list or a
number, and leaves a ledger for the next one.

## Main result

`BlockLedger.removals_balance`: over any calls, a block is reported as gone from a node just as
often as the node took it in, but for the one time that it may still hold it.

## Proof strategy

One call changes what a node holds by what it takes in and what is reported (`holds_call`): the two
cannot happen in one call, and else the node holds what it held. The sums over a run follow by
induction on the calls.
-/

namespace NodeDataplane

inductive LedgerCall where
  | reconcile (node : String) (current : List String)
  | forget (node : String)
  | lookup (node : String)
  | nodes
  | size
  deriving DecidableEq, Repr

/-- What a call returns: a list of blocks or nodes, or a number. -/
inductive LedgerAnswer where
  | texts (texts : List String)
  | count (count : Nat)
  deriving DecidableEq, Repr

namespace BlockLedger

def call (ledger : BlockLedger) : LedgerCall → LedgerAnswer × BlockLedger
  | .reconcile node current =>
    let came := (ledger.reconcile node current).value
    (.texts came.1, came.2)
  | .forget node =>
    let came := (ledger.forget node).value
    (.texts came.1, came.2)
  | .lookup node => (.texts (ledger.lookup node), ledger)
  | .nodes => (.texts ledger.nodes, ledger)
  | .size => (.count ledger.size, ledger)

/-- A call, with the ledger that it found and what it returned. -/
structure Turn where
  before : BlockLedger
  call : LedgerCall
  answer : LedgerAnswer
  deriving DecidableEq, Repr

def turn (ledger : BlockLedger) (call : LedgerCall) : Turn :=
  ⟨ledger, call, (ledger.call call).1⟩

def turns : BlockLedger → List LedgerCall → List Turn
  | _, [] => []
  | ledger, call :: rest => ledger.turn call :: turns (ledger.call call).2 rest

def behind (ledger : BlockLedger) (calls : List LedgerCall) : BlockLedger :=
  calls.foldl (fun ledger call => (ledger.call call).2) ledger

theorem behind_concat (ledger : BlockLedger) (calls : List LedgerCall) (call : LedgerCall) :
    ledger.behind (calls ++ [call]) = ((ledger.behind calls).call call).2 := by
  rw [behind, List.foldl_append]
  rfl

/-! ### What a call takes in and what it reports -/

namespace Turn

/-- Whether a call gives a node a block that it did not hold. -/
def takesIn (node block : String) (turn : Turn) : Bool :=
  match turn.call with
  | .reconcile other current =>
    other = node && block ∈ current && block ∉ turn.before.lookup node
  | _ => false

/-- The node of a call that reports what is gone. -/
def reports? (turn : Turn) : Option String :=
  match turn.call with
  | .reconcile node _ => some node
  | .forget node => some node
  | _ => none

/-- Whether a call reports a block as gone from a node. -/
def reportsGone (node block : String) (turn : Turn) : Bool :=
  turn.reports? = some node &&
    match turn.answer with
    | .texts gone => block ∈ gone
    | .count _ => false

/-- What a call reports as gone is part of what the node held, in the same order and without
repetitions, and nothing that it is given just then. -/
def ReportsInOrder (turn : Turn) : Prop :=
  ∀ node, turn.reports? = some node → ∃ gone, turn.answer = .texts gone ∧ gone.Nodup ∧
    gone.Sublist (turn.before.lookup node) ∧
    ∀ current, turn.call = .reconcile node current → ∀ block ∈ current, block ∉ gone

end Turn

/-! ### One call -/

theorem Distinct.call {ledger : BlockLedger} (distinct : ledger.Distinct) (call : LedgerCall) :
    (ledger.call call).2.Distinct := by
  cases call with
  | reconcile node current => exact distinct.record node current
  | forget node => exact distinct.forget node
  | _ => exact distinct

theorem reportsInOrder_turn {ledger : BlockLedger} (distinct : ledger.Distinct)
    (call : LedgerCall) : (ledger.turn call).ReportsInOrder := by
  intro node reported
  cases call with
  | reconcile other current =>
    cases reported
    refine ⟨ledger.removals node current, rfl, (distinct node).filter _, List.filter_sublist, ?_⟩
    intro given same block member gone
    cases same
    exact (mem_removals.1 gone).2 member
  | forget other =>
    cases reported
    exact ⟨ledger.lookup node, rfl, distinct node, List.Sublist.refl _, nofun⟩
  | _ => cases reported

section Holds

variable (ledger : BlockLedger) (call : LedgerCall) (node block : String)

theorem takesIn_reconcile_iff {other : String} {current : List String} :
    (ledger.turn (.reconcile other current)).takesIn node block = true ↔
      other = node ∧ block ∈ current ∧ block ∉ ledger.lookup node := by
  rw [Turn.takesIn, turn, Bool.and_eq_true, Bool.and_eq_true, decide_eq_true_eq, decide_eq_true_eq,
    decide_eq_true_eq, and_assoc]

theorem reportsGone_reconcile_iff {other : String} {current : List String} :
    (ledger.turn (.reconcile other current)).reportsGone node block = true ↔
      other = node ∧ block ∈ ledger.lookup node ∧ block ∉ current := by
  simp only [Turn.reportsGone, Turn.reports?, turn, BlockLedger.call, reconcile, Bool.and_eq_true,
    decide_eq_true_eq, Option.some.injEq, mem_removals]
  exact and_congr_right fun same => by rw [same]

theorem reportsGone_forget_iff {other : String} :
    (ledger.turn (.forget other)).reportsGone node block = true ↔
      other = node ∧ block ∈ ledger.lookup node := by
  simp only [Turn.reportsGone, Turn.reports?, turn, BlockLedger.call, forget, Bool.and_eq_true,
    decide_eq_true_eq, Option.some.injEq]
  exact and_congr_right fun same => by rw [same]

/-- What a node holds of a block before a call and what the call takes in is what the call reports
and what the node holds then. -/
theorem holds_call :
    (if (ledger.turn call).takesIn node block then 1 else 0) +
        (if block ∈ ledger.lookup node then 1 else 0) =
      (if (ledger.turn call).reportsGone node block then 1 else 0) +
        if block ∈ (ledger.call call).2.lookup node then 1 else 0 := by
  cases call with
  | reconcile other current =>
    simp only [takesIn_reconcile_iff, reportsGone_reconcile_iff, BlockLedger.call, reconcile]
    by_cases same : other = node
    · subst same
      -- The block comes in, is gone, stays or stays away, by where it stood and where it stands.
      simp only [lookup_record_self, mem_firstSeen]
      by_cases stood : block ∈ ledger.lookup other <;> by_cases stands : block ∈ current <;>
        simp [stood, stands]
    · simp only [lookup_record_of_ne ledger current same, same, false_and, if_false]
  | forget other =>
    have nothing : (ledger.turn (.forget other)).takesIn node block = false := rfl
    simp only [nothing, reportsGone_forget_iff, BlockLedger.call]
    by_cases same : other = node
    · subst same
      simp only [lookup_forget_self, List.not_mem_nil]
      simp
    · simp only [lookup_forget_of_ne ledger same, same, false_and, Bool.false_eq_true, if_false]
  | _ => rfl

end Holds

/-! ### Runs of calls -/

/-- Whatever a node held at first, the sums over a run agree. -/
theorem holds_behind (ledger : BlockLedger) (calls : List LedgerCall) (node block : String) :
    (ledger.turns calls).countP (·.takesIn node block) +
        (if block ∈ ledger.lookup node then 1 else 0) =
      (ledger.turns calls).countP (·.reportsGone node block) +
        if block ∈ (ledger.behind calls).lookup node then 1 else 0 := by
  induction calls generalizing ledger with
  | nil => rfl
  | cons call rest ih =>
    have one := ledger.holds_call call node block
    have later := ih (ledger.call call).2
    have behind : ledger.behind (call :: rest) = (ledger.call call).2.behind rest := rfl
    rw [turns, List.countP_cons, List.countP_cons, behind]
    omega

theorem reportsInOrder_of_mem_turns {ledger : BlockLedger} (distinct : ledger.Distinct)
    {calls : List LedgerCall} {turn : Turn} (member : turn ∈ ledger.turns calls) :
    turn.ReportsInOrder := by
  induction calls generalizing ledger with
  | nil => cases member
  | cons call rest ih =>
    rcases List.mem_cons.1 member with rfl | later
    · exact reportsInOrder_turn distinct call
    · exact ih (distinct.call call) later

/-! ### Main result -/

/-- **No block that is gone is lost or reported twice.** Call a new ledger in any way. For every
node and block, the calls that give the node the block while it does not hold it are as many as the
calls that report the block as gone from the node, and one more if the node holds it in the end.
Each of these reports is without repetitions, in the order in which the node held its blocks, and
free of blocks that the node is given by the same call. -/
theorem removals_balance (calls : List LedgerCall) :
    let turns := empty.turns calls
    (∀ node block, turns.countP (·.takesIn node block) =
      turns.countP (·.reportsGone node block) +
        if block ∈ (empty.behind calls).lookup node then 1 else 0) ∧
    ∀ turn ∈ turns, turn.ReportsInOrder := by
  intro turns
  refine ⟨fun node block => empty.holds_behind calls node block, fun turn member => ?_⟩
  exact reportsInOrder_of_mem_turns distinct_empty member

/-- A block comes and goes twice, once with its node. -/
example :
    let turns := empty.turns [.reconcile "a" ["x", "y", "x"], .reconcile "a" ["y"],
      .reconcile "a" ["y", "x"], .forget "a", .forget "a", .reconcile "a" ["x"]]
    turns.map (·.takesIn "a" "x") = [true, false, true, false, false, true] ∧
      turns.map (·.reportsGone "a" "x") = [false, true, false, true, false, false] := by
  decide +kernel

end BlockLedger

end NodeDataplane
