import NodeDataplane.Journal
import NodeDataplane.Table
import NodeDataplane.Text.Quoted

/-!
# The ledger of blocks

The ledger remembers the address blocks last seen for each node, as the texts they were written in.
`reconcile` takes the full current set of a node and answers with the blocks that were there the
time before and are gone now. An entry whose set becomes empty stays; only `forget` takes it out.
-/

namespace NodeDataplane

open NodeDataplane.Text (quoted)

/-- The members of a list without repetitions, each where it first stands. -/
def firstSeen {α : Type} [DecidableEq α] : List α → List α
  | [] => []
  | x :: rest => x :: (firstSeen rest).filter (· ≠ x)

@[simp] theorem mem_firstSeen {α : Type} [DecidableEq α] {x : α} {xs : List α} :
    x ∈ firstSeen xs ↔ x ∈ xs := by
  induction xs with
  | nil => simp [firstSeen]
  | cons y ys ih => by_cases h : x = y <;> simp [firstSeen, h, ih]

@[simp] theorem firstSeen_eq_nil_iff {α : Type} [DecidableEq α] {xs : List α} :
    firstSeen xs = [] ↔ xs = [] := by
  cases xs <;> simp [firstSeen]

theorem nodup_firstSeen {α : Type} [DecidableEq α] (xs : List α) : (firstSeen xs).Nodup := by
  induction xs with
  | nil => simp [firstSeen]
  | cons y ys ih =>
    refine List.nodup_cons.2 ⟨by simp, ih.filter _⟩

theorem firstSeen_eq_self {α : Type} [DecidableEq α] {xs : List α} (h : xs.Nodup) :
    firstSeen xs = xs := by
  induction xs with
  | nil => rfl
  | cons y ys ih =>
    rw [List.nodup_cons] at h
    rw [firstSeen, ih h.2, List.filter_eq_self.2]
    intro x member
    simpa using fun same : x = y => h.1 (same ▸ member)

theorem firstSeen_filter {α : Type} [DecidableEq α] (p : α → Bool) (xs : List α) :
    firstSeen (xs.filter p) = (firstSeen xs).filter p := by
  induction xs with
  | nil => rfl
  | cons y ys ih =>
    by_cases kept : p y = true
    · rw [List.filter_cons_of_pos kept, firstSeen, ih, firstSeen, List.filter_cons_of_pos kept,
        List.filter_filter, List.filter_filter]
      simp only [Bool.and_comm]
    · rw [List.filter_cons_of_neg kept, ih, firstSeen, List.filter_cons_of_neg kept,
        List.filter_filter]
      apply List.filter_congr
      intro x _
      by_cases same : x = y <;> simp [same, kept]

theorem firstSeen_append_cons_of_mem {α : Type} [DecidableEq α] {x : α} {xs : List α}
    (h : x ∈ xs) (ys : List α) : firstSeen (xs ++ x :: ys) = firstSeen (xs ++ ys) := by
  induction xs with
  | nil => cases h
  | cons y rest ih =>
    rw [List.cons_append, List.cons_append, firstSeen, firstSeen]
    congr 1
    by_cases same : x = y
    · -- The first one takes all later ones away.
      subst same
      rw [← firstSeen_filter, ← firstSeen_filter, List.filter_append, List.filter_append,
        List.filter_cons_of_neg (by simp)]
    · have behind : x ∈ rest := (List.mem_cons.1 h).resolve_left same
      rw [ih behind]

/-- A member that comes last enters just if it is new. -/
theorem firstSeen_concat {α : Type} [DecidableEq α] (xs : List α) (x : α) :
    firstSeen (xs ++ [x]) = if x ∈ xs then firstSeen xs else firstSeen xs ++ [x] := by
  split
  next known => rw [firstSeen_append_cons_of_mem known, List.append_nil]
  next new =>
    induction xs with
    | nil => rfl
    | cons y rest ih =>
      simp only [List.mem_cons, not_or] at new
      rw [List.cons_append, firstSeen, ih new.2, List.filter_append, firstSeen, List.cons_append]
      simp [new.1]

def quotedList (texts : List String) : String :=
  "[" ++ ", ".intercalate (texts.map quoted) ++ "]"

structure BlockLedger where
  blocks : Table String (List String)
  deriving DecidableEq, Repr

namespace BlockLedger

def empty : BlockLedger := ⟨.empty⟩

instance : Inhabited BlockLedger := ⟨empty⟩

def lookup (ledger : BlockLedger) (node : String) : List String :=
  (ledger.blocks.get? node).getD []

def nodes (ledger : BlockLedger) : List String := ledger.blocks.keys

def size (ledger : BlockLedger) : Nat := ledger.blocks.size

def isEmpty (ledger : BlockLedger) : Bool := ledger.blocks.isEmpty

/-- The blocks that a node no longer holds when it holds `current`. -/
def removals (ledger : BlockLedger) (node : String) (current : List String) : List String :=
  (ledger.lookup node).filter (· ∉ current)

theorem mem_removals {ledger : BlockLedger} {node raw : String} {current : List String} :
    raw ∈ ledger.removals node current ↔ raw ∈ ledger.lookup node ∧ raw ∉ current := by
  simp [removals]

def record (ledger : BlockLedger) (node : String) (current : List String) : BlockLedger :=
  -- An unknown node comes in with its first block; a known one stays, also with none.
  if (ledger.blocks.get? node).isNone && (firstSeen current).isEmpty then ledger
  else ⟨ledger.blocks.put node (firstSeen current)⟩

/-- Take in the current blocks of a node and answer with those it no longer holds. -/
def reconcile (ledger : BlockLedger) (node : String) (current : List String) :
    Logged (List String × BlockLedger) :=
  let removed := ledger.removals node current
  ⟨(removed, ledger.record node current),
    if removed.isEmpty then []
    else [⟨.debug, .ledger, "Node " ++ node ++ " no longer holds CIDRs " ++ quotedList removed,
      none⟩]⟩

def forget (ledger : BlockLedger) (node : String) : Logged (List String × BlockLedger) :=
  let dropped := ledger.lookup node
  ⟨(dropped, ⟨ledger.blocks.erase node⟩),
    if dropped.isEmpty then []
    else [⟨.debug, .ledger, "Dropped CIDR tracking for node " ++ node, none⟩]⟩

def ofList (entries : List (String × List String)) : Logged BlockLedger :=
  entries.foldlM (fun ledger entry => do
    let (_, after) ← ledger.reconcile entry.1 entry.2
    return after) empty

/-! ### What a node holds afterwards -/

theorem lookup_record_self (ledger : BlockLedger) (node : String) (current : List String) :
    (ledger.record node current).lookup node = firstSeen current := by
  unfold record
  split
  next unknown =>
    simp only [Bool.and_eq_true, Option.isNone_iff_eq_none, List.isEmpty_iff] at unknown
    simp [lookup, unknown.1, unknown.2]
  next => simp [lookup]

theorem lookup_record_of_ne (ledger : BlockLedger) {node other : String} (current : List String)
    (h : node ≠ other) : (ledger.record node current).lookup other = ledger.lookup other := by
  unfold record
  split
  · rfl
  · simp [lookup, Table.get?_put_of_ne _ _ h]

@[simp] theorem lookup_forget_self (ledger : BlockLedger) (node : String) :
    (ledger.forget node).value.2.lookup node = [] := by
  simp [forget, lookup]

theorem lookup_forget_of_ne (ledger : BlockLedger) {node other : String} (h : node ≠ other) :
    (ledger.forget node).value.2.lookup other = ledger.lookup other := by
  simp [forget, lookup, Table.get?_erase_of_ne _ h]

/-! ### Each text once -/

/-- No node holds a text twice. -/
def Distinct (ledger : BlockLedger) : Prop := ∀ name, (ledger.lookup name).Nodup

theorem distinct_empty : Distinct empty := fun _ => List.nodup_nil

theorem Distinct.record {ledger : BlockLedger} (distinct : Distinct ledger) (node : String)
    (current : List String) : Distinct (ledger.record node current) := by
  intro name
  by_cases same : node = name
  · subst same
    rw [lookup_record_self]
    exact nodup_firstSeen current
  · rw [lookup_record_of_ne ledger current same]
    exact distinct name

theorem Distinct.forget {ledger : BlockLedger} (distinct : Distinct ledger) (node : String) :
    Distinct (ledger.forget node).value.2 := by
  intro name
  by_cases same : node = name
  · subst same
    rw [lookup_forget_self]
    exact List.nodup_nil
  · rw [lookup_forget_of_ne ledger same]
    exact distinct name

/-! ### Which nodes are known afterwards -/

theorem get?_eq_none_iff {ledger : BlockLedger} {node : String} :
    ledger.blocks.get? node = none ↔ node ∉ ledger.nodes := by
  rw [nodes, ← Table.get?_isSome_iff, Option.not_isSome_iff_eq_none]

theorem lookup_of_not_mem {ledger : BlockLedger} {node : String} (h : node ∉ ledger.nodes) :
    ledger.lookup node = [] := by
  rw [lookup, get?_eq_none_iff.2 h, Option.getD_none]

theorem lookup_of_isEmpty {ledger : BlockLedger} (h : ledger.isEmpty = true) (node : String) :
    ledger.lookup node = [] := by
  apply lookup_of_not_mem
  rw [isEmpty, Table.isEmpty, List.isEmpty_iff] at h
  simp [nodes, Table.keys, h]

/-- A node comes in with its first block and keeps its place. -/
theorem nodes_record (ledger : BlockLedger) (node : String) (current : List String) :
    (ledger.record node current).nodes =
      if node ∈ ledger.nodes ∨ current = [] then ledger.nodes else ledger.nodes ++ [node] := by
  have known : (ledger.blocks.get? node).isNone = true ↔ node ∉ ledger.nodes := by
    rw [Option.isNone_iff_eq_none, get?_eq_none_iff]
  unfold record
  split
  next unknown =>
    simp only [Bool.and_eq_true, List.isEmpty_iff, firstSeen_eq_nil_iff] at unknown
    rw [if_pos (Or.inr unknown.2)]
  next kept =>
    simp only [Bool.and_eq_true, List.isEmpty_iff, firstSeen_eq_nil_iff, known] at kept
    -- The condition of the record and that of the table are the same for a node with blocks.
    refine (Table.keys_put ledger.blocks node _).trans ?_
    by_cases member : node ∈ ledger.nodes
    · rw [if_pos (Or.inl member)]
      exact if_pos member
    · have held : current ≠ [] := fun empty => kept ⟨member, empty⟩
      rw [if_neg (not_or.2 ⟨member, held⟩)]
      exact if_neg member

theorem mem_nodes_record {ledger : BlockLedger} {node other : String} {current : List String} :
    other ∈ (ledger.record node current).nodes ↔
      other ∈ ledger.nodes ∨ other = node ∧ current ≠ [] := by
  rw [nodes_record]
  split
  next stays =>
    constructor
    · exact Or.inl
    · rintro (known | ⟨rfl, held⟩)
      · exact known
      · exact stays.resolve_right held
  next enters =>
    rw [not_or] at enters
    simp [enters.2]

theorem nodes_forget (ledger : BlockLedger) (node : String) :
    (ledger.forget node).value.2.nodes = ledger.nodes.filter (· ≠ node) :=
  Table.keys_erase ledger.blocks node

/-! ### What the ledger knows already -/

theorem removals_of_lookup {ledger : BlockLedger} {node : String} {current : List String}
    (known : ledger.lookup node = current) : ledger.removals node current = [] := by
  rw [removals, known, List.filter_eq_nil_iff]
  intro raw member
  simpa using member

/-- To be told what it knows leaves the ledger as it is, with every node in its place. -/
theorem record_of_lookup {ledger : BlockLedger} {node : String} {current : List String}
    (known : ledger.lookup node = firstSeen current) : ledger.record node current = ledger := by
  unfold record
  split
  next => rfl
  next entered =>
    cases found : ledger.blocks.get? node with
    | none =>
      -- A node that is not known holds nothing, so it would not come in.
      rw [lookup, found, Option.getD_none] at known
      simp [found, ← known] at entered
    | some held =>
      rw [lookup, found, Option.getD_some] at known
      rw [known] at found
      rw [Table.put_of_get? found]

theorem forget_of_not_mem {ledger : BlockLedger} {node : String} (h : node ∉ ledger.nodes) :
    (ledger.forget node).value.2 = ledger := by
  simp only [forget, Table.erase_of_get?_eq_none (get?_eq_none_iff.2 h)]

end BlockLedger

end NodeDataplane
