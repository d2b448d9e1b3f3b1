import NodeDataplane.Proofs.Ledger.Calls

/-!
# Lists that callers keep

A list that a call returns is an object: the caller may keep it, look at it later, and change it.
Here a ledger is taken apart into lists with numbers (`FiledLedger`). The ledger knows the lists of
its nodes by their numbers, a call makes lists and hands one out by its number, and whoever was
handed a list may write into it.

## Main results

- `FiledLedger.Files.behind`: whatever callers write into their lists, the calls return what those
  of a `BlockLedger` return.
- `FiledLedger.list_behind`: a list that was handed out changes only where a caller writes into it.

## Proof strategy

A list is the ledger's or a caller's, never both (`FiledLedger.Files`). Every call keeps this apart:
what it hands out is a list that it has just made, or one that the ledger gives up.
-/

namespace NodeDataplane

/-- A ledger that keeps lists under numbers, with the numbers of all lists that were handed out. -/
structure FiledLedger where
  lists : List (List String)
  numbers : Table String Nat
  handed : List Nat
  deriving DecidableEq, Repr

/-- What a call of a filed ledger returns: the number of a list, or a number of nodes. -/
inductive FiledAnswer where
  | list (number : Nat)
  | count (count : Nat)
  deriving DecidableEq, Repr

namespace FiledLedger

def empty : FiledLedger := ⟨[], .empty, []⟩

instance : Inhabited FiledLedger := ⟨empty⟩

def list (filed : FiledLedger) (number : Nat) : List String := filed.lists.getD number []

/-! ### Calls -/

/-- Make a list; its number is the number of lists there were. -/
def make (filed : FiledLedger) (texts : List String) : Nat × FiledLedger :=
  (filed.lists.length, { filed with lists := filed.lists ++ [texts] })

def assign (filed : FiledLedger) (node : String) (number : Nat) : FiledLedger :=
  { filed with numbers := filed.numbers.put node number }

/-- Let a node have a list, and make the list of what the one that it had says beyond. -/
def replace (filed : FiledLedger) (node : String) (desired : Nat) : Nat × FiledLedger :=
  match filed.numbers.get? node with
  | none => (if (filed.list desired).isEmpty then filed else filed.assign node desired).make []
  | some held =>
    let (removed, filed) := filed.make ((filed.list held).filter (· ∉ filed.list desired))
    -- The list that the node had is in nobody's hands from here on.
    (removed, filed.assign node desired)

def reconcile (filed : FiledLedger) (node : String) (current : List String) : Nat × FiledLedger :=
  let (desired, filed) := filed.make (firstSeen current)
  filed.replace node desired

def forget (filed : FiledLedger) (node : String) : Nat × FiledLedger :=
  match filed.numbers.get? node with
  | none => filed.make []
  | some held => (held, { filed with numbers := filed.numbers.erase node })

def lookup (filed : FiledLedger) (node : String) : Nat × FiledLedger :=
  filed.make ((filed.numbers.get? node).elim [] filed.list)

def nodes (filed : FiledLedger) : Nat × FiledLedger := filed.make filed.numbers.keys

def handOut (came : Nat × FiledLedger) : FiledAnswer × FiledLedger :=
  (.list came.1, { came.2 with handed := came.1 :: came.2.handed })

def call (filed : FiledLedger) : LedgerCall → FiledAnswer × FiledLedger
  | .reconcile node current => handOut (filed.reconcile node current)
  | .forget node => handOut (filed.forget node)
  | .lookup node => handOut (filed.lookup node)
  | .nodes => handOut filed.nodes
  | .size => (.count filed.numbers.size, filed)

theorem mem_handed_call {filed : FiledLedger} {call : LedgerCall} {number : Nat}
    (returned : (filed.call call).1 = .list number) : number ∈ (filed.call call).2.handed := by
  cases call with
  | size => cases returned
  | _ =>
    cases returned
    exact List.mem_cons_self

/-- What an answer says when it is looked at. -/
def read (filed : FiledLedger) : FiledAnswer → LedgerAnswer
  | .list number => .texts (filed.list number)
  | .count count => .count count

/-- Put other texts into a list. Only a list that was handed out can be written into. -/
def write (filed : FiledLedger) (number : Nat) (texts : List String) : FiledLedger :=
  if number ∈ filed.handed then { filed with lists := filed.lists.set number texts } else filed

/-- What happens to a ledger and its lists. -/
inductive Deed where
  | call (call : LedgerCall)
  | write (number : Nat) (texts : List String)
  deriving DecidableEq, Repr

def after (filed : FiledLedger) : Deed → FiledLedger
  | .call call => (filed.call call).2
  | .write number texts => filed.write number texts

def behind : FiledLedger → List Deed → FiledLedger := List.foldl after

def callsOf (deeds : List Deed) : List LedgerCall :=
  deeds.filterMap fun
    | .call call => some call
    | .write _ _ => none

/-! ### Lists that stay as they are -/

theorem list_of_prefix {filed later : FiledLedger} (grown : filed.lists <+: later.lists)
    {number : Nat} (there : number < filed.lists.length) :
    later.list number = filed.list number := by
  obtain ⟨more, lists⟩ := grown
  rw [list, list, ← lists, List.getD_eq_getElem?_getD, List.getD_eq_getElem?_getD,
    List.getElem?_append_left there]

theorem prefix_make (filed : FiledLedger) (texts : List String) :
    filed.lists <+: (filed.make texts).2.lists := List.prefix_append _ _

theorem list_make (filed : FiledLedger) (texts : List String) :
    (filed.make texts).2.list (filed.make texts).1 = texts := by
  simp [make, list]

theorem prefix_replace (filed : FiledLedger) (node : String) (desired : Nat) :
    filed.lists <+: (filed.replace node desired).2.lists := by
  rw [replace]
  cases filed.numbers.get? node with
  | none =>
    refine List.IsPrefix.trans ?_ (prefix_make _ [])
    split <;> exact List.prefix_refl _
  | some held => exact filed.prefix_make _

/-- A call adds lists and leaves all others as they are. -/
theorem prefix_call (filed : FiledLedger) (call : LedgerCall) :
    filed.lists <+: (filed.call call).2.lists := by
  cases call with
  | reconcile node current =>
    exact (filed.prefix_make (firstSeen current)).trans (prefix_replace _ node _)
  | forget node =>
    simp only [FiledLedger.call, handOut, forget]
    cases filed.numbers.get? node with
    | none => exact filed.prefix_make []
    | some held => exact List.prefix_refl _
  | lookup node => exact filed.prefix_make _
  | nodes => exact filed.prefix_make _
  | size => exact List.prefix_refl _

theorem length_after (filed : FiledLedger) (deed : Deed) :
    filed.lists.length ≤ (filed.after deed).lists.length := by
  cases deed with
  | call call => exact (filed.prefix_call call).length_le
  | write number texts =>
    rw [after, write]
    split
    · exact Nat.le_of_eq List.length_set.symm
    · exact Nat.le_refl _

theorem list_after (filed : FiledLedger) {deed : Deed} {number : Nat}
    (there : number < filed.lists.length) (unwritten : ∀ texts, deed ≠ .write number texts) :
    (filed.after deed).list number = filed.list number := by
  cases deed with
  | call call => exact list_of_prefix (filed.prefix_call call) there
  | write other texts =>
    have apart : other ≠ number := fun same => unwritten texts (by rw [same])
    rw [after, write]
    split
    · simp [list, List.getElem?_set_ne apart]
    · rfl

/-- Without a write into it, a list says what it said. -/
theorem list_behind {filed : FiledLedger} {deeds : List Deed} {number : Nat}
    (there : number < filed.lists.length)
    (unwritten : ∀ texts, .write number texts ∉ deeds) :
    (filed.behind deeds).list number = filed.list number := by
  induction deeds generalizing filed with
  | nil => rfl
  | cons deed rest ih =>
    have here : ∀ texts, deed ≠ .write number texts := fun texts same =>
      unwritten texts (same ▸ List.mem_cons_self)
    have later : ∀ texts, .write number texts ∉ rest := fun texts member =>
      unwritten texts (List.mem_cons_of_mem _ member)
    rw [← filed.list_after there here]
    exact ih (Nat.lt_of_lt_of_le there (filed.length_after deed)) later

/-! ### Lists of the ledger and lists of callers -/

/-- A filed ledger stands for a ledger: the lists of its nodes say what the ledger holds, and none
of them is that of another node or in the hands of a caller. -/
structure Files (filed : FiledLedger) (ledger : BlockLedger) : Prop where
  keys : filed.numbers.keys = ledger.nodes
  held (node : String) : ledger.blocks.get? node = (filed.numbers.get? node).map filed.list
  made {node : String} {number : Nat} (own : filed.numbers.get? node = some number) :
    number < filed.lists.length
  kept {node : String} {number : Nat} (own : filed.numbers.get? node = some number) :
    number ∉ filed.handed
  apart {node other : String} {number : Nat} (own : filed.numbers.get? node = some number)
    (also : filed.numbers.get? other = some number) : node = other
  given {number : Nat} (handed : number ∈ filed.handed) : number < filed.lists.length

theorem files_empty : Files empty .empty where
  keys := rfl
  held _ := rfl
  made := nofun
  kept := nofun
  apart := nofun
  given := nofun

namespace Files

variable {filed : FiledLedger} {ledger : BlockLedger}

theorem lookup_eq (files : Files filed ledger) (node : String) :
    (filed.numbers.get? node).elim [] filed.list = ledger.lookup node := by
  rw [BlockLedger.lookup, files.held]
  cases filed.numbers.get? node <;> rfl

theorem make (files : Files filed ledger) (texts : List String) :
    Files (filed.make texts).2 ledger where
  keys := files.keys
  held node := by
    rw [files.held node]
    cases own : filed.numbers.get? node with
    | none => simp [FiledLedger.make, own]
    | some number =>
      have same := list_of_prefix (filed.prefix_make texts) (files.made own)
      simp [FiledLedger.make, own] at same ⊢
      exact same.symm
  made own := Nat.lt_of_lt_of_le (files.made own) (filed.prefix_make texts).length_le
  kept own := files.kept own
  apart own also := files.apart own also
  given handed := Nat.lt_of_lt_of_le (files.given handed) (filed.prefix_make texts).length_le

/-- A list that was just made is nobody's. -/
theorem fresh (files : Files filed ledger) {node : String} :
    filed.numbers.get? node ≠ some filed.lists.length := fun own =>
  Nat.lt_irrefl _ (files.made own)

theorem free_fresh (files : Files filed ledger) : filed.lists.length ∉ filed.handed :=
  fun handed => Nat.lt_irrefl _ (files.given handed)

theorem assign (files : Files filed ledger) {number : Nat} (there : number < filed.lists.length)
    (free : number ∉ filed.handed) (unowned : ∀ node, filed.numbers.get? node ≠ some number)
    (node : String) :
    Files (filed.assign node number) ⟨ledger.blocks.put node (filed.list number)⟩ := by
  -- The node owns the list, and every other node owns the list that it owned.
  have owns {other : String} {owned : Nat}
      (own : (filed.assign node number).numbers.get? other = some owned) :
      node = other ∧ owned = number ∨ node ≠ other ∧ filed.numbers.get? other = some owned := by
    by_cases same : node = other
    · subst same
      rw [FiledLedger.assign, Table.get?_put_self, Option.some.injEq] at own
      exact Or.inl ⟨rfl, own.symm⟩
    · rw [FiledLedger.assign, Table.get?_put_of_ne _ _ same] at own
      exact Or.inr ⟨same, own⟩
  constructor
  case keys =>
    rw [FiledLedger.assign, Table.keys_put, files.keys]
    exact (Table.keys_put ledger.blocks node _).symm
  case held =>
    intro other
    by_cases same : node = other
    · subst same
      rw [FiledLedger.assign, Table.get?_put_self, Table.get?_put_self]
      rfl
    · rw [FiledLedger.assign, Table.get?_put_of_ne _ _ same, Table.get?_put_of_ne _ _ same,
        files.held]
      rfl
  case made =>
    intro other owned own
    rcases owns own with ⟨-, rfl⟩ | ⟨-, own⟩
    · exact there
    · exact files.made own
  case kept =>
    intro other owned own
    rcases owns own with ⟨-, rfl⟩ | ⟨-, own⟩
    · exact free
    · exact files.kept own
  case apart =>
    intro first second owned own also
    rcases owns own with ⟨here, fresh⟩ | ⟨-, own⟩
    · rcases owns also with ⟨there, -⟩ | ⟨-, also⟩
      · exact here.symm.trans there
      · exact absurd (fresh ▸ also) (unowned second)
    · rcases owns also with ⟨-, fresh⟩ | ⟨-, also⟩
      · exact absurd (fresh ▸ own) (unowned first)
      · exact files.apart own also
  case given =>
    intro owned handed
    exact files.given handed

/-- A node gives up its list, which is nobody's then. -/
theorem erase (files : Files filed ledger) {node : String} {number : Nat}
    (own : filed.numbers.get? node = some number) :
    let dropped : FiledLedger := { filed with numbers := filed.numbers.erase node }
    Files dropped ⟨ledger.blocks.erase node⟩ ∧ number < dropped.lists.length ∧
      ∀ other, dropped.numbers.get? other ≠ some number := by
  have owns {other : String} {owned : Nat}
      (left : (filed.numbers.erase node).get? other = some owned) :
      node ≠ other ∧ filed.numbers.get? other = some owned := by
    by_cases same : node = other
    · subst same
      rw [Table.get?_erase_self] at left
      cases left
    · rw [Table.get?_erase_of_ne _ same] at left
      exact ⟨same, left⟩
  refine ⟨?_, files.made own, fun other left => ?_⟩
  · constructor
    case keys =>
      rw [Table.keys_erase, files.keys]
      exact (Table.keys_erase ledger.blocks node).symm
    case held =>
      intro other
      by_cases same : node = other
      · subst same
        rw [Table.get?_erase_self, Table.get?_erase_self]
        rfl
      · rw [Table.get?_erase_of_ne _ same, Table.get?_erase_of_ne _ same, files.held]
        rfl
    case made => exact fun left => files.made (owns left).2
    case kept => exact fun left => files.kept (owns left).2
    case apart => exact fun left also => files.apart (owns left).2 (owns also).2
    case given => exact fun handed => files.given handed
  · obtain ⟨different, also⟩ := owns left
    exact different (files.apart own also)

theorem handOut (files : Files filed ledger) {number : Nat} (there : number < filed.lists.length)
    (unowned : ∀ node, filed.numbers.get? node ≠ some number) :
    Files (FiledLedger.handOut (number, filed)).2 ledger where
  keys := files.keys
  held node := files.held node
  made own := files.made own
  kept {node owned} own handed := by
    rcases List.mem_cons.1 handed with rfl | handed
    · exact unowned node own
    · exact files.kept own handed
  apart own also := files.apart own also
  given handed := by
    rcases List.mem_cons.1 handed with rfl | handed
    · exact there
    · exact files.given handed

/-- A list that is made and handed out is no list of the ledger. -/
theorem handOut_make (files : Files filed ledger) (texts : List String) :
    let came := FiledLedger.handOut (filed.make texts)
    came.2.read came.1 = .texts texts ∧ Files came.2 ledger := by
  refine ⟨congrArg LedgerAnswer.texts (filed.list_make texts), ?_⟩
  apply (files.make texts).handOut
  · simp [FiledLedger.make]
  · intro node own
    exact files.fresh own

theorem write (files : Files filed ledger) (number : Nat) (texts : List String) :
    Files (filed.write number texts) ledger := by
  rw [FiledLedger.write]
  split
  next handed =>
    have length : (filed.lists.set number texts).length = filed.lists.length := List.length_set
    constructor
    case keys => exact files.keys
    case held =>
      intro node
      rw [files.held]
      cases own : filed.numbers.get? node with
      | none => rfl
      | some owned =>
        -- The list of a node is in nobody's hands, so it is not the one that is written into.
        have apart : number ≠ owned := fun same => files.kept own (same ▸ handed)
        simp [FiledLedger.list, List.getElem?_set_ne apart]
    case made =>
      intro node owned own
      rw [length]
      exact files.made own
    case kept => exact fun own => files.kept own
    case apart => exact fun own also => files.apart own also
    case given =>
      intro owned given
      rw [length]
      exact files.given given
  next => exact files

/-! ### One call -/

/-- A node is given a list that is nobody's so far. -/
theorem replace (files : Files filed ledger) {desired : Nat} (there : desired < filed.lists.length)
    (free : desired ∉ filed.handed) (unowned : ∀ node, filed.numbers.get? node ≠ some desired)
    (node : String) {current : List String} (told : filed.list desired = firstSeen current) :
    let came := FiledLedger.handOut (filed.replace node desired)
    came.2.read came.1 = .texts (ledger.removals node current) ∧
      Files came.2 (ledger.record node current) := by
  have looked := files.lookup_eq node
  rw [FiledLedger.replace]
  cases own : filed.numbers.get? node with
  | none =>
    rw [own, Option.elim_none] at looked
    have unknown : ledger.blocks.get? node = none := by
      rw [files.held, own]
      rfl
    have nothing : ledger.removals node current = [] := by
      rw [BlockLedger.removals, ← looked]
      rfl
    simp only [nothing, BlockLedger.record, unknown, told, Option.isNone_none, Bool.true_and]
    split
    next => exact files.handOut_make []
    next =>
      have assigned := files.assign there free unowned node
      rw [told] at assigned
      exact assigned.handOut_make []
  | some held =>
    rw [own, Option.elim_some] at looked
    have gone : (filed.list held).filter (· ∉ filed.list desired) =
        ledger.removals node current := by
      rw [looked, told, BlockLedger.removals]
      simp only [mem_firstSeen]
    have recorded : ledger.record node current =
        ⟨ledger.blocks.put node (filed.list desired)⟩ := by
      simp [BlockLedger.record, files.held, own, told]
    simp only [gone]
    rw [recorded]
    -- The list of what is gone is made behind the other one, which the node has from here on.
    have supplied := files.make (ledger.removals node current)
    have same := list_of_prefix (filed.prefix_make (ledger.removals node current)) there
    have assigned := supplied.assign
      (Nat.lt_of_lt_of_le there (filed.prefix_make _).length_le) free unowned node
    rw [same] at assigned
    refine ⟨congrArg LedgerAnswer.texts (filed.list_make _), assigned.handOut ?_ ?_⟩
    · simp [FiledLedger.make, FiledLedger.assign]
    · intro other owned
      by_cases here : node = other
      · subst here
        rw [FiledLedger.assign, Table.get?_put_self, Option.some.injEq] at owned
        exact Nat.lt_irrefl _ (owned ▸ there)
      · rw [FiledLedger.assign, Table.get?_put_of_ne _ _ here] at owned
        exact files.fresh owned

theorem reconcile (files : Files filed ledger) (node : String) (current : List String) :
    let came := FiledLedger.handOut (filed.reconcile node current)
    came.2.read came.1 = .texts (ledger.removals node current) ∧
      Files came.2 (ledger.record node current) := by
  have made := files.make (firstSeen current)
  apply made.replace
  · simp [FiledLedger.make]
  · exact files.free_fresh
  · exact fun _ => files.fresh
  · exact filed.list_make (firstSeen current)

theorem forget (files : Files filed ledger) (node : String) :
    let came := FiledLedger.handOut (filed.forget node)
    came.2.read came.1 = .texts (ledger.lookup node) ∧
      Files came.2 (ledger.forget node).value.2 := by
  have looked := files.lookup_eq node
  rw [FiledLedger.forget]
  cases own : filed.numbers.get? node with
  | none =>
    rw [own, Option.elim_none] at looked
    have unknown : (ledger.forget node).value.2 = ledger := by
      apply BlockLedger.forget_of_not_mem
      rw [← BlockLedger.get?_eq_none_iff, files.held, own]
      rfl
    rw [← looked, unknown]
    exact files.handOut_make []
  | some held =>
    rw [own, Option.elim_some] at looked
    obtain ⟨dropped, there, unowned⟩ := files.erase own
    exact ⟨congrArg LedgerAnswer.texts looked, dropped.handOut there unowned⟩

/-- A call returns what the call of the ledger returns, and leaves what stands for the ledger that
it leaves. -/
theorem call (files : Files filed ledger) (call : LedgerCall) :
    (filed.call call).2.read (filed.call call).1 = (ledger.call call).1 ∧
      Files (filed.call call).2 (ledger.call call).2 := by
  cases call with
  | reconcile node current => exact files.reconcile node current
  | forget node => exact files.forget node
  | lookup node =>
    have came := files.handOut_make ((filed.numbers.get? node).elim [] filed.list)
    exact ⟨came.1.trans (congrArg LedgerAnswer.texts (files.lookup_eq node)), came.2⟩
  | nodes =>
    have came := files.handOut_make filed.numbers.keys
    exact ⟨came.1.trans (congrArg LedgerAnswer.texts files.keys), came.2⟩
  | size =>
    refine ⟨congrArg LedgerAnswer.count ?_, files⟩
    rw [Table.size_eq_length_keys, files.keys, BlockLedger.size, Table.size_eq_length_keys]
    rfl

end Files

/-! ### Main results -/

theorem Files.after {filed : FiledLedger} {ledger : BlockLedger} (files : Files filed ledger)
    (deed : Deed) : Files (filed.after deed) (ledger.behind (callsOf [deed])) := by
  cases deed with
  | call call => exact (files.call call).2
  | write number texts => exact files.write number texts

/-- Whatever callers write into the lists that they were handed, the ledger is what its calls make
of it. -/
theorem Files.behind {filed : FiledLedger} {ledger : BlockLedger} (files : Files filed ledger)
    (deeds : List Deed) : Files (filed.behind deeds) (ledger.behind (callsOf deeds)) := by
  induction deeds generalizing filed ledger with
  | nil => exact files
  | cons deed rest ih =>
    have later := ih (files.after deed)
    cases deed with
    | call call => exact later
    | write number texts => exact later

end FiledLedger

end NodeDataplane
