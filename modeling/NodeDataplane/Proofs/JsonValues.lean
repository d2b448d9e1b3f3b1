import NodeDataplane.Proofs.JsonFaults

/-!
# What a JSON text holds

Every document has a text, unless it is or holds an integer of more digits than are written. A JSON
text holds no such integer, as one of so many digits is not read in the first place. Nor does it
hold parts of knots, as nothing in it can be referred to.

## Main result

- `isSimple_of_parse`: nothing in what is read from a JSON text is a knot or lacks a text.

## Proof strategy

A number of `n` digits is below `10 ^ n`, so no integer is read that cannot be written. Lists and
maps are made of what is read, and the readers are put together step by step (`Returns.bind`).
-/

namespace NodeDataplane

/-! ### Parts of a document -/

namespace Document

section Every

variable {p : Document → Bool} {entries : List (Document × Document)}

theorem everyItem_iff {items : List Document} :
    everyItem p items = true ↔ ∀ item ∈ items, item.every p = true := by
  induction items with
  | nil => simp [everyItem]
  | cons item rest ih => simp [everyItem, ih]

theorem everyEntry_iff :
    everyEntry p entries = true ↔
      ∀ entry ∈ entries, entry.1.every p = true ∧ entry.2.every p = true := by
  induction entries with
  | nil => simp [everyEntry]
  | cons entry rest ih => simp [everyEntry, ih]

theorem every_of_lookup? {key : String} {value : Document}
    (all : everyEntry p entries = true) (there : lookup? key entries = some value) :
    value.every p = true := by
  rw [everyEntry_iff] at all
  fun_induction lookup? key entries with
  | case1 => cases there
  | case2 v rest => exact Option.some.inj there ▸ (all _ List.mem_cons_self).2
  | case3 k v rest other ih | case4 entry rest other ih =>
    exact ih (fun entry member => all entry (List.mem_cons_of_mem _ member)) there

theorem everyEntry_putEntry {key value : Document} (all : everyEntry p entries = true)
    (here : key.every p = true) (there : value.every p = true) :
    everyEntry p (putEntry entries key value) = true := by
  induction entries with
  | nil => simp [putEntry, everyEntry, here, there]
  | cons entry rest ih =>
    simp only [everyEntry, Bool.and_eq_true] at all
    rw [putEntry]
    split <;> simp [everyEntry, all, there, ih]

/-- What holds of entries holds of those that replace others. -/
theorem every_ofEntries (map : ∀ entries, p (.map entries) = true)
    (all : everyEntry p entries = true) : (ofEntries entries).every p = true := by
  have from_any (done : List (Document × Document)) (before : everyEntry p done = true) :
      everyEntry p (entries.foldl (fun done entry => putEntry done entry.1 entry.2) done) =
        true := by
    induction entries generalizing done with
    | nil => exact before
    | cons entry rest ih =>
      simp only [everyEntry, Bool.and_eq_true] at all
      exact ih all.2 _ (everyEntry_putEntry before all.1.1 all.1.2)
  rw [ofEntries, every, map, from_any [] rfl]
  rfl

end Every

/-- A document is no part of a knot, and no integer of more digits than are written. -/
def isPlainPart : Document → Bool
  | knot _ _ => false
  | strand _ => false
  | d => d.isShort

/-- There is no knot in a document, and all of it has a text. -/
def isSimple (d : Document) : Bool := d.every isPlainPart

mutual

theorem isWritable_of_isSimple : ∀ d : Document, d.isSimple = true → d.isWritable = true
  | list items => everyItem_isShort items
  | pair first second => by
    simp only [isSimple, isWritable, every, isPlainPart, isShort, Bool.and_eq_true, true_and]
    exact And.imp (isWritable_of_isSimple first) (isWritable_of_isSimple second)
  | set members => everyItem_isShort members
  | map entries => everyEntry_isShort entries
  | int _ => by
    simp only [isSimple, isWritable, every, isPlainPart]
    exact id
  | knot _ _ => nofun
  | strand _ => nofun
  | null => fun _ => rfl
  | bool _ => fun _ => rfl
  | float _ => fun _ => rfl
  | string _ => fun _ => rfl
  | bytes _ => fun _ => rfl
  | date _ => fun _ => rfl
  | timestamp _ => fun _ => rfl

theorem everyItem_isShort : ∀ items : List Document, everyItem isPlainPart items = true →
    everyItem isShort items = true
  | [] => fun _ => rfl
  | item :: rest => by
    simp only [everyItem, Bool.and_eq_true]
    exact And.imp (isWritable_of_isSimple item) (everyItem_isShort rest)

theorem everyEntry_isShort : ∀ entries : List (Document × Document),
    everyEntry isPlainPart entries = true → everyEntry isShort entries = true
  | [] => fun _ => rfl
  | (key, value) :: rest => by
    simp only [everyEntry, Bool.and_eq_true]
    exact And.imp (And.imp (isWritable_of_isSimple key) (isWritable_of_isSimple value))
      (everyEntry_isShort rest)

end

theorem opened_of_isSimple {d : Document} (simple : d.isSimple = true) : d.opened = d := by
  cases d <;> first | rfl | cases simple

theorem entries?_eq_some_iff {d : Document} (simple : d.isSimple = true)
    {entries : List (Document × Document)} : d.entries? = some entries ↔ d = .map entries := by
  rw [entries?, opened_of_isSimple simple]
  cases d <;> simp

theorem items?_eq_some_iff {d : Document} (simple : d.isSimple = true) {items : List Document} :
    d.items? = some items ↔ d = .list items := by
  rw [items?, opened_of_isSimple simple]
  cases d <;> simp

end Document

namespace Json

open Document (everyItem everyEntry isPlainPart)

/-! ### Readers -/

/-- What a reader returns, if it returns something, is like that. -/
def Returns {α : Type} (P : α → Prop) (x : Except DocumentFault (α × List Char)) : Prop :=
  ∀ a rest, x = .ok (a, rest) → P a

namespace Returns

variable {α β : Type} {P : α → Prop} {Q : β → Prop} {x : Except DocumentFault (α × List Char)}

theorem ok {a : α} {rest : List Char} (here : P a) : Returns P (.ok (a, rest)) := by
  intro _ _ same
  cases same
  exact here

theorem error {fault : DocumentFault} : Returns P (.error fault) := nofun

theorem map (read : Returns P x) {f : α → β} (made : ∀ a, P a → Q (f a)) :
    Returns Q (x.map fun (a, rest) => (f a, rest)) := by
  cases x with
  | ok result => exact ok (made _ (read _ _ rfl))
  | error fault => exact error

theorem bind (read : Returns P x) {next : α × List Char → Except DocumentFault (β × List Char)}
    (later : ∀ a rest, P a → Returns Q (next (a, rest))) : Returns Q (x >>= next) := by
  cases x with
  | ok result => exact later _ _ (read _ _ rfl)
  | error fault => exact error

end Returns

/-! ### Numbers -/

/-- A number is below the power of ten with as many zeros as it has digits. -/
theorem natOfDigits_lt {digits : List Char} (decimal : ∀ c ∈ digits, c.isDigit = true) :
    Text.natOfDigits digits < Nat.pow 10 digits.length := by
  -- What is read before the digits counts as one more number in front of them.
  have behind (n : Nat) : digits.foldl (fun n c => 10 * n + (c.toNat - '0'.toNat)) n <
      (n + 1) * Nat.pow 10 digits.length := by
    induction digits generalizing n with
    | nil => exact Nat.lt_of_lt_of_eq n.lt_succ_self (Nat.mul_one _).symm
    | cons c rest ih =>
      have digit : c.toNat - '0'.toNat < 10 := by
        have bounds : 48 ≤ c.toNat ∧ c.toNat ≤ 57 := by
          simpa [Char.isDigit, UInt32.le_iff_toNat_le] using decimal c List.mem_cons_self
        have zero : '0'.toNat = 48 := rfl
        omega
      have first : 10 * n + (c.toNat - '0'.toNat) + 1 ≤ (n + 1) * 10 := by omega
      calc (c :: rest).foldl (fun n c => 10 * n + (c.toNat - '0'.toNat)) n
          < (10 * n + (c.toNat - '0'.toNat) + 1) * Nat.pow 10 rest.length :=
            ih (fun c member => decimal c (List.mem_cons_of_mem _ member)) _
        _ ≤ (n + 1) * 10 * Nat.pow 10 rest.length := Nat.mul_le_mul_right _ first
        _ = (n + 1) * Nat.pow 10 (c :: rest).length := by
          rw [Nat.mul_assoc, Nat.mul_comm 10]
          rfl
  exact Nat.lt_of_lt_of_eq (behind 0) (Nat.one_mul _)

theorem isSimple_of_integerOfDigits {digits : List Char} {n : Int}
    (decimal : ∀ c ∈ digits, c.isDigit = true) (read : integerOfDigits digits = .ok n)
    (negative : Bool) : (Document.int (if negative then -n else n)).isSimple = true := by
  unfold integerOfDigits at read
  split at read
  next => cases read
  next few =>
    cases read
    have bound : Nat.pow 10 digits.length ≤ Nat.pow 10 Text.maxDigits := by
      rw [Nat.pow_eq, Nat.pow_eq]
      exact Nat.pow_le_pow_right (by decide) (by omega)
    have below := Nat.lt_of_lt_of_le (natOfDigits_lt decimal) bound
    have size : (if negative then -(Text.natOfDigits digits : Int)
        else Text.natOfDigits digits).natAbs = Text.natOfDigits digits := by
      cases negative <;> simp
    simp only [Document.isSimple, Document.every, isPlainPart, Document.isShort, size, below,
      decide_true]

theorem returns_readNumber (negative : Bool) (cs : List Char) :
    Returns (·.isSimple = true) (readNumber negative cs) := by
  unfold readNumber
  cases read : readWhole? cs with
  | none => exact .error
  | some result =>
    obtain ⟨whole, rest⟩ := result
    obtain ⟨-, decimal⟩ := eq_append_of_readWhole? read
    dsimp only
    split
    next =>
      cases number : integerOfDigits whole with
      | error fault => exact .error
      | ok n => exact .ok (isSimple_of_integerOfDigits decimal number negative)
    next => exact .ok rfl

theorem returns_readScalar (cs : List Char) : Returns (·.isSimple = true) (readScalar cs) := by
  unfold readScalar
  split
  next result found =>
    obtain ⟨⟨word, value⟩, listed, read⟩ := List.exists_of_findSome?_eq_some found
    simp only [Option.map_eq_some_iff] at read
    obtain ⟨rest, -, rfl⟩ := read
    have simple : ∀ entry ∈ words, entry.2.isSimple = true := by
      simp [words, Document.isSimple, Document.every, isPlainPart, Document.isShort]
    exact .ok (simple _ listed)
  next => split <;> exact returns_readNumber _ _

/-! ### Values -/

/-- The three readers of nested values, with as much fuel. -/
structure ReadersReturn (fuel : Nat) : Prop where
  value : ∀ levels cs, Returns (·.isSimple = true) (readValue fuel levels cs)
  items : ∀ levels cs, Returns (everyItem isPlainPart · = true) (readItems fuel levels cs)
  entries : ∀ levels cs, Returns (everyEntry isPlainPart · = true) (readEntries fuel levels cs)

theorem readersReturn_zero : ReadersReturn 0 where
  value _ _ := .error
  items _ _ := .error
  entries _ _ := .error

variable {fuel : Nat}

theorem ReadersReturn.readValue (below : ReadersReturn fuel) (levels : Nat) (cs : List Char) :
    Returns (·.isSimple = true) (readValue (fuel + 1) levels cs) := by
  have text (cs : List Char) : Returns (fun _ : String => True) (readText cs) :=
    fun _ _ _ => trivial
  unfold Json.readValue
  split
  next rest => exact (text rest).map fun _ _ => rfl
  next rest =>
    split
    next => exact .error
    next =>
      split
      next => exact .ok rfl
      next => exact (below.items _ _).map fun _ simple => simple
  next rest =>
    split
    next => exact .error
    next =>
      split
      next => exact .ok rfl
      next => exact (below.entries _ _).map fun _ => Document.every_ofEntries fun _ => rfl
  next => exact returns_readScalar _

theorem ReadersReturn.readItems (below : ReadersReturn fuel) (levels : Nat) (cs : List Char) :
    Returns (everyItem isPlainPart · = true) (readItems (fuel + 1) levels cs) := by
  unfold Json.readItems
  -- The first member, and then the others behind a comma or the end of the list.
  refine (below.value levels cs).bind fun item rest here => ?_
  rw [Document.isSimple] at here
  dsimp only
  split
  next => exact .ok (by simp [everyItem, here])
  next =>
    refine (below.items levels _).bind fun items last there => .ok ?_
    simp [everyItem, here, there]
  next => exact .error

theorem ReadersReturn.readEntries (below : ReadersReturn fuel) (levels : Nat) (cs : List Char) :
    Returns (everyEntry isPlainPart · = true) (readEntries (fuel + 1) levels cs) := by
  have text (cs : List Char) : Returns (fun _ : String => True) (readText cs) :=
    fun _ _ _ => trivial
  have key (s : String) : (Document.string s).every isPlainPart = true := rfl
  unfold Json.readEntries
  split
  next rest =>
    -- The key is a text and so is simple, whatever it is.
    refine (text rest).bind fun s behind _ => ?_
    dsimp only
    split
    next =>
      refine (below.value levels _).bind fun value more here => ?_
      rw [Document.isSimple] at here
      dsimp only
      split
      next => exact .ok (by simp [everyEntry, key, here])
      next =>
        refine (below.entries levels _).bind fun entries last there => .ok ?_
        simp [everyEntry, key, here, there]
      next => exact .error
    next => exact .error
  next => exact .error

theorem readersReturn (fuel : Nat) : ReadersReturn fuel := by
  induction fuel with
  | zero => exact readersReturn_zero
  | succ fuel ih => exact ⟨ih.readValue, ih.readItems, ih.readEntries⟩

/-- Nothing in what is read from a JSON text is a knot or lacks a text. -/
theorem isSimple_of_parse [Loader] {s : String} {d : Document} (read : parse s = .ok d) :
    d.isSimple = true := by
  unfold parse at read
  cases value : readValue (2 * (skipSpace s.toList).length + 2) Loader.levels
      (skipSpace s.toList) with
  | error fault =>
    simp [value, bind, Except.bind] at read
  | ok result =>
    obtain ⟨d', rest⟩ := result
    simp only [value, bind, Except.bind] at read
    split at read
    next => cases read; exact (readersReturn _).value _ _ _ _ value
    next => cases read

end Json

end NodeDataplane
