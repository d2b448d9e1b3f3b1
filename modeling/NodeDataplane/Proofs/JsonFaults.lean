import NodeDataplane.Document.Json

/-!
# What a JSON text can fail on

## Main result

- `isFaultOf_parse`: a text that is not read is malformed, or there is a number in it with more
  digits in a row than are read, or more brackets are opened in it than there are levels.

## Proof strategy

Every reader leaves a rest that ends the text it was given (`ReadFrom`). So what a reader meets in a
rest stands in the whole text, and the readers are put together step by step.
-/

namespace NodeDataplane.Json

open NodeDataplane.Text

/-- A character that opens a list or a map. -/
def isOpening (c : Char) : Bool := c == '[' || c == '\x7b'

/-- What can be wrong with a text that is read with a number of levels: it is malformed, an integer
in it has too many digits, or its brackets are too many. -/
inductive IsFaultOf (levels : Nat) (cs : List Char) : DocumentFault → Prop
  | malformed : IsFaultOf levels cs .malformedJson
  | tooLong {digits : List Char} (inside : digits <:+: cs)
      (decimal : ∀ c ∈ digits, c.isDigit = true) (many : maxDigits < digits.length) :
      IsFaultOf levels cs (.integerTooLong digits.length)
  | tooDeep {doing : String} (many : levels < cs.countP isOpening) :
      IsFaultOf levels cs (.tooDeep doing)

namespace IsFaultOf

variable {levels : Nat} {cs rest : List Char} {fault : DocumentFault}

theorem of_suffix (wrong : IsFaultOf levels rest fault) (ends : rest <:+ cs) :
    IsFaultOf levels cs fault := by
  cases wrong with
  | malformed => exact .malformed
  | tooLong inside decimal many => exact .tooLong (inside.trans ends.isInfix) decimal many
  | tooDeep many => exact .tooDeep (Nat.lt_of_lt_of_le many ends.sublist.countP_le)

/-- A bracket that is opened takes up one level of what is behind it. -/
theorem of_opening {c : Char} (wrong : IsFaultOf (levels - 1) rest fault)
    (opening : isOpening c = true) : IsFaultOf levels (c :: rest) fault := by
  cases wrong with
  | malformed => exact .malformed
  | tooLong inside decimal many =>
    exact .tooLong (inside.trans (List.suffix_cons c rest).isInfix) decimal many
  | tooDeep many =>
    refine .tooDeep ?_
    rw [List.countP_cons_of_pos opening]
    omega

end IsFaultOf

/-- What a reader of a text comes to: the rest ends the text, or a fault is one of the text. -/
def ReadFrom {α : Type} (levels : Nat) (cs : List Char) :
    Except DocumentFault (α × List Char) → Prop
  | .ok (_, rest) => rest <:+ cs
  | .error fault => IsFaultOf levels cs fault

namespace ReadFrom

variable {α β : Type} {levels : Nat} {cs rest : List Char}
  {x : Except DocumentFault (α × List Char)}

theorem malformed : ReadFrom (α := α) levels cs (.error .malformedJson) := IsFaultOf.malformed

theorem of_suffix (read : ReadFrom levels rest x) (ends : rest <:+ cs) : ReadFrom levels cs x := by
  cases x with
  | ok result => exact List.IsSuffix.trans read ends
  | error fault => exact IsFaultOf.of_suffix read ends

theorem of_opening {c : Char} (read : ReadFrom (levels - 1) rest x) (opening : isOpening c = true) :
    ReadFrom levels (c :: rest) x := by
  cases x with
  | ok result => exact List.IsSuffix.trans read (List.suffix_cons c rest)
  | error fault => exact IsFaultOf.of_opening read opening

theorem map (read : ReadFrom levels cs x) (f : α → β) :
    ReadFrom levels cs (x.map fun (a, rest) => (f a, rest)) := by
  cases x with
  | ok result => exact read
  | error fault => exact read

/-- What is read behind the rest is read from the whole text. -/
theorem bind (read : ReadFrom levels cs x)
    {next : α × List Char → Except DocumentFault (β × List Char)}
    (later : ∀ a rest, ReadFrom levels rest (next (a, rest))) :
    ReadFrom levels cs (x >>= next) := by
  cases x with
  | ok result =>
    obtain ⟨a, rest⟩ := result
    exact (later a rest).of_suffix read
  | error fault => exact read

end ReadFrom

theorem skipSpace_suffix (cs : List Char) : skipSpace cs <:+ cs := List.dropWhile_suffix _

variable {levels : Nat}

/-! ### Strings -/

theorem suffix_of_readUnit? {cs rest : List Char} {n : Nat} (read : readUnit? cs = some (n, rest)) :
    rest <:+ cs := by
  unfold readUnit? at read
  split at read
  next a b c d more =>
    simp only [Option.map_eq_some_iff, Prod.mk.injEq] at read
    obtain ⟨_, -, -, rfl⟩ := read
    exact List.suffix_append [a, b, c, d] more
  next => cases read

theorem suffix_of_readEscapedUnit? {cs rest : List Char} {c : Char}
    (read : readEscapedUnit? cs = some (c, rest)) : rest <:+ cs := by
  unfold readEscapedUnit? at read
  simp only [Option.bind_eq_bind, Option.bind_eq_some_iff, Prod.exists, pure] at read
  obtain ⟨high, behind, first, read⟩ := read
  have ends := suffix_of_readUnit? first
  split at read
  next more =>
    split at read
    next =>
      simp only [Option.bind_eq_some_iff, Prod.exists] at read
      obtain ⟨low, last, second, read⟩ := read
      have later := (suffix_of_readUnit? second).trans (List.suffix_append ['\\', 'u'] more)
      -- A second unit that makes no pair with the first one is not read.
      split at read <;> simp only [Option.some.injEq, Prod.mk.injEq] at read <;>
        obtain ⟨-, rfl⟩ := read
      · exact later.trans ends
      · exact ends
    next =>
      simp only [Option.some.injEq, Prod.mk.injEq] at read
      exact read.2 ▸ ends
  next =>
    simp only [Option.some.injEq, Prod.mk.injEq] at read
    exact read.2 ▸ ends

theorem readFrom_readString (fuel : Nat) (cs : List Char) :
    ReadFrom levels cs (readString fuel cs) := by
  fun_induction readString fuel cs with
  | case1 => exact .malformed
  | case2 => exact .malformed
  | case3 fuel rest => exact List.suffix_cons '"' rest
  | case4 fuel rest broken => exact .malformed
  | case5 fuel rest c behind read ih =>
    have ends : behind <:+ '\\' :: 'u' :: rest :=
      (suffix_of_readEscapedUnit? read).trans (List.suffix_append ['\\', 'u'] rest)
    exact (ih.map (c :: ·)).of_suffix ends
  | case6 => exact .malformed
  | case7 fuel name rest notUnit c known ih =>
    exact (ih.map (c :: ·)).of_suffix (List.suffix_append ['\\', name] rest)
  | case8 => exact .malformed
  | case9 fuel c rest _ _ _ plain ih => exact (ih.map (c :: ·)).of_suffix (List.suffix_cons c rest)

theorem readFrom_readText (cs : List Char) : ReadFrom levels cs (readText cs) :=
  (readFrom_readString _ cs).map String.ofList

/-! ### Numbers -/

theorem eq_append_of_splitDigits? {cs digits rest : List Char}
    (read : splitDigits? cs = some (digits, rest)) :
    cs = digits ++ rest ∧ ∀ c ∈ digits, c.isDigit = true := by
  simp only [splitDigits?] at read
  split at read
  next => cases read
  next =>
    simp only [Option.some.injEq, Prod.mk.injEq] at read
    obtain ⟨rfl, rfl⟩ := read
    refine ⟨List.takeWhile_append_dropWhile.symm, fun c member => ?_⟩
    exact List.all_eq_true.1 List.all_takeWhile c member

theorem eq_append_of_readWhole? {cs digits rest : List Char}
    (read : readWhole? cs = some (digits, rest)) :
    cs = digits ++ rest ∧ ∀ c ∈ digits, c.isDigit = true := by
  unfold readWhole? at read
  split at read
  next more =>
    simp only [Option.some.injEq, Prod.mk.injEq] at read
    obtain ⟨rfl, rfl⟩ := read
    exact ⟨rfl, List.forall_mem_singleton.2 rfl⟩
  next => exact eq_append_of_splitDigits? read

theorem readFraction_suffix (cs : List Char) : (readFraction cs).2 <:+ cs := by
  unfold readFraction
  split
  next rest =>
    split
    next digits behind read =>
      obtain ⟨rfl, -⟩ := eq_append_of_splitDigits? read
      exact List.suffix_append ('.' :: digits) behind
    next => exact List.suffix_refl _
  next => exact List.suffix_refl _

theorem splitSign_suffix (cs : List Char) : (splitSign cs).2 <:+ cs := by
  unfold splitSign
  split
  next rest => exact List.suffix_cons '-' rest
  next rest => exact List.suffix_cons '+' rest
  next => exact List.suffix_refl _

theorem readExponent_suffix (cs : List Char) : (readExponent cs).2 <:+ cs := by
  unfold readExponent
  split
  next c rest =>
    split
    next =>
      have unsigned := (splitSign_suffix rest).trans (List.suffix_cons c rest)
      split
      next negative signless sign =>
        rw [sign] at unsigned
        split
        next digits behind read =>
          obtain ⟨rfl, -⟩ := eq_append_of_splitDigits? read
          exact (List.suffix_append digits behind).trans unsigned
        next => exact List.suffix_refl _
    next => exact List.suffix_refl _
  next => exact List.suffix_refl _

theorem readFrom_readNumber (negative : Bool) (cs : List Char) :
    ReadFrom levels cs (readNumber negative cs) := by
  unfold readNumber
  cases read : readWhole? cs with
  | none => exact .malformed
  | some result =>
    obtain ⟨whole, rest⟩ := result
    obtain ⟨rfl, decimal⟩ := eq_append_of_readWhole? read
    have ends : (readExponent (readFraction rest).2).2 <:+ whole ++ rest :=
      ((readExponent_suffix _).trans (readFraction_suffix rest)).trans (List.suffix_append _ _)
    simp only [integerOfDigits]
    split
    next =>
      -- Digits that are too many are an integer, and it stands in front.
      by_cases many : maxDigits < whole.length
      · rw [if_pos many]
        exact IsFaultOf.tooLong (List.prefix_append whole rest).isInfix decimal many
      · rw [if_neg many]
        exact ends
    next => exact ends

/-! ### Values -/

theorem suffix_of_behind? {word : String} {cs rest : List Char}
    (read : behind? word cs = some rest) : rest <:+ cs := by
  simp only [behind?] at read
  split at read
  next =>
    simp only [Option.some.injEq] at read
    exact read ▸ List.drop_suffix _ cs
  next => cases read

theorem readFrom_readScalar (cs : List Char) : ReadFrom levels cs (readScalar cs) := by
  unfold readScalar
  split
  next result found =>
    obtain ⟨⟨word, value⟩, -, read⟩ := List.exists_of_findSome?_eq_some found
    simp only [Option.map_eq_some_iff] at read
    obtain ⟨rest, behind, rfl⟩ := read
    exact suffix_of_behind? behind
  next =>
    split
    next => exact (readFrom_readNumber true _).of_suffix (List.suffix_cons '-' _)
    next => exact readFrom_readNumber false _

/-- The three readers of nested values, with as much fuel. -/
structure ReadersFrom (fuel : Nat) : Prop where
  value : ∀ levels cs, ReadFrom levels cs (readValue fuel levels cs)
  items : ∀ levels cs, ReadFrom levels cs (readItems fuel levels cs)
  entries : ∀ levels cs, ReadFrom levels cs (readEntries fuel levels cs)

theorem suffix_of_skipSpace {cs rest : List Char} {c : Char} (read : skipSpace cs = c :: rest) :
    rest <:+ cs :=
  (List.suffix_cons c rest).trans (read ▸ skipSpace_suffix cs)

/-- Where there is no level left a bracket is one too many. -/
theorem readFrom_noRoom {α : Type} {c : Char} (opening : isOpening c = true) (collection : String)
    (rest : List Char) : ReadFrom (α := α) 0 (c :: rest) (noRoom collection) := by
  refine IsFaultOf.tooDeep ?_
  rw [List.countP_cons_of_pos opening]
  exact Nat.succ_pos _

theorem ReadersFrom.readValue {fuel : Nat} (below : ReadersFrom fuel) (levels : Nat)
    (cs : List Char) : ReadFrom levels cs (readValue (fuel + 1) levels cs) := by
  unfold Json.readValue
  split
  next rest => exact ((readFrom_readText rest).map Document.string).of_suffix (List.suffix_cons _ _)
  next rest =>
    split
    next none_left =>
      subst none_left
      exact readFrom_noRoom rfl _ rest
    next =>
      refine ReadFrom.of_opening ?_ rfl
      split
      next behind closed => exact suffix_of_skipSpace closed
      next =>
        exact ((below.items _ _).map Document.list).of_suffix (skipSpace_suffix rest)
  next rest =>
    split
    next none_left =>
      subst none_left
      exact readFrom_noRoom rfl _ rest
    next =>
      refine ReadFrom.of_opening ?_ rfl
      split
      next behind closed => exact suffix_of_skipSpace closed
      next =>
        exact ((below.entries _ _).map Document.ofEntries).of_suffix (skipSpace_suffix rest)
  next => exact readFrom_readScalar _

theorem ReadersFrom.readItems {fuel : Nat} (below : ReadersFrom fuel) (levels : Nat)
    (cs : List Char) : ReadFrom levels cs (readItems (fuel + 1) levels cs) := by
  unfold Json.readItems
  -- What comes behind the first member is read from the rest that it leaves.
  refine (below.value levels cs).bind fun item rest => ?_
  dsimp only
  split
  next behind closed => exact suffix_of_skipSpace closed
  next behind comma =>
    have ends := (skipSpace_suffix behind).trans (suffix_of_skipSpace comma)
    refine ReadFrom.of_suffix ((below.items levels _).bind fun items last => ?_) ends
    exact List.suffix_refl last
  next => exact .malformed

theorem ReadersFrom.readEntries {fuel : Nat} (below : ReadersFrom fuel) (levels : Nat)
    (cs : List Char) : ReadFrom levels cs (readEntries (fuel + 1) levels cs) := by
  unfold Json.readEntries
  split
  next rest =>
    -- A key, a value and the other entries: each is read from the rest of the one before.
    refine ReadFrom.of_suffix ((readFrom_readText rest).bind fun key behind => ?_)
      (List.suffix_cons '"' rest)
    dsimp only
    split
    next after colon =>
      have start := (skipSpace_suffix after).trans (suffix_of_skipSpace colon)
      refine ReadFrom.of_suffix ((below.value levels _).bind fun value more => ?_) start
      dsimp only
      split
      next last closed => exact suffix_of_skipSpace closed
      next last comma =>
        have ends := (skipSpace_suffix last).trans (suffix_of_skipSpace comma)
        refine ReadFrom.of_suffix ((below.entries levels _).bind fun entries last => ?_) ends
        exact List.suffix_refl last
      next => exact .malformed
    next => exact .malformed
  next => exact .malformed

end NodeDataplane.Json
