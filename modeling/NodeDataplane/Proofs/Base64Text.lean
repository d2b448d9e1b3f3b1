import Mathlib.Tactic.IntervalCases
import NodeDataplane.Base64

/-!
# The texts that write bytes in base64

Reading is not the inverse of writing. Where the last group writes one byte or two, its last
character has four or two bits that belong to no byte, and writing sets them to zero; a text in
which they are set is read as well. So is a text of complete groups with pads behind it.

## Main results

- `decode_eq_ok_iff`: the texts that are read as some bytes, all of them.
- `encodeWith_inj`: texts that differ in the spare bits are different texts of the same bytes.

## Proof strategy

A text is told from its sextets by the alphabet and the pads (`sextets_text`, `text_of_sextets`),
and sextets from their bytes group by group (`bytes_sextetsOf`, `exists_sextetsOf_bytes`).
-/

namespace NodeDataplane.Base64

/-! ### The alphabet -/

theorem toNat_lt_of_sextet? {c : Char} {n : Nat} (read : sextet? c = some n) : c.toNat < 128 := by
  unfold sextet? at read
  simp only [Bool.and_eq_true, decide_eq_true_eq] at read
  split at read
  next upper => exact Nat.lt_of_le_of_lt upper.2 (by decide)
  next =>
    split at read
    next lower => exact Nat.lt_of_le_of_lt lower.2 (by decide)
    next =>
      split at read
      next digit => exact Nat.lt_of_le_of_lt digit.2 (by decide)
      next =>
        split at read
        next plus => exact plus ▸ by decide
        next =>
          split at read
          next slash => exact slash ▸ by decide
          next => cases read

theorem eq_character_of_code : ∀ code < 128, ∀ n ∈ sextet? (Char.ofNat code),
    n < 64 ∧ Char.ofNat code = character n := by
  decide

theorem sextet?_eq_some_iff {c : Char} {n : Nat} :
    sextet? c = some n ↔ n < 64 ∧ c = character n := by
  constructor
  · intro read
    have found := eq_character_of_code c.toNat (toNat_lt_of_sextet? read) n
    rw [Char.ofNat_toNat] at found
    exact found read
  · rintro ⟨small, rfl⟩
    exact sextet?_character n small

theorem toNat_character_lt {n : Nat} (small : n < 64) : (character n).toNat < 128 :=
  toNat_lt_of_sextet? (sextet?_character n small)

/-! ### Pads -/

/-- Some characters of data need no more pads, or just as many as there are. -/
def IsClosed (count pads : Nat) : Prop :=
  count % 4 = 0 ∨ 2 ≤ count % 4 ∧ count % 4 + pads = 4

theorem checkEnd_eq_ok_iff {count : Nat} : checkEnd count = .ok () ↔ count % 4 = 0 := by
  unfold checkEnd
  split
  next complete => exact iff_of_true rfl complete
  next part =>
    refine iff_of_false ?_ part
    split <;> nofun

/-- Until the last group is closed, pads are taken one by one; nothing may stand behind them. -/
theorem checkPadding_eq_ok_iff {count pads : Nat} {cs : List Char}
    (unclosed : 2 ≤ count % 4 → count % 4 + pads < 4) :
    checkPadding count pads cs = .ok () ↔
      (∀ c ∈ cs, c = '=') ∧ IsClosed count (pads + cs.length) := by
  induction cs generalizing pads with
  | nil =>
    rw [checkPadding, checkEnd_eq_ok_iff, IsClosed]
    simp only [List.not_mem_nil, false_imp_iff, implies_true, true_and, List.length_nil]
    omega
  | cons c rest ih =>
    rw [checkPadding, List.forall_mem_cons, List.length_cons]
    by_cases pad : c = '='
    · rw [if_pos pad]
      by_cases last : 2 ≤ count % 4 ∧ 4 ≤ count % 4 + pads + 1
      · -- This pad closes the group, so nothing may follow.
        have before := unclosed last.1
        rw [if_pos last, IsClosed]
        cases rest with
        | nil =>
          refine iff_of_true rfl ⟨⟨pad, nofun⟩, .inr ⟨last.1, ?_⟩⟩
          rw [List.length_nil]
          omega
        | cons c rest =>
          refine iff_of_false nofun ?_
          rw [List.length_cons]
          omega
      · rw [if_neg last, ih (by omega), Nat.add_assoc, Nat.add_comm 1]
        simp only [pad, true_and]
    · rw [if_neg pad]
      refine iff_of_false ?_ fun whole => pad whole.1.1
      split <;> nofun

theorem sextets_pads {count pads : Nat} (closed : IsClosed count pads) :
    sextets count (List.replicate pads '=') = .ok [] := by
  cases pads with
  | zero =>
    have complete : count % 4 = 0 := by
      rcases closed with complete | part <;> omega
    rw [List.replicate_zero, sextets, checkEnd_eq_ok_iff.2 complete]
    rfl
  | succ n =>
    have taken : checkPadding count 0 ('=' :: List.replicate n '=') = .ok () := by
      refine (checkPadding_eq_ok_iff (by omega)).2 ⟨?_, by simpa using closed⟩
      exact List.forall_mem_cons.2 ⟨rfl, fun c => List.eq_of_mem_replicate⟩
    rw [List.replicate_succ, sextets, if_pos rfl, taken]
    rfl

/-- The sextets of characters are read if the pads behind them close the last group. -/
theorem sextets_text {count pads : Nat} {six : List Nat} (small : ∀ n ∈ six, n < 64)
    (closed : IsClosed (count + six.length) pads) :
    sextets count (six.map character ++ List.replicate pads '=') = .ok six := by
  induction six generalizing count with
  | nil => exact sextets_pads closed
  | cons n six ih =>
    rw [List.forall_mem_cons] at small
    rw [List.length_cons, Nat.add_comm six.length, ← Nat.add_assoc] at closed
    rw [List.map_cons, List.cons_append, sextets_character small.1, ih small.2 closed]
    rfl

/-- Nothing else is read. -/
theorem text_of_sextets {count : Nat} {cs : List Char} {six : List Nat}
    (taken : sextets count cs = .ok six) :
    (∀ n ∈ six, n < 64) ∧ ∃ pads, cs = six.map character ++ List.replicate pads '=' ∧
      IsClosed (count + six.length) pads := by
  induction cs generalizing count six with
  | nil =>
    rw [sextets] at taken
    cases ends : checkEnd count with
    | error fault =>
      rw [ends] at taken
      cases taken
    | ok =>
      rw [ends] at taken
      cases taken
      exact ⟨List.forall_mem_nil _, 0, rfl, .inl (checkEnd_eq_ok_iff.1 ends)⟩
  | cons c rest ih =>
    rw [sextets] at taken
    by_cases pad : c = '='
    · rw [if_pos pad] at taken
      cases padding : checkPadding count 0 (c :: rest) with
      | error fault =>
        rw [padding] at taken
        cases taken
      | ok =>
        rw [padding] at taken
        cases taken
        -- The data ends here: no sextet is left, and the rest are pads.
        obtain ⟨all, closed⟩ := (checkPadding_eq_ok_iff (by omega)).1 padding
        rw [Nat.zero_add] at closed
        exact ⟨List.forall_mem_nil _, (c :: rest).length, List.eq_replicate_of_mem all, closed⟩
    · rw [if_neg pad] at taken
      cases read : sextet? c with
      | none =>
        rw [read] at taken
        cases taken
      | some n =>
        rw [read] at taken
        obtain ⟨small, rfl⟩ := sextet?_eq_some_iff.1 read
        cases behind : sextets (count + 1) rest with
        | error fault =>
          rw [behind] at taken
          cases taken
        | ok tail =>
          rw [behind] at taken
          cases taken
          obtain ⟨smalls, pads, rfl, closed⟩ := ih behind
          rw [Nat.add_assoc, Nat.add_comm 1] at closed
          exact ⟨List.forall_mem_cons.2 ⟨small, smalls⟩, pads, rfl, closed⟩

/-! ### Sextets of bytes -/

/-- The sextets that write bytes, the last one with bits that belong to no byte. -/
def sextetsOf (spare : Nat) : List UInt8 → List Nat
  | a :: b :: c :: rest =>
    a.toNat / 4 :: (a.toNat % 4 * 16 + b.toNat / 16) :: (b.toNat % 16 * 4 + c.toNat / 64) ::
      c.toNat % 64 :: sextetsOf spare rest
  | [a, b] => [a.toNat / 4, a.toNat % 4 * 16 + b.toNat / 16, b.toNat % 16 * 4 + spare]
  | [a] => [a.toNat / 4, a.toNat % 4 * 16 + spare]
  | [] => []

/-- How many values the spare bits have, behind some number of bytes. -/
def spareBound (size : Nat) : Nat :=
  if size % 3 = 0 then 1 else if size % 3 = 1 then 16 else 4

theorem spareBound_pos (size : Nat) : 0 < spareBound size := by
  unfold spareBound
  split
  · decide
  · split <;> decide

/-- A complete group has no spare bits, so those of the bytes behind it count. -/
theorem spareBound_length_cons {α : Type} (a b c : α) (rest : List α) :
    spareBound (a :: b :: c :: rest).length = spareBound rest.length := by
  simp [spareBound, Nat.add_assoc]

theorem length_sextetsOf (spare : Nat) (bs : List UInt8) :
    (sextetsOf spare bs).length = (bs.length * 4 + 2) / 3 := by
  fun_induction sextetsOf spare bs with
  | case1 a b c rest ih =>
    simp only [List.length_cons, ih]
    omega
  | case2 => simp
  | case3 => simp
  | case4 => simp

theorem lt_of_mem_sextetsOf {spare : Nat} {bs : List UInt8} (small : spare < spareBound bs.length) :
    ∀ n ∈ sextetsOf spare bs, n < 64 := by
  fun_induction sextetsOf spare bs with
  | case1 a b c rest ih =>
    have := a.toNat_lt
    have := b.toNat_lt
    have := c.toNat_lt
    simp only [List.forall_mem_cons]
    rw [spareBound_length_cons] at small
    exact ⟨by omega, by omega, by omega, by omega, ih small⟩
  | case2 a b =>
    have := a.toNat_lt
    have := b.toNat_lt
    have : spare < 4 := small
    simp only [List.forall_mem_cons]
    exact ⟨by omega, by omega, by omega, by simp⟩
  | case3 a =>
    have := a.toNat_lt
    have : spare < 16 := small
    simp only [List.forall_mem_cons]
    exact ⟨by omega, by omega, by simp⟩
  | case4 => simp

theorem bytes_sextetsOf {spare : Nat} {bs : List UInt8} (small : spare < spareBound bs.length) :
    bytes (sextetsOf spare bs) = bs := by
  fun_induction sextetsOf spare bs with
  | case1 a b c rest ih =>
    rw [spareBound_length_cons] at small
    rw [bytes_group, ih small]
  | case2 a b =>
    have := a.toNat_lt
    have := b.toNat_lt
    have bound : spare < 4 := small
    have first : a.toNat / 4 * 4 + (a.toNat % 4 * 16 + b.toNat / 16) / 16 = a.toNat := by omega
    have second : (a.toNat % 4 * 16 + b.toNat / 16) % 16 * 16 + (b.toNat % 16 * 4 + spare) / 4 =
        b.toNat := by omega
    simp only [bytes, first, second, UInt8.ofNat_toNat]
  | case3 a =>
    have := a.toNat_lt
    have bound : spare < 16 := small
    have first : a.toNat / 4 * 4 + (a.toNat % 4 * 16 + spare) / 16 = a.toNat := by omega
    simp only [bytes, first, UInt8.ofNat_toNat]
  | case4 => rfl

/-- Sextets that write bytes are the sextets of these bytes, but for the spare bits. -/
theorem exists_sextetsOf_bytes {six : List Nat} (small : ∀ n ∈ six, n < 64)
    (full : six.length % 4 ≠ 1) :
    ∃ spare < spareBound (bytes six).length, six = sextetsOf spare (bytes six) := by
  fun_induction bytes six with
  | case1 a b c d rest ih =>
    simp only [List.forall_mem_cons] at small
    obtain ⟨ha, hb, hc, hd, small⟩ := small
    simp only [List.length_cons] at full
    obtain ⟨spare, bound, same⟩ := ih small (by omega)
    refine ⟨spare, by rwa [spareBound_length_cons], ?_⟩
    simp only [sextetsOf, ← same, UInt8.toNat_ofNat', List.cons.injEq, and_true]
    omega
  | case2 a b c =>
    simp only [List.forall_mem_cons] at small
    -- The two last bits of the third sextet are spare.
    refine ⟨c % 4, Nat.mod_lt c (by decide), ?_⟩
    simp only [sextetsOf, UInt8.toNat_ofNat', List.cons.injEq, and_true]
    omega
  | case3 a b =>
    simp only [List.forall_mem_cons] at small
    -- The four last bits of the second sextet are spare.
    refine ⟨b % 16, Nat.mod_lt b (by decide), ?_⟩
    simp only [sextetsOf, UInt8.toNat_ofNat', List.cons.injEq, and_true]
    omega
  | case4 six group three two =>
    match six with
    | [] => exact ⟨0, by decide, rfl⟩
    | [_] => exact absurd rfl full
    | [a, b] => exact (two a b rfl).elim
    | [a, b, c] => exact (three a b c rfl).elim
    | a :: b :: c :: d :: rest => exact (group a b c d rest rfl).elim

theorem sextetsOf_inj {spare spare' : Nat} {bs : List UInt8} (small : spare < spareBound bs.length)
    (small' : spare' < spareBound bs.length) (same : sextetsOf spare bs = sextetsOf spare' bs) :
    spare = spare' := by
  fun_induction sextetsOf spare bs with
  | case1 a b c rest ih =>
    rw [spareBound_length_cons] at small small'
    simp only [sextetsOf, List.cons.injEq, true_and] at same
    exact ih small small' same
  | case2 a b => simpa [sextetsOf] using same
  | case3 a => simpa [sextetsOf] using same
  | case4 =>
    have bound : spareBound ([] : List UInt8).length = 1 := rfl
    omega

/-! ### Texts of bytes -/

/-- A text that writes bytes, with a value of the bits that belong to no byte. -/
def encodeWith (spare : Nat) (bs : List UInt8) : List Char :=
  (sextetsOf spare bs).map character ++ List.replicate ((3 - bs.length % 3) % 3) '='

theorem encodeWith_zero (bs : List UInt8) : encodeWith 0 bs = encode bs := by
  fun_induction encode bs with
  | case1 a b c rest ih =>
    rw [← ih]
    simp [encodeWith, sextetsOf, Nat.add_assoc]
  | case2 => rfl
  | case3 => rfl
  | case4 => rfl

theorem length_encodeWith (spare : Nat) (bs : List UInt8) :
    (encodeWith spare bs).length = (bs.length + 2) / 3 * 4 := by
  rw [encodeWith, List.length_append, List.length_map, length_sextetsOf, List.length_replicate]
  omega

/-- The pads of a text close its last group; behind complete groups there may be more of them. -/
theorem isClosed_length_sextetsOf_iff {spare pads : Nat} {bs : List UInt8} :
    IsClosed (sextetsOf spare bs).length pads ↔
      ∃ vain, pads = (3 - bs.length % 3) % 3 + vain ∧ (vain = 0 ∨ bs.length % 3 = 0) := by
  obtain ⟨groups, behind, part, whole⟩ : ∃ groups behind, behind < 3 ∧
      bs.length = 3 * groups + behind := ⟨bs.length / 3, bs.length % 3, by omega, by omega⟩
  have bytes : (3 * groups + behind) % 3 = behind := by omega
  -- Complete groups have four sextets each; one or two bytes behind them have one more than that.
  rw [length_sextetsOf, whole, bytes, IsClosed]
  interval_cases behind
  · have sextets : ((3 * groups + 0) * 4 + 2) / 3 = 4 * groups := by omega
    rw [sextets, Nat.mul_mod_right]
    exact iff_of_true (.inl rfl) ⟨pads, (Nat.zero_add pads).symm, .inr rfl⟩
  · have sextets : ((3 * groups + 1) * 4 + 2) / 3 = 4 * groups + 2 := by omega
    rw [sextets, Nat.mul_add_mod]
    constructor
    · exact fun closed => ⟨0, by omega, .inl rfl⟩
    · rintro ⟨vain, rfl, allowed⟩
      omega
  · have sextets : ((3 * groups + 2) * 4 + 2) / 3 = 4 * groups + 3 := by omega
    rw [sextets, Nat.mul_add_mod]
    constructor
    · exact fun closed => ⟨0, by omega, .inl rfl⟩
    · rintro ⟨vain, rfl, allowed⟩
      omega

theorem sextets_encodeWith {spare : Nat} {bs : List UInt8} (small : spare < spareBound bs.length)
    {vain : Nat} (allowed : vain = 0 ∨ bs.length % 3 = 0) :
    sextets 0 (encodeWith spare bs ++ List.replicate vain '=') = .ok (sextetsOf spare bs) := by
  rw [encodeWith, List.append_assoc, List.replicate_append_replicate]
  refine sextets_text (lt_of_mem_sextetsOf small) ?_
  rw [Nat.zero_add]
  exact isClosed_length_sextetsOf_iff.2 ⟨vain, rfl, allowed⟩

theorem toNat_lt_of_mem_encodeWith {spare : Nat} {bs : List UInt8}
    (small : spare < spareBound bs.length) {c : Char} (mem : c ∈ encodeWith spare bs) :
    c.toNat < 128 := by
  rcases List.mem_append.1 mem with data | pad
  · obtain ⟨n, six, rfl⟩ := List.mem_map.1 data
    exact toNat_character_lt (lt_of_mem_sextetsOf small n six)
  · exact List.eq_of_mem_replicate pad ▸ by decide

/-- No text of some bytes begins with a pad. -/
theorem head?_encodeWith {spare : Nat} {bs : List UInt8} (small : spare < spareBound bs.length)
    (written : bs ≠ []) : ∃ n < 64, (encodeWith spare bs).head? = some (character n) := by
  have length := length_sextetsOf spare bs
  have positive := List.length_pos_iff.2 written
  match six : sextetsOf spare bs with
  | [] =>
    rw [six, List.length_nil] at length
    omega
  | n :: rest =>
    refine ⟨n, lt_of_mem_sextetsOf small n (six ▸ List.mem_cons_self), ?_⟩
    rw [encodeWith, six]
    rfl

/-- What is read as some bytes are the texts of these bytes, with any spare bits, and with any pads
behind complete groups. -/
theorem decode_eq_ok_iff {cs : List Char} {bs : List UInt8} :
    decode cs = .ok bs ↔
      ∃ spare < spareBound bs.length, ∃ vain,
        cs = encodeWith spare bs ++ List.replicate vain '=' ∧
          (vain = 0 ∨ bs.length % 3 = 0 ∧ bs ≠ []) := by
  constructor
  · intro read
    unfold decode at read
    split at read
    next => cases read
    next no_pad =>
      cases taken : sextets 0 cs with
      | error fault =>
        rw [taken] at read
        cases read
      | ok six =>
        rw [taken] at read
        cases read
        obtain ⟨small, pads, rfl, closed⟩ := text_of_sextets taken
        rw [Nat.zero_add] at closed
        have full : six.length % 4 ≠ 1 := by
          rcases closed with complete | part <;> omega
        obtain ⟨spare, bound, same⟩ := exists_sextetsOf_bytes small full
        rw [same, isClosed_length_sextetsOf_iff] at closed
        obtain ⟨vain, rfl, allowed⟩ := closed
        refine ⟨spare, bound, vain, ?_, ?_⟩
        · rw [encodeWith, ← same, List.append_assoc, List.replicate_append_replicate]
        · refine or_iff_not_imp_left.2 fun some_pad => ⟨allowed.resolve_left some_pad, ?_⟩
          intro nothing
          -- Without bytes, the pads would come first.
          obtain ⟨n, rfl⟩ := Nat.exists_eq_succ_of_ne_zero some_pad
          rw [same, nothing] at no_pad
          exact no_pad rfl
  · rintro ⟨spare, bound, vain, rfl, allowed⟩
    have no_pad : (encodeWith spare bs ++ List.replicate vain '=').head? ≠ some '=' := by
      by_cases written : bs = []
      · obtain rfl : vain = 0 := allowed.resolve_right fun complete => complete.2 written
        subst written
        exact nofun
      · obtain ⟨n, small, first⟩ := head?_encodeWith bound written
        rw [List.head?_append, first]
        exact fun same => character_ne_pad n small (Option.some.inj same)
    rw [decode, if_neg no_pad, sextets_encodeWith bound (allowed.imp_right And.left)]
    exact congrArg Except.ok (bytes_sextetsOf bound)

theorem decode_encodeWith {spare : Nat} {bs : List UInt8} (small : spare < spareBound bs.length) :
    decode (encodeWith spare bs) = .ok bs :=
  decode_eq_ok_iff.2 ⟨spare, small, 0, (List.append_nil _).symm, .inl rfl⟩

theorem decode_encode (bs : List UInt8) : decode (encode bs) = .ok bs := by
  rw [← encodeWith_zero]
  exact decode_encodeWith (spareBound_pos bs.length)

/-- Different spare bits make different texts of the same bytes. -/
theorem encodeWith_inj {spare spare' : Nat} {bs : List UInt8} (small : spare < spareBound bs.length)
    (small' : spare' < spareBound bs.length) (same : encodeWith spare bs = encodeWith spare' bs) :
    spare = spare' := by
  have taken := sextets_encodeWith small (.inl rfl)
  have taken' := sextets_encodeWith small' (.inl rfl)
  rw [same, taken'] at taken
  exact (sextetsOf_inj small' small (Except.ok.inj taken)).symm

end NodeDataplane.Base64
