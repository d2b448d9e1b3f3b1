/-!
# Decimal digits

Unicode 14 has 66 scripts with decimal digits; each holds the ten digits at ten consecutive code
points. `digitValue?` reads a digit of any of them.

Numbers of more than `maxDigits` decimal digits are neither read nor written, however many of their
digits are zeros in front.
-/

namespace NodeDataplane.Text

/-- The code point of the digit zero in every script, in ascending order. -/
def digitZeros : List Nat := [
    0x30, 0x660, 0x6f0, 0x7c0, 0x966, 0x9e6, 0xa66, 0xae6, 0xb66, 0xbe6, 0xc66, 0xce6, 0xd66, 0xde6,
    0xe50, 0xed0, 0xf20, 0x1040, 0x1090, 0x17e0, 0x1810, 0x1946, 0x19d0, 0x1a80, 0x1a90, 0x1b50,
    0x1bb0, 0x1c40, 0x1c50, 0xa620, 0xa8d0, 0xa900, 0xa9d0, 0xa9f0, 0xaa50, 0xabf0, 0xff10, 0x104a0,
    0x10d30, 0x11066, 0x110f0, 0x11136, 0x111d0, 0x112f0, 0x11450, 0x114d0, 0x11650, 0x116c0,
    0x11730, 0x118e0, 0x11950, 0x11c50, 0x11d50, 0x11da0, 0x16a60, 0x16ac0, 0x16b50, 0x1d7ce,
    0x1d7d8, 0x1d7e2, 0x1d7ec, 0x1d7f6, 0x1e140, 0x1e2f0, 0x1e950, 0x1fbf0]

def digitValue? (c : Char) : Option Nat :=
  (digitZeros.find? fun start => start ≤ c.toNat && c.toNat < start + 10).map (c.toNat - ·)

/-- The greatest number of decimal digits that a number is read from or written in. -/
def maxDigits : Nat := 4300

def natOfDigits (cs : List Char) : Nat :=
  cs.foldl (fun n c => 10 * n + (c.toNat - '0'.toNat)) 0

def hexValue? (c : Char) : Option Nat :=
  let n := c.toNat
  if c.isDigit then some (n - '0'.toNat)
  else if 'a'.toNat ≤ n && n ≤ 'f'.toNat then some (n - 'a'.toNat + 10)
  else if 'A'.toNat ≤ n && n ≤ 'F'.toNat then some (n - 'A'.toNat + 10)
  else none

/-- The number that a list of hexadecimal digits writes; `none` when a character is no digit. -/
def natOfHex? (cs : List Char) : Option Nat :=
  cs.foldlM (fun n c => (hexValue? c).map (16 * n + ·)) 0

def hex (n : Nat) : String :=
  String.ofList (Nat.toDigits 16 n)

/-- A text filled up with zeros in front to a least width. -/
def zeroPadded (width : Nat) (s : String) : String :=
  String.ofList (List.replicate (width - s.length) '0') ++ s

/-! ### Numbers as they are written -/

theorem natOfDigits_toDigits (n : Nat) : natOfDigits (Nat.toDigits 10 n) = n :=
  Nat.ofDigitChars_toDigits (by decide) (by decide)

/-- Every character that a number is written with is a digit of the base. -/
theorem exists_digitChar_of_mem_toDigits {base n : Nat} {c : Char} (two : 1 < base)
    (mem : c ∈ Nat.toDigits base n) : ∃ digit < base, c = Nat.digitChar digit := by
  induction n using Nat.strongRecOn with
  | ind n ih =>
    rw [Nat.toDigits_eq_if two] at mem
    split at mem
    next small => exact ⟨n, small, List.mem_singleton.1 mem⟩
    next large =>
      rcases List.mem_append.1 mem with front | last
      · exact ih _ (Nat.div_lt_self (by omega) two) front
      · exact ⟨n % base, Nat.mod_lt _ (by omega), List.mem_singleton.1 last⟩

/-- Only zero is written with a zero in front. -/
theorem head?_toDigits_ne_zero {n : Nat} (positive : n ≠ 0) :
    (Nat.toDigits 10 n).head? ≠ some '0' := by
  induction n using Nat.strongRecOn with
  | ind n ih =>
    rw [Nat.toDigits_eq_if (by decide)]
    split
    next small =>
      have digits : ∀ n < 10, n ≠ 0 → [Nat.digitChar n].head? ≠ some '0' := by decide
      exact digits n small positive
    next large =>
      rw [List.head?_append, List.head?_eq_some_head Nat.toDigits_ne_nil, Option.some_or,
        ← List.head?_eq_some_head]
      exact ih _ (Nat.div_lt_self (by omega) (by decide)) (by omega)

theorem hexValue?_digitChar : ∀ n < 16, hexValue? (Nat.digitChar n) = some n := by decide

theorem natOfHex?_append_digitChar {cs : List Char} {n digit : Nat} (small : digit < 16)
    (read : natOfHex? cs = some n) :
    natOfHex? (cs ++ [Nat.digitChar digit]) = some (16 * n + digit) := by
  simp only [natOfHex?] at read ⊢
  rw [List.foldlM_append, read]
  simp [hexValue?_digitChar digit small]

theorem natOfHex?_toDigits (n : Nat) : natOfHex? (Nat.toDigits 16 n) = some n := by
  induction n using Nat.strongRecOn with
  | ind n ih =>
    rw [Nat.toDigits_eq_if (by decide)]
    split
    next small =>
      have nothing : natOfHex? [] = some 0 := rfl
      exact (natOfHex?_append_digitChar small nothing).trans (by simp)
    next large =>
      rw [natOfHex?_append_digitChar (Nat.mod_lt n (by decide))
        (ih _ (Nat.div_lt_self (by omega) (by decide)))]
      congr 1
      omega

end NodeDataplane.Text
