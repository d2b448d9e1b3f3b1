/-!
# Base64

Four characters of an alphabet of 64 write three bytes; the last group may write one byte with two
characters and two pads, or two bytes with three characters and one pad. Reading is strict: beside
the alphabet it takes the pads that the last group needs, and pads in vain behind a complete group.
There is a loose reading as well, which skips everything else.

Whatever `encode` writes is read back by `decode`. The converse fails: the bits of the last
character that belong to no byte are not looked at, so several texts may write the same bytes.
-/

namespace NodeDataplane.Base64

inductive Fault where
  | leadingPadding
  | excessData
  | foreignCharacter
  | dataAfterPadding
  /-- The last group has one character only; there are `count` in all. -/
  | loneCharacter (count : Nat)
  | missingPadding
  deriving DecidableEq, Repr

def Fault.message : Fault → String
  | leadingPadding => "Leading padding not allowed"
  | excessData => "Excess data after padding"
  | foreignCharacter => "Only base64 data is allowed"
  | dataAfterPadding => "Discontinuous padding not allowed"
  | loneCharacter count =>
    "Invalid base64-encoded string: number of data characters (" ++ toString count ++
      ") cannot be 1 more than a multiple of 4"
  | missingPadding => "Incorrect padding"

def sextet? (c : Char) : Option Nat :=
  let n := c.toNat
  if 'A'.toNat ≤ n && n ≤ 'Z'.toNat then some (n - 'A'.toNat)
  else if 'a'.toNat ≤ n && n ≤ 'z'.toNat then some (n - 'a'.toNat + 26)
  else if '0'.toNat ≤ n && n ≤ '9'.toNat then some (n - '0'.toNat + 52)
  else if c = '+' then some 62
  else if c = '/' then some 63
  else none

/-- The fault of a text that ends behind `count` characters of data and too few pads, if any. Where
the last group is complete no pad is needed. -/
def checkEnd (count : Nat) : Except Fault Unit :=
  if count % 4 = 0 then .ok ()
  else if count % 4 = 1 then .error (.loneCharacter count)
  else .error .missingPadding

/-- Check the padding behind `count` characters of data, of which `pads` have been read. -/
def checkPadding (count pads : Nat) : List Char → Except Fault Unit
  | [] => checkEnd count
  | c :: rest =>
    if c = '=' then
      if 2 ≤ count % 4 ∧ 4 ≤ count % 4 + pads + 1 then
        if rest.isEmpty then .ok () else .error .excessData
      else checkPadding count (pads + 1) rest
    else if (sextet? c).isSome then .error .dataAfterPadding
    else .error .foreignCharacter

/-- The sextets of a text behind `count` characters of data, up to the padding. -/
def sextets (count : Nat) : List Char → Except Fault (List Nat)
  | [] => (checkEnd count).map fun _ => []
  | c :: rest =>
    if c = '=' then (checkPadding count 0 (c :: rest)).map fun _ => []
    else
      match sextet? c with
      | none => .error .foreignCharacter
      | some six => (sextets (count + 1) rest).map (six :: ·)

/-- The bytes that sextets write, three for every four. -/
def bytes : List Nat → List UInt8
  | a :: b :: c :: d :: rest =>
    .ofNat (a * 4 + b / 16) :: .ofNat (b % 16 * 16 + c / 4) :: .ofNat (c % 4 * 64 + d) :: bytes rest
  | [a, b, c] => [.ofNat (a * 4 + b / 16), .ofNat (b % 16 * 16 + c / 4)]
  | [a, b] => [.ofNat (a * 4 + b / 16)]
  | _ => []

def decode (cs : List Char) : Except Fault (List UInt8) :=
  if cs.head? = some '=' then .error .leadingPadding
  else (sextets 0 cs).map bytes

/-! ### Loose reading -/

/-- The sextets of a text behind `count` characters of data and `pads` pads. What is not in the
alphabet is skipped, and nothing is read behind the pads that the last group needs. -/
def looseSextets? (count pads : Nat) : List Char → Option (List Nat)
  | [] => if count % 4 = 0 then some [] else none
  | c :: rest =>
    if c = '=' then
      if count % 4 < 2 then looseSextets? count pads rest
      else if 4 ≤ count % 4 + pads + 1 then some []
      else looseSextets? count (pads + 1) rest
    else
      match sextet? c with
      | none => looseSextets? count pads rest
      | some six => (looseSextets? (count + 1) 0 rest).map (six :: ·)

/-- The bytes that a text writes, as it is read in a YAML text. -/
def decodeLoose? (cs : List Char) : Option (List UInt8) := (looseSextets? 0 0 cs).map bytes

/-! ### Writing -/

def character (n : Nat) : Char :=
  if n < 26 then .ofNat ('A'.toNat + n)
  else if n < 52 then .ofNat ('a'.toNat + (n - 26))
  else if n < 62 then .ofNat ('0'.toNat + (n - 52))
  else if n = 62 then '+'
  else '/'

def encode : List UInt8 → List Char
  | a :: b :: c :: rest =>
    character (a.toNat / 4) :: character (a.toNat % 4 * 16 + b.toNat / 16) ::
      character (b.toNat % 16 * 4 + c.toNat / 64) :: character (c.toNat % 64) :: encode rest
  | [a, b] =>
    [character (a.toNat / 4), character (a.toNat % 4 * 16 + b.toNat / 16),
      character (b.toNat % 16 * 4), '=']
  | [a] => [character (a.toNat / 4), character (a.toNat % 4 * 16), '=', '=']
  | [] => []

theorem sextet?_character : ∀ n < 64, sextet? (character n) = some n := by decide

theorem character_ne_pad : ∀ n < 64, character n ≠ '=' := by decide

/-- A character of the alphabet adds its bits to what the rest writes. -/
theorem sextets_character {n : Nat} (h : n < 64) (count : Nat) (rest : List Char) :
    sextets count (character n :: rest) = (sextets (count + 1) rest).map (n :: ·) := by
  rw [sextets, if_neg (character_ne_pad n h), sextet?_character n h]

/-- A group of four characters adds its three bytes to what the rest writes. -/
theorem bytes_group (a b c : UInt8) (rest : List Nat) :
    bytes (a.toNat / 4 :: (a.toNat % 4 * 16 + b.toNat / 16) ::
      (b.toNat % 16 * 4 + c.toNat / 64) :: c.toNat % 64 :: rest) = a :: b :: c :: bytes rest := by
  have ha := a.toNat_lt
  have hb := b.toNat_lt
  have hc := c.toNat_lt
  have first : a.toNat / 4 * 4 + (a.toNat % 4 * 16 + b.toNat / 16) / 16 = a.toNat := by omega
  have second : (a.toNat % 4 * 16 + b.toNat / 16) % 16 * 16 +
      (b.toNat % 16 * 4 + c.toNat / 64) / 4 = b.toNat := by omega
  have third : (b.toNat % 16 * 4 + c.toNat / 64) % 4 * 64 + c.toNat % 64 = c.toNat := by omega
  simp only [bytes, first, second, third, UInt8.ofNat_toNat]

end NodeDataplane.Base64
