import NodeDataplane.Text.Digit
import NodeDataplane.Text.Fields

/-!
# Network addresses

An IPv4 address is four octets written in decimal and joined by points; an IPv6 address is eight
groups of sixteen bits written in hexadecimal and joined by colons, where the longest run of two or
more zero groups is left out. An IPv6 address may name the scope it is valid in.

Reading takes more spellings than printing gives: upper-case digits, leading zeros in a group, any
run of zero groups left out, and an IPv4 address in place of the last two groups.
-/

namespace NodeDataplane

open NodeDataplane.Text

inductive IPVersion where
  | v4
  | v6
  deriving DecidableEq, Repr

def IPVersion.number : IPVersion → Nat
  | .v4 => 4
  | .v6 => 6

structure IPv4 where
  bits : BitVec 32
  deriving DecidableEq, Repr

/-- An IPv6 address, with the scope it is valid in if that is named. -/
structure IPv6 where
  bits : BitVec 128
  scope : Option String
  deriving DecidableEq, Repr

inductive IPAddress where
  | v4 (address : IPv4)
  | v6 (address : IPv6)
  deriving DecidableEq, Repr

namespace Net

/-- The number with these digits in a base, the first digit being the greatest. -/
def ofDigits (base : Nat) (digits : List Nat) : Nat :=
  digits.foldl (fun n digit => base * n + digit) 0

/-- The last `count` digits of a number in a base, the greatest first. -/
def digitsOf (base : Nat) : Nat → Nat → List Nat
  | 0, _ => []
  | count + 1, n => digitsOf base count (n / base) ++ [n % base]

@[simp] theorem length_digitsOf (base count n : Nat) : (digitsOf base count n).length = count := by
  induction count generalizing n with
  | zero => rfl
  | succ count ih => simp [digitsOf, ih]

theorem ofDigits_append_singleton (base : Nat) (digits : List Nat) (digit : Nat) :
    ofDigits base (digits ++ [digit]) = base * ofDigits base digits + digit := by
  simp [ofDigits]

/-- The digits of a number that has no more than `count` of them write the number. -/
theorem ofDigits_digitsOf {base count n : Nat} (h : n < Nat.pow base count) :
    ofDigits base (digitsOf base count n) = n := by
  induction count generalizing n with
  | zero => simp_all [ofDigits, digitsOf]
  | succ count ih =>
    have fits : n / base < Nat.pow base count := by
      apply Nat.div_lt_of_lt_mul
      exact Nat.lt_of_lt_of_eq h Nat.pow_succ'
    rw [digitsOf, ofDigits_append_singleton, ih fits, Nat.div_add_mod]

end Net

/-! ### IPv4 -/

namespace IPv4

def octets (a : IPv4) : List Nat := Net.digitsOf 256 4 a.bits.toNat

def ofOctets (octets : List Nat) : IPv4 := ⟨BitVec.ofNat 32 (Net.ofDigits 256 octets)⟩

def text (a : IPv4) : String := ".".intercalate (a.octets.map toString)

/-- An octet: one to three decimal digits without a leading zero, at most 255. -/
def readOctet? (cs : List Char) : Option Nat :=
  if cs.isEmpty || !cs.all Char.isDigit || 3 < cs.length then none
  else if cs.head? = some '0' && cs != ['0'] then none
  else if 255 < natOfDigits cs then none
  else some (natOfDigits cs)

def read? (cs : List Char) : Option IPv4 :=
  match fields '.' cs with
  | [a, b, c, d] => ([a, b, c, d].mapM readOctet?).map ofOctets
  | _ => none

end IPv4

/-! ### IPv6 -/

namespace IPv6

def groups (a : IPv6) : List Nat := Net.digitsOf 65536 8 a.bits.toNat

def ofGroups (groups : List Nat) (scope : Option String) : IPv6 :=
  ⟨BitVec.ofNat 128 (Net.ofDigits 65536 groups), scope⟩

def unscoped (a : IPv6) : IPv6 := { a with scope := none }

def zeroRun (groups : List Nat) : Nat := (groups.takeWhile (· == 0)).length

/-- Where the longest run of zero groups starts and how long it is; the first one of several. -/
def longestZeroRun (groups : List Nat) : Nat × Nat :=
  (List.range groups.length).foldl (fun best start =>
    let length := zeroRun (groups.drop start)
    if best.2 < length then (start, length) else best) (0, 0)

def groupsText (groups : List Nat) : String := ":".intercalate (groups.map hex)

/-- The bits of an address: the longest run of at least two zero groups is left out. -/
def bitsText (a : IPv6) : String :=
  let groups := a.groups
  let (start, length) := longestZeroRun groups
  if length < 2 then groupsText groups
  else groupsText (groups.take start) ++ "::" ++ groupsText (groups.drop (start + length))

def text (a : IPv6) : String :=
  match a.scope with
  | none => a.bitsText
  | some scope => a.bitsText ++ "%" ++ scope

def readGroup? (cs : List Char) : Option Nat :=
  if cs.isEmpty || 4 < cs.length then none else natOfHex? cs

def readGroups? (cs : List Char) : Option (List Nat) :=
  if cs.isEmpty then some [] else (fields ':' cs).mapM readGroup?

/-- An IPv4 address as two groups. -/
def groupsOfIPv4 (a : IPv4) : List Nat := Net.digitsOf 65536 2 a.bits.toNat

/-- Groups between colons, the last two of which may be written as an IPv4 address. -/
def readTail? (cs : List Char) : Option (List Nat) :=
  let pieces := fields ':' cs
  match pieces.getLast? with
  | some last =>
    if last.contains '.' then do
      let before ← pieces.dropLast.mapM readGroup?
      return before ++ groupsOfIPv4 (← IPv4.read? last)
    else readGroups? cs
  | none => readGroups? cs

def cutGap? : List Char → Option (List Char × List Char)
  | ':' :: ':' :: rest => some ([], rest)
  | c :: rest => (cutGap? rest).map fun (before, behind) => (c :: before, behind)
  | [] => none

/-- Read the groups of an address. A double colon stands for at least one zero group. -/
def readBits? (cs : List Char) : Option (List Nat) :=
  match cutGap? cs with
  | none => do
    let groups ← readTail? cs
    if groups.length = 8 then some groups else none
  | some (before, behind) => do
    let high ← readGroups? before
    let low ← readTail? behind
    if high.length + low.length < 8 then
      some (high ++ List.replicate (8 - high.length - low.length) 0 ++ low)
    else none

/-- Read an address with a scope or without. A scope is not empty and holds no percent sign. -/
def read? (cs : List Char) : Option IPv6 :=
  match cut? '%' cs with
  | none => (readBits? cs).map (ofGroups · none)
  | some (bits, scope) =>
    if scope.isEmpty || scope.contains '%' then none
    else (readBits? bits).map (ofGroups · (some (String.ofList scope)))

end IPv6

/-! ### Either version -/

namespace IPAddress

def version : IPAddress → IPVersion
  | v4 _ => .v4
  | v6 _ => .v6

def text : IPAddress → String
  | v4 a => a.text
  | v6 a => a.text

def unscoped : IPAddress → IPAddress
  | v4 a => v4 a
  | v6 a => v6 a.unscoped

def read? (cs : List Char) : Option IPAddress :=
  (IPv4.read? cs).map v4 <|> (IPv6.read? cs).map v6

/-- Read an address of one version only. -/
def readAs? (version : IPVersion) (cs : List Char) : Option IPAddress :=
  match version with
  | .v4 => (IPv4.read? cs).map v4
  | .v6 => (IPv6.read? cs).map v6

@[simp] theorem version_unscoped (a : IPAddress) : a.unscoped.version = a.version := by
  cases a <;> rfl

@[simp] theorem unscoped_unscoped (a : IPAddress) : a.unscoped.unscoped = a.unscoped := by
  cases a <;> rfl

end IPAddress

end NodeDataplane
