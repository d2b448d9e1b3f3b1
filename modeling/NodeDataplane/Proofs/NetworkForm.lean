import NodeDataplane.Net.Network
import NodeDataplane.Proofs.AddressForm

/-!
# Prefixes and the networks around addresses

Behind a slash stands how many of the first bits of an address name its network. The number is
written in decimal or, for IPv4, as a mask in octets: that of the network bits, or that of the host
bits. The network around an address has these bits in common with it, and no other bit set.

## Main results

- `IPNetwork.exists_ofAddress?_iff`: there is a network around an address exactly if what stands
  behind the slash gives a prefix.
- `IPNetwork.exists_isAround_of_ofAddress?`: which network that is, bit by bit.
- `IPNetwork.eq_iff_of_isAround`: when two addresses have the same network around them.

## Proof strategy

A mask is told by its bits (`Net.mask_eq_iff`), and no word is the mask of two prefixes, so looking
through all of them finds the one there is. A number holds no point and an address of octets does,
so no text is read in two ways.
-/

namespace NodeDataplane

open Text

/-! ### Masks -/

namespace Net

variable {width : Nat}

/-- Just the first bits are set. -/
def IsNetmask (x : BitVec width) (length : Nat) : Prop :=
  ∀ i < width, x.getMsbD i = decide (i < length)

/-- Just the bits behind the first ones are set. -/
def IsHostmask (x : BitVec width) (length : Nat) : Prop :=
  ∀ i < width, x.getMsbD i = decide (length ≤ i)

theorem getMsbD_mask {length : Nat} (fits : length ≤ width) (i : Nat) :
    (mask width length).getMsbD i = decide (i < length) := by
  rw [mask, BitVec.getMsbD_shiftLeft, BitVec.getMsbD_allOnes]
  exact decide_eq_decide.2 (by omega)

theorem getMsbD_blockOf (x : BitVec width) (length : Fin (width + 1)) (i : Nat) :
    (Block.of x length).bits.getMsbD i = (decide (i < length) && x.getMsbD i) := by
  rw [Block.of, BitVec.getMsbD_and, getMsbD_mask (Nat.le_of_lt_succ length.isLt), Bool.and_comm]

theorem mask_eq_iff {x : BitVec width} {length : Nat} (fits : length ≤ width) :
    mask width length = x ↔ IsNetmask x length := by
  constructor
  · rintro rfl i -
    exact getMsbD_mask fits i
  · intro bits
    apply BitVec.eq_of_getMsbD_eq
    intro i inside
    rw [getMsbD_mask fits, bits i inside]

theorem IsNetmask.length_le {x : BitVec width} {p q : Nat} (first : IsNetmask x p)
    (second : IsNetmask x q) (fits : p ≤ width) : p ≤ q := by
  by_contra more
  -- Otherwise the words differ in the first bit behind the shorter prefix.
  have set := first q (by omega)
  rw [second q (by omega)] at set
  simp [Nat.lt_of_not_le more] at set

theorem isNetmask_not_iff {x : BitVec width} {length : Nat} :
    IsNetmask (~~~x) length ↔ IsHostmask x length := by
  refine forall₂_congr fun i inside => ?_
  rw [BitVec.getMsbD_not, decide_eq_true inside, Bool.true_and, Bool.not_eq_eq_eq_not,
    ← decide_not]
  simp only [Nat.not_lt]

/-- Of the masks of host bits, only all ones and all zeros are masks of network bits as well. -/
theorem IsHostmask.exists_isNetmask_iff {x : BitVec width} {length : Nat}
    (host : IsHostmask x length) (fits : length ≤ width) :
    (∃ q ≤ width, IsNetmask x q) ↔ length = 0 ∨ length = width := by
  constructor
  · rintro ⟨q, -, network⟩
    by_contra inner
    -- The first bit is not set, but the last one is.
    have first := (host 0 (by omega)).symm.trans (network 0 (by omega))
    have last := (host (width - 1) (by omega)).symm.trans (network (width - 1) (by omega))
    rw [decide_eq_decide] at first last
    omega
  · rintro (rfl | rfl)
    · refine ⟨width, Nat.le_refl _, fun i inside => ?_⟩
      rw [host i inside, decide_eq_true inside, decide_eq_true (Nat.zero_le i)]
    · refine ⟨0, Nat.zero_le _, fun i inside => ?_⟩
      rw [host i inside, decide_eq_false (Nat.not_le.2 inside), decide_eq_false (Nat.not_lt_zero i)]

theorem isNetmask_of_lengthOfMask? {x : BitVec width} {length : Fin (width + 1)}
    (found : lengthOfMask? x = some length) : IsNetmask x length := by
  unfold lengthOfMask? at found
  have same := List.find?_some found
  exact (mask_eq_iff (Nat.le_of_lt_succ length.isLt)).1 (beq_iff_eq.1 same)

theorem lengthOfMask?_eq_some_iff {x : BitVec width} {length : Fin (width + 1)} :
    lengthOfMask? x = some length ↔ IsNetmask x length := by
  refine ⟨isNetmask_of_lengthOfMask?, fun bits => ?_⟩
  have fits (p : Fin (width + 1)) : (p : Nat) ≤ width := Nat.le_of_lt_succ p.isLt
  have some_length : (lengthOfMask? x).isSome = true :=
    List.find?_isSome.2 ⟨length, List.mem_finRange length, by simp [(mask_eq_iff (fits _)).2 bits]⟩
  obtain ⟨other, found⟩ := Option.isSome_iff_exists.1 some_length
  have same := isNetmask_of_lengthOfMask? found
  rw [found, Option.some_inj]
  exact Fin.ext (Nat.le_antisymm (same.length_le bits (fits other)) (bits.length_le same (fits length)))

theorem lengthOfMask?_eq_none_iff {x : BitVec width} :
    lengthOfMask? x = none ↔ ¬ ∃ q ≤ width, IsNetmask x q := by
  rw [Option.eq_none_iff_forall_ne_some]
  constructor
  · rintro none_found ⟨q, fits, bits⟩
    exact none_found ⟨q, Nat.lt_succ_of_le fits⟩ (lengthOfMask?_eq_some_iff.2 bits)
  · rintro no_mask length found
    exact no_mask ⟨length, Nat.le_of_lt_succ length.isLt, lengthOfMask?_eq_some_iff.1 found⟩

/-! ### Numbers -/

/-- A number in decimal digits, of which there may be zeros in front. -/
structure IsDecimal (cs : List Char) (n : Nat) : Prop where
  some_digit : cs ≠ []
  digits : ∀ c ∈ cs, c.isDigit = true
  length_le : cs.length ≤ maxDigits
  value : natOfDigits cs = n

theorem readLength?_eq_some_iff {cs : List Char} {length : Fin (width + 1)} :
    readLength? width cs = some length ↔ IsDecimal cs length := by
  constructor
  · intro read
    unfold readLength? at read
    split at read
    next => cases read
    next sound =>
      simp only [Bool.or_eq_true, Bool.not_eq_true', not_or, decide_eq_true_eq] at sound
      obtain ⟨⟨written, digits⟩, short⟩ := sound
      dsimp only at read
      split at read
      next => exact ⟨by simpa using written, by simpa using digits, by omega, by cases read; rfl⟩
      next => cases read
  · rintro ⟨written, digits, short, value⟩
    have sound : ¬ (cs.isEmpty || !cs.all Char.isDigit || decide (maxDigits < cs.length)) = true := by
      simpa [written, short] using digits
    rw [readLength?, if_neg sound]
    simp only [value, length.isLt, dite_true]

end Net

/-! ### Prefixes -/

/-- The number of bits of an address. -/
def IPVersion.width : IPVersion → Nat
  | .v4 => 32
  | .v6 => 128

/-- What may stand behind the slash to give a prefix of some length. Of the masks, all ones and all
zeros could be those of the network bits or of the host bits: they are taken for the former. -/
inductive IsPrefixText : IPVersion → List Char → Nat → Prop
  | number {version : IPVersion} {cs : List Char} {p : Nat} (decimal : Net.IsDecimal cs p)
      (fits : p ≤ version.width) : IsPrefixText version cs p
  | netmask {cs : List Char} {a : IPv4} {p : Nat} (read : IPv4.read? cs = some a) (fits : p ≤ 32)
      (bits : Net.IsNetmask a.bits p) : IsPrefixText .v4 cs p
  | hostmask {cs : List Char} {a : IPv4} {p : Nat} (read : IPv4.read? cs = some a)
      (inner : 0 < p ∧ p < 32) (bits : Net.IsHostmask a.bits p) : IsPrefixText .v4 cs p

namespace IsPrefixText

theorem le_width {version : IPVersion} {cs : List Char} {p : Nat}
    (text : IsPrefixText version cs p) : p ≤ version.width := by
  cases text with
  | number _ fits => exact fits
  | netmask _ fits _ => exact fits
  | hostmask _ inner _ => exact Nat.le_of_lt inner.2

/-- A mask holds points, so it is no number. -/
theorem readLength?_of_mask {cs : List Char} {a : IPv4} (read : IPv4.read? cs = some a)
    (width : Nat) : Net.readLength? width cs = none := by
  rw [Option.eq_none_iff_forall_ne_some]
  intro length found
  have point : '.' ∈ cs := List.count_pos_iff.1 (by
    rw [IPv4.count_point_of_read? read]
    decide)
  exact absurd ((Net.readLength?_eq_some_iff.1 found).digits _ point) (by decide)

end IsPrefixText

namespace IPNetwork

theorem readPrefix4?_eq_some_iff {cs : List Char} {length : Fin 33} :
    readPrefix4? cs = some length ↔ IsPrefixText .v4 cs length := by
  have fits : (length : Nat) ≤ 32 := Nat.le_of_lt_succ length.isLt
  simp only [readPrefix4?, Option.orElse_eq_orElse, Option.orElse_eq_or, Option.or_eq_some_iff,
    Option.bind_eq_some_iff, Net.readLength?_eq_some_iff, Net.lengthOfMask?_eq_some_iff,
    Net.isNetmask_not_iff]
  constructor
  · rintro (decimal | ⟨-, a, read, network | ⟨unlike, host⟩⟩)
    · exact .number decimal fits
    · exact .netmask read fits network
    · have inner := mt (host.exists_isNetmask_iff fits).2 (Net.lengthOfMask?_eq_none_iff.1 unlike)
      exact .hostmask read (by omega) host
  · intro text
    cases text with
    | number decimal => exact .inl decimal
    | netmask read _ bits => exact .inr ⟨IsPrefixText.readLength?_of_mask read 32, _, read, .inl bits⟩
    | hostmask read inner bits =>
      have unlike := mt (bits.exists_isNetmask_iff fits).1 (by omega)
      exact .inr ⟨IsPrefixText.readLength?_of_mask read 32, _, read,
        .inr ⟨Net.lengthOfMask?_eq_none_iff.2 unlike, bits⟩⟩

theorem readLength?_eq_some_iff {cs : List Char} {length : Fin (128 + 1)} :
    Net.readLength? 128 cs = some length ↔ IsPrefixText .v6 cs length := by
  rw [Net.readLength?_eq_some_iff]
  constructor
  · exact fun decimal => .number decimal (Nat.le_of_lt_succ length.isLt)
  · rintro ⟨decimal, -⟩
    exact decimal

end IPNetwork

theorem IsPrefixText.slash_not_mem {version : IPVersion} {cs : List Char} {p : Nat}
    (text : IsPrefixText version cs p) : '/' ∉ cs := by
  intro slash
  have no_mask {a : IPv4} (read : IPv4.read? cs = some a) : False :=
    absurd (IPv4.digit_of_read? read _ slash) (by decide)
  cases text with
  | number decimal => exact absurd (decimal.digits _ slash) (by decide)
  | netmask read => exact no_mask read
  | hostmask read => exact no_mask read

theorem IsPrefixText.unique {version : IPVersion} {cs : List Char} {p q : Nat}
    (first : IsPrefixText version cs p) (second : IsPrefixText version cs q) : p = q := by
  let length : Fin (version.width + 1) := ⟨p, Nat.lt_succ_of_le first.le_width⟩
  let length' : Fin (version.width + 1) := ⟨q, Nat.lt_succ_of_le second.le_width⟩
  have same : length = length' := by
    cases version with
    | v4 =>
      have read : IPNetwork.readPrefix4? cs = some length :=
        IPNetwork.readPrefix4?_eq_some_iff.2 first
      exact Option.some.inj (read.symm.trans (IPNetwork.readPrefix4?_eq_some_iff.2 second))
    | v6 =>
      have read : Net.readLength? 128 cs = some length := IPNetwork.readLength?_eq_some_iff.2 first
      exact Option.some.inj (read.symm.trans (IPNetwork.readLength?_eq_some_iff.2 second))
  exact Fin.val_eq_of_eq same

/-! ### Either version -/

/-- It does not matter whether the version is settled by the address alone, or only with all that is
read behind it. -/
theorem IPAddress.bind_readAs?_orElse {α : Type} (cs : List Char) (f : IPAddress → Option α) :
    ((readAs? .v4 cs).bind f <|> (readAs? .v6 cs).bind f) = (read? cs).bind f := by
  cases v4 : IPv4.read? cs with
  | none => simp [read?, readAs?, v4]
  | some a => simp [read?, readAs?, v4, IPv6.read?_of_ipv4 v4]

namespace Interface

theorem read?_of_bare {cs : List Char} (bare : '/' ∉ cs) :
    read? cs = (IPAddress.read? cs).bind fun a => (IPNetwork.ofAddress? a none).map (⟨a, ·⟩) := by
  simp only [read?, fields_of_not_mem bare, Option.map_eq_bind]
  rfl

theorem read?_append {front behind : List Char} (apart : '/' ∉ front) (bare : '/' ∉ behind) :
    read? (front ++ '/' :: behind) =
      (IPAddress.read? front).bind fun a =>
        (IPNetwork.ofAddress? a (some behind)).map (⟨a, ·⟩) := by
  simp only [read?, fields_append behind apart, fields_of_not_mem bare, Option.map_eq_bind]
  rfl

/-- There is one prefix at most. -/
theorem read?_append_of_slash {front behind : List Char} (apart : '/' ∉ front)
    (slash : '/' ∈ behind) : read? (front ++ '/' :: behind) = none := by
  have several := length_fields '/' behind
  have positive := List.count_pos_iff.2 slash
  rw [read?, fields_append behind apart]
  match cut : fields '/' behind with
  | [] => simp [cut] at several
  | [_] =>
    rw [cut, List.length_singleton] at several
    omega
  | _ :: _ :: _ => rfl

theorem read?_append_of_unread {front : List Char} (apart : '/' ∉ front)
    (unread : IPAddress.read? front = none) (behind : List Char) :
    read? (front ++ '/' :: behind) = none := by
  by_cases slash : '/' ∈ behind
  · exact read?_append_of_slash apart slash
  · rw [read?_append apart slash, unread, Option.bind_none]

end Interface

/-- A network is read exactly where an interface is, and is the network of the interface. -/
theorem IPNetwork.read?_eq_map_network (cs : List Char) :
    read? cs = (Interface.read? cs).map (·.network) := by
  have network_of (a : IPAddress) (length : Option (List Char)) :
      ((ofAddress? a length).bind fun n => some (Interface.mk a n)).map (·.network) =
        ofAddress? a length := by
    cases ofAddress? a length <;> rfl
  unfold read? readAs? Interface.read?
  split
  next address cut =>
    rw [IPAddress.bind_readAs?_orElse]
    exact (Option.map_bind.trans (congrArg _ (funext fun a => network_of a none))).symm
  next address length cut =>
    rw [IPAddress.bind_readAs?_orElse]
    exact (Option.map_bind.trans (congrArg _ (funext fun a => network_of a (some length)))).symm
  next => rfl

/-! ### The bits of addresses -/

namespace IPAddress

/-- A bit of an address, the first one being the greatest; there are none behind the last one. -/
def bit : IPAddress → Nat → Bool
  | v4 a, i => a.bits.getMsbD i
  | v6 a, i => a.bits.getMsbD i

def scope? : IPAddress → Option String
  | v4 _ => none
  | v6 a => a.scope

theorem eq_of_bits {a b : IPAddress} (version : a.version = b.version) (scope : a.scope? = b.scope?)
    (bits : ∀ i, a.bit i = b.bit i) : a = b := by
  cases a with
  | v4 a =>
    cases b with
    | v4 b =>
      obtain ⟨a⟩ := a
      obtain ⟨b⟩ := b
      congr 2
      exact BitVec.eq_of_getMsbD_eq fun i _ => bits i
    | v6 b => cases version
  | v6 a =>
    cases b with
    | v4 b => cases version
    | v6 b =>
      obtain ⟨a, _⟩ := a
      obtain ⟨b, _⟩ := b
      obtain rfl := scope
      congr 2
      exact BitVec.eq_of_getMsbD_eq fun i _ => bits i

@[simp] theorem bit_unscoped (a : IPAddress) (i : Nat) : a.unscoped.bit i = a.bit i := by
  cases a <;> rfl

@[simp] theorem scope?_unscoped (a : IPAddress) : a.unscoped.scope? = none := by
  cases a <;> rfl

theorem unscoped_eq_self_iff {a : IPAddress} : a.unscoped = a ↔ a.scope? = none := by
  constructor
  · intro same
    rw [← same, scope?_unscoped]
  · intro none
    exact eq_of_bits (version_unscoped a) ((scope?_unscoped a).trans none.symm) (bit_unscoped a)

end IPAddress

/-! ### The network around an address -/

namespace IPNetwork

/-- A network of the first bits of an address, with all bits behind them cleared. -/
structure IsAround (n : IPNetwork) (a : IPAddress) (p : Nat) : Prop where
  version : n.version = a.version
  length : n.length = p
  bit : ∀ i, n.address.bit i = (decide (i < p) && a.bit i)
  scope? : n.address.scope? = none

theorem eq_of_address {n m : IPNetwork} (address : n.address = m.address)
    (length : n.length = m.length) : n = m := by
  cases n with
  | v4 b =>
    cases m with
    | v4 c =>
      obtain ⟨_, _, _⟩ := b
      obtain ⟨_, _, _⟩ := c
      cases address
      cases Fin.ext length
      rfl
    | v6 c => cases address
  | v6 b =>
    cases m with
    | v4 c => cases address
    | v6 c =>
      obtain ⟨_, _, _⟩ := b
      obtain ⟨_, _, _⟩ := c
      cases address
      cases Fin.ext length
      rfl

@[simp] theorem version_address (n : IPNetwork) : n.address.version = n.version := by
  cases n <;> rfl

/-- Networks are the same if they are of one version and have as many first bits in common with
their addresses, and these first bits are the same. -/
theorem eq_iff_of_isAround {n m : IPNetwork} {a b : IPAddress} {p q : Nat} (first : n.IsAround a p)
    (second : m.IsAround b q) :
    n = m ↔ a.version = b.version ∧ p = q ∧ ∀ i < p, a.bit i = b.bit i := by
  constructor
  · rintro rfl
    obtain rfl := first.length.symm.trans second.length
    refine ⟨first.version.symm.trans second.version, rfl, fun i inside => ?_⟩
    have same := (first.bit i).symm.trans (second.bit i)
    simpa [inside] using same
  · rintro ⟨version, rfl, bits⟩
    refine eq_of_address (IPAddress.eq_of_bits ?_ ?_ fun i => ?_) ?_
    · rw [version_address, version_address, first.version, second.version, version]
    · rw [first.scope?, second.scope?]
    · rw [first.bit, second.bit]
      by_cases inside : i < p
      · rw [bits i inside]
      · simp [inside]
    · rw [first.length, second.length]

theorem isAround_v4 (a : IPv4) (length : Fin 33) :
    (v4 (Net.Block.of a.bits length)).IsAround (.v4 a) length where
  version := rfl
  length := rfl
  bit := Net.getMsbD_blockOf a.bits length
  scope? := rfl

theorem isAround_v6 (a : IPv6) (length : Fin 129) :
    (v6 (Net.Block.of a.bits length) none).IsAround (.v6 a) length where
  version := rfl
  length := rfl
  bit := Net.getMsbD_blockOf a.bits length
  scope? := rfl

theorem ofAddress?_v4_eq_some_iff {a : IPv4} {cs : List Char} {n : IPNetwork} :
    ofAddress? (.v4 a) (some cs) = some n ↔
      ∃ length : Fin (32 + 1), IsPrefixText .v4 cs length ∧ v4 (Net.Block.of a.bits length) = n := by
  simp only [ofAddress?, Option.bind_eq_bind, Option.bind_eq_some_iff, Option.pure_def,
    Option.some_inj, readPrefix4?_eq_some_iff]

theorem ofAddress?_v6_eq_some_iff {a : IPv6} {cs : List Char} {n : IPNetwork} :
    ofAddress? (.v6 a) (some cs) = some n ↔
      ∃ length : Fin (128 + 1), IsPrefixText .v6 cs length ∧
        v6 (Net.Block.of a.bits length)
          (if (Net.Block.of a.bits length).bits = a.bits then a.scope else none) = n := by
  simp only [ofAddress?, Option.bind_eq_bind, Option.bind_eq_some_iff, Option.pure_def,
    Option.some_inj, readLength?_eq_some_iff]

theorem exists_ofAddress?_iff {a : IPAddress} {cs : List Char} :
    (∃ n, ofAddress? a (some cs) = some n) ↔ ∃ p, IsPrefixText a.version cs p := by
  have bounded {version : IPVersion} :
      (∃ p, IsPrefixText version cs p) ↔
        ∃ length : Fin (version.width + 1), IsPrefixText version cs length :=
    ⟨fun ⟨p, text⟩ => ⟨⟨p, Nat.lt_succ_of_le text.le_width⟩, text⟩, fun ⟨_, text⟩ => ⟨_, text⟩⟩
  rw [bounded]
  cases a with
  | v4 a =>
    simp only [ofAddress?_v4_eq_some_iff]
    exact ⟨fun ⟨_, length, text, _⟩ => ⟨length, text⟩, fun ⟨length, text⟩ => ⟨_, length, text, rfl⟩⟩
  | v6 a =>
    simp only [ofAddress?_v6_eq_some_iff]
    exact ⟨fun ⟨_, length, text, _⟩ => ⟨length, text⟩, fun ⟨length, text⟩ => ⟨_, length, text, rfl⟩⟩

/-- The network that is read of an address without a scope is the one around the address. -/
theorem exists_isAround_of_ofAddress? {a : IPAddress} {cs : List Char} {n : IPNetwork}
    (plain : a.scope? = none) (read : ofAddress? a (some cs) = some n) :
    ∃ p, IsPrefixText a.version cs p ∧ n.IsAround a p := by
  cases a with
  | v4 a =>
    obtain ⟨length, text, rfl⟩ := ofAddress?_v4_eq_some_iff.1 read
    exact ⟨length, text, isAround_v4 a length⟩
  | v6 a =>
    obtain ⟨bits, scope⟩ := a
    obtain rfl : scope = none := plain
    obtain ⟨length, text, rfl⟩ := ofAddress?_v6_eq_some_iff.1 read
    rw [ite_self]
    exact ⟨length, text, isAround_v6 ⟨bits, none⟩ length⟩

end IPNetwork

/-! ### The host address of an interface -/

namespace Interface

theorem map_host_read?_of_bare {cs : List Char} (bare : '/' ∉ cs) :
    (read? cs).map host = (IPAddress.read? cs).map IPAddress.unscoped := by
  rw [read?_of_bare bare]
  cases IPAddress.read? cs with
  | none => rfl
  | some a => cases a <;> rfl

theorem map_host_read?_append {front behind : List Char} {a : IPAddress} {p : Nat}
    (apart : '/' ∉ front) (address : IPAddress.read? front = some a)
    (text : IsPrefixText a.version behind p) :
    (read? (front ++ '/' :: behind)).map host = some a.unscoped := by
  obtain ⟨n, network⟩ := IPNetwork.exists_ofAddress?_iff.2 ⟨p, text⟩
  rw [read?_append apart text.slash_not_mem, address, Option.bind_some, network]
  rfl

end Interface

end NodeDataplane
