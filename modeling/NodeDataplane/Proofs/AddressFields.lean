import NodeDataplane.Proofs.CanonicalText

/-!
# Fields of addresses and of blocks

Three kinds of fields are read from the texts of addresses: addresses as they stand, addresses that
may have a prefix behind them, and blocks. They are read by different rules, so it is settled here
how the values of one text as several kinds go together.

## Main results

- `Field.block_identity`: a text is a block exactly if it has a prefix and is an address with a
  prefix, and it is the block of the first bits of this address. So two texts are the same block if
  their addresses have these bits in common, however they are spelled.
- `Field.readsAlike_iff`: a text is the same address with a prefix and without one, in both kinds of
  address fields, exactly if it names no scope: only the address as it stands keeps its scope.

## Proof strategy

A text is cut at its first slash. What stands in front is read as an address by every kind, and what
stands behind has to give a prefix (`IsPrefixText`), which is told without the readers. Without a
scope, the network that is read is the one around the address (`IPNetwork.IsAround`).
-/

namespace NodeDataplane

open Text

/-! ### Addresses in front of a prefix -/

/-- An IPv6 address has a scope exactly if it is written with a percent sign. -/
theorem IPv6.scope_eq_none_iff {cs : List Char} {a : IPv6} (read : read? cs = some a) :
    a.scope = none ↔ '%' ∉ cs := by
  unfold read? at read
  split at read
  next no_cut =>
    obtain ⟨_, -, rfl⟩ := Option.map_eq_some_iff.1 read
    refine iff_of_true rfl fun percent => ?_
    obtain ⟨before, behind, rfl, apart⟩ := List.eq_append_cons_of_mem percent
    rw [cut?_append behind apart] at no_cut
    cases no_cut
  next bits scope cut =>
    split at read
    next => cases read
    next =>
      obtain ⟨_, -, rfl⟩ := Option.map_eq_some_iff.1 read
      rw [← append_of_cut? cut]
      simp [ofGroups]

theorem IPAddress.scope?_eq_none_iff {cs : List Char} {a : IPAddress} (read : read? cs = some a) :
    a.scope? = none ↔ '%' ∉ cs := by
  unfold read? at read
  cases v4 : IPv4.read? cs with
  | some b =>
    rw [v4] at read
    cases read
    exact iff_of_true rfl fun percent => absurd (IPv4.digit_of_read? v4 _ percent) (by decide)
  | none =>
    rw [v4] at read
    obtain ⟨b, v6, rfl⟩ := Option.map_eq_some_iff.1 read
    exact IPv6.scope_eq_none_iff v6

/-! ### What the kinds of fields read -/

namespace Field

theorem value?_parse_cidrOrIp (raw : String) :
    (parse .cidrOrIp (some raw) none).value? =
      (Interface.read? raw.toList).map Interface.host := by
  by_cases empty : raw = ""
  · subst empty
    decide
  · rw [value?_parse _ empty, FieldKind.read, FieldKind.readCidrOrIp]
    cases Interface.read? raw.toList <;> rfl

theorem value?_parse_ip (raw : String) :
    (parse .ip (some raw) none).value? =
      if '/' ∈ raw.toList then (Interface.read? raw.toList).map Interface.host
      else IPAddress.read? raw.toList := by
  by_cases empty : raw = ""
  · subst empty
    decide
  · rw [value?_parse _ empty, FieldKind.read, FieldKind.readIp]
    simp only [List.contains_eq_mem, decide_eq_true_eq]
    by_cases slash : '/' ∈ raw.toList
    · rw [if_pos slash, if_pos slash]
      cases Interface.read? raw.toList <;> rfl
    · rw [if_neg slash, if_neg slash]
      cases IPAddress.read? raw.toList <;> rfl

theorem value?_parse_cidr (raw : String) :
    (parse .cidr (some raw) none).value? =
      if '/' ∈ raw.toList then IPNetwork.read? raw.toList else none := by
  by_cases empty : raw = ""
  · subst empty
    decide
  · rw [value?_parse _ empty, FieldKind.read, FieldKind.readCidr]
    simp only [List.contains_eq_mem, decide_eq_true_eq]
    by_cases slash : '/' ∈ raw.toList
    · rw [if_pos slash, if_pos slash]
      cases IPNetwork.read? raw.toList <;> rfl
    · rw [if_neg slash, if_neg slash]
      rfl

/-! ### Blocks -/

/-- What stands behind the first slash gives a prefix for the addresses of a version. -/
def HasPrefix (raw : String) (version : IPVersion) (p : Nat) : Prop :=
  ∃ front behind, raw.toList = front ++ '/' :: behind ∧ '/' ∉ front ∧
    IsPrefixText version behind p

theorem HasPrefix.unique {raw : String} {version : IPVersion} {p q : Nat}
    (first : HasPrefix raw version p) (second : HasPrefix raw version q) : p = q := by
  obtain ⟨front, behind, whole, apart, text⟩ := first
  obtain ⟨front', behind', whole', apart', text'⟩ := second
  have cut := cut?_append behind apart
  rw [← whole, whole', cut?_append behind' apart'] at cut
  cases cut
  exact text.unique text'

/-- A block is read where an address with a prefix is, whatever the prefix. -/
theorem ok_parse_cidr_iff (raw : String) :
    (parse .cidr (some raw) none).ok = true ↔
      '/' ∈ raw.toList ∧ (parse .cidrOrIp (some raw) none).ok = true := by
  rw [FieldResult.ok, FieldResult.ok, value?_parse_cidr, value?_parse_cidrOrIp,
    IPNetwork.read?_eq_map_network]
  by_cases slash : '/' ∈ raw.toList <;> simp [slash]

/-- A block that is read is the one around the address in front of the prefix. -/
theorem exists_isAround_of_parse_cidr {raw : String} {n : IPNetwork} (plain : '%' ∉ raw.toList)
    (parsed : parse .cidr (some raw) none = .parsed n) :
    ∃ a p, parse .cidrOrIp (some raw) none = .parsed a ∧ HasPrefix raw a.version p ∧
      n.IsAround a p := by
  have value := FieldResult.value?_eq_some_iff.2 parsed
  rw [value?_parse_cidr] at value
  split at value
  next slash =>
    obtain ⟨front, behind, whole, apart⟩ := List.eq_append_cons_of_mem slash
    rw [IPNetwork.read?_eq_map_network, whole] at value
    by_cases more : '/' ∈ behind
    · -- With a second slash, nothing is read.
      rw [Interface.read?_append_of_slash apart more] at value
      cases value
    · obtain ⟨i, read, rfl⟩ := Option.map_eq_some_iff.1 value
      have interface := read
      rw [Interface.read?_append apart more] at read
      obtain ⟨a, address, read⟩ := Option.bind_eq_some_iff.1 read
      obtain ⟨n, network, rfl⟩ := Option.map_eq_some_iff.1 read
      -- A scope would stay with the network where no bit is cleared.
      have unscoped : a.scope? = none := (IPAddress.scope?_eq_none_iff address).2 fun percent =>
        plain (whole ▸ List.mem_append_left _ percent)
      obtain ⟨p, text, around⟩ := IPNetwork.exists_isAround_of_ofAddress? unscoped network
      refine ⟨a, p, ?_, ⟨front, behind, whole, apart, text⟩, around⟩
      rw [← FieldResult.value?_eq_some_iff, value?_parse_cidrOrIp, whole, interface]
      exact congrArg some (IPAddress.unscoped_eq_self_iff.2 unscoped)
  next => cases value

theorem isAround_of_parse_cidr {raw : String} {n : IPNetwork} {a : IPAddress} {p : Nat}
    (plain : '%' ∉ raw.toList) (network : parse .cidr (some raw) none = .parsed n)
    (address : parse .cidrOrIp (some raw) none = .parsed a) (given : HasPrefix raw a.version p) :
    n.IsAround a p := by
  obtain ⟨b, q, same, given', around⟩ := exists_isAround_of_parse_cidr plain network
  rw [address] at same
  cases same
  obtain rfl := given.unique given'
  exact around

theorem parse_cidr_eq_parsed_iff {raw : String} {n : IPNetwork} (plain : '%' ∉ raw.toList) :
    parse .cidr (some raw) none = .parsed n ↔
      ∃ a p, parse .cidrOrIp (some raw) none = .parsed a ∧ HasPrefix raw a.version p ∧
        n.IsAround a p := by
  constructor
  · exact exists_isAround_of_parse_cidr plain
  · rintro ⟨a, p, address, given, around⟩
    have slash : '/' ∈ raw.toList := by
      obtain ⟨front, behind, whole, -⟩ := given
      simp [whole]
    obtain ⟨m, parsed⟩ := FieldResult.ok_iff.1
      ((ok_parse_cidr_iff raw).2 ⟨slash, FieldResult.ok_iff.2 ⟨a, address⟩⟩)
    have around' := isAround_of_parse_cidr plain parsed address given
    rw [parsed, (IPNetwork.eq_iff_of_isAround around' around).2 ⟨rfl, rfl, fun _ _ => rfl⟩]

/-- What a text is as a block depends only on the version of its address and on as many of the first
bits as its prefix says. -/
theorem block_identity {raw other : String} (plain : '%' ∉ raw.toList)
    (plain' : '%' ∉ other.toList) :
    ((parse .cidr (some raw) none).ok = true ↔
      '/' ∈ raw.toList ∧ (parse .cidrOrIp (some raw) none).ok = true) ∧
    (∀ n, parse .cidr (some raw) none = .parsed n ↔
      ∃ a p, parse .cidrOrIp (some raw) none = .parsed a ∧ HasPrefix raw a.version p ∧
        n.IsAround a p) ∧
    ∀ n m a b p q,
      parse .cidr (some raw) none = .parsed n → parse .cidr (some other) none = .parsed m →
      parse .cidrOrIp (some raw) none = .parsed a → HasPrefix raw a.version p →
      parse .cidrOrIp (some other) none = .parsed b → HasPrefix other b.version q →
      (Key.block n = Key.block m ↔
        a.version = b.version ∧ p = q ∧ ∀ i < p, a.bit i = b.bit i) := by
  refine ⟨ok_parse_cidr_iff raw, fun n => parse_cidr_eq_parsed_iff plain, ?_⟩
  intro n m a b p q network network' address given address' given'
  have around := isAround_of_parse_cidr plain network address given
  have around' := isAround_of_parse_cidr plain' network' address' given'
  rw [Key.block.injEq, IPNetwork.eq_iff_of_isAround around around']

/-- A mask of network bits and one of host bits, behind two addresses of one block. -/
theorem block_identity_of_masks :
    let n := IPNetwork.v4 (Net.Block.of 0x0A010203 16)
    let m := IPNetwork.v4 (Net.Block.of 0x0A010909 16)
    parse .cidr (some "10.1.2.3/255.255.0.0") none = .parsed n ∧
      parse .cidr (some "10.1.9.9/0.0.255.255") none = .parsed m ∧ Key.block n = Key.block m := by
  have network : parse .cidr (some "10.1.2.3/255.255.0.0") none =
      .parsed (.v4 (Net.Block.of 0x0A010203 16)) := by decide +kernel
  have network' : parse .cidr (some "10.1.9.9/0.0.255.255") none =
      .parsed (.v4 (Net.Block.of 0x0A010909 16)) := by decide +kernel
  have address : parse .cidrOrIp (some "10.1.2.3/255.255.0.0") none =
      .parsed (.v4 ⟨0x0A010203⟩) := by decide +kernel
  have address' : parse .cidrOrIp (some "10.1.9.9/0.0.255.255") none =
      .parsed (.v4 ⟨0x0A010909⟩) := by decide +kernel
  have given : HasPrefix "10.1.2.3/255.255.0.0" .v4 16 :=
    ⟨"10.1.2.3".toList, "255.255.0.0".toList, by decide, by decide,
      .netmask (a := ⟨0xFFFF0000⟩) (by decide) (by decide) (by unfold Net.IsNetmask; decide)⟩
  have given' : HasPrefix "10.1.9.9/0.0.255.255" .v4 16 :=
    ⟨"10.1.9.9".toList, "0.0.255.255".toList, by decide, by decide,
      .hostmask (a := ⟨0x0000FFFF⟩) (by decide) (by decide) (by unfold Net.IsHostmask; decide)⟩
  have identity := (block_identity (by decide) (by decide)).2.2 _ _ _ _ _ _ network network'
    address given address' given'
  exact ⟨network, network', identity.2 ⟨rfl, rfl, by decide⟩⟩

/-! ### Addresses with and without a prefix -/

/-- A text is one address as it stands, and another one wherever it may have a prefix. -/
structure ReadsAs (s : String) (bare host : IPAddress) : Prop where
  ip : parse .ip (some s) none = .parsed bare
  cidrOrIp : parse .cidrOrIp (some s) none = .parsed host
  prefixed : ∀ (m : String) (p : Nat), IsPrefixText bare.version m.toList p →
    parse .ip (some (s ++ "/" ++ m)) none = .parsed host ∧
      parse .cidrOrIp (some (s ++ "/" ++ m)) none = .parsed host

/-- A text is no address, whatever is put behind it. -/
structure IsUnread (s : String) : Prop where
  ip : (parse .ip (some s) none).failed = true
  cidrOrIp : (parse .cidrOrIp (some s) none).failed = true
  prefixed : ∀ m : String, (parse .ip (some (s ++ "/" ++ m)) none).failed = true ∧
    (parse .cidrOrIp (some (s ++ "/" ++ m)) none).failed = true

/-- Neither a prefix nor the kind of the field changes which address a text is. -/
def ReadsAlike (s : String) : Prop := (∃ a, ReadsAs s a a) ∨ IsUnread s

/-- With a prefix, both kinds of fields read an interface. -/
theorem value?_parse_prefixed (s m : String) :
    (parse .ip (some (s ++ "/" ++ m)) none).value? =
        (Interface.read? (s.toList ++ '/' :: m.toList)).map Interface.host ∧
      (parse .cidrOrIp (some (s ++ "/" ++ m)) none).value? =
        (Interface.read? (s.toList ++ '/' :: m.toList)).map Interface.host := by
  have whole : (s ++ "/" ++ m).toList = s.toList ++ '/' :: m.toList := by simp
  rw [value?_parse_ip, value?_parse_cidrOrIp, whole, if_pos (by simp)]
  exact ⟨rfl, rfl⟩

theorem readsAs_of_read? {s : String} (bare : '/' ∉ s.toList) {a : IPAddress}
    (read : IPAddress.read? s.toList = some a) : ReadsAs s a a.unscoped where
  ip := by rw [← FieldResult.value?_eq_some_iff, value?_parse_ip, if_neg bare, read]
  cidrOrIp := by
    rw [← FieldResult.value?_eq_some_iff, value?_parse_cidrOrIp,
      Interface.map_host_read?_of_bare bare, read, Option.map_some]
  prefixed m p text := by
    have host := Interface.map_host_read?_append bare read text
    rw [← FieldResult.value?_eq_some_iff, ← FieldResult.value?_eq_some_iff,
      (value?_parse_prefixed s m).1, (value?_parse_prefixed s m).2, host]
    exact ⟨rfl, rfl⟩

theorem isUnread_of_read? {s : String} (written : s ≠ "") (bare : '/' ∉ s.toList)
    (unread : IPAddress.read? s.toList = none) : IsUnread s where
  ip := by
    rw [failed_parse_iff, value?_parse_ip, if_neg bare]
    exact ⟨written, unread⟩
  cidrOrIp := by
    rw [failed_parse_iff, value?_parse_cidrOrIp, Interface.map_host_read?_of_bare bare, unread]
    exact ⟨written, rfl⟩
  prefixed m := by
    have given : s ++ "/" ++ m ≠ "" := by simp
    rw [failed_parse_iff, failed_parse_iff, (value?_parse_prefixed s m).1,
      (value?_parse_prefixed s m).2, Interface.read?_append_of_unread bare unread]
    exact ⟨⟨given, rfl⟩, given, rfl⟩

/-- The one thing that a prefix takes from an address, and that the kinds of fields disagree on, is
the scope: so texts of addresses with a scope are not read alike, and all other texts are. -/
theorem readsAlike_iff {s : String} (written : s ≠ "") (bare : '/' ∉ s.toList) :
    ((∃ a, ReadsAs s a a.unscoped) ∨ IsUnread s) ∧
      (ReadsAlike s ↔ ('%' ∈ s.toList → IsUnread s)) := by
  cases read : IPAddress.read? s.toList with
  | none =>
    have unread := isUnread_of_read? written bare read
    exact ⟨.inr unread, iff_of_true (.inr unread) fun _ => unread⟩
  | some a =>
    have reads := readsAs_of_read? bare read
    have not_unread (unread : IsUnread s) : False := by
      have failed := unread.ip
      rw [reads.ip] at failed
      cases failed
    refine ⟨.inl ⟨a, reads⟩, ?_⟩
    constructor
    · rintro (⟨b, alike⟩ | unread) percent
      · -- Then the scope would be lost and kept.
        have first := reads.ip.symm.trans alike.ip
        have second := reads.cidrOrIp.symm.trans alike.cidrOrIp
        cases first
        have unscoped : a.unscoped = a := by injection second
        have plain := IPAddress.unscoped_eq_self_iff.1 unscoped
        exact absurd percent ((IPAddress.scope?_eq_none_iff read).1 plain)
      · exact unread
    · intro unread
      have plain : a.scope? = none := (IPAddress.scope?_eq_none_iff read).2 fun percent =>
        not_unread (unread percent)
      rw [IPAddress.unscoped_eq_self_iff.2 plain] at reads
      exact .inl ⟨a, reads⟩

theorem readsAlike_iff_of_plain_address : ReadsAlike "fd00:1::5" :=
  (readsAlike_iff (by decide) (by decide)).2.2 fun percent => absurd percent (by decide)

/-- As it stands, an address keeps its scope, but not in a field that may have a prefix. -/
theorem scope_kept_and_lost : '/' ∉ "fe80::1%eth0".toList ∧ ¬ ReadsAlike "fe80::1%eth0" := by
  have kept : parse .ip (some "fe80::1%eth0") none =
      .parsed (.v6 ⟨0xfe800000000000000000000000000001, some "eth0"⟩) := by decide +kernel
  have lost : parse .cidrOrIp (some "fe80::1%eth0") none =
      .parsed (.v6 ⟨0xfe800000000000000000000000000001, none⟩) := by decide +kernel
  refine ⟨by decide, ?_⟩
  rintro (⟨a, alike⟩ | unread)
  · have first := kept.symm.trans alike.ip
    have second := lost.symm.trans alike.cidrOrIp
    cases first
    cases second
  · have failed := unread.ip
    rw [kept] at failed
    cases failed

end Field

end NodeDataplane
