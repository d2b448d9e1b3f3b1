import Mathlib.Data.List.Basic
import NodeDataplane.Proofs.AddressText

/-!
# The form of addresses

However an address is spelled, it is written in hexadecimal digits between points and colons, unless
it names a scope. Its points are those of an IPv4 address: there are none, or three of them.

## Main results

- `IPAddress.form_of_read?`: what is read as an address has this form, or names a scope.
- `IPv6.read?_of_ipv4`: no text is an address of both versions.
-/

namespace NodeDataplane

open Text

/-! ### Texts and their fields -/

namespace Text

theorem length_fields (sep : Char) (cs : List Char) :
    (fields sep cs).length = cs.count sep + 1 := by
  induction cs with
  | nil => rfl
  | cons c cs ih =>
    rw [fields]
    have some_field := fields_ne_nil sep cs
    cases rest : fields sep cs with
    | nil => exact absurd rest some_field
    | cons field more =>
      rw [rest] at ih
      by_cases is_sep : c = sep
      · simp_all
      · simp_all [List.count_cons_of_ne]

/-- What stands in front of the last piece is made of separators and of the other pieces. -/
theorem exists_joined_concat (sep : Char) (pieces : List (List Char)) (last : List Char) :
    ∃ front, joined sep (pieces ++ [last]) = front ++ last ∧
      ∀ c ∈ front, c = sep ∨ ∃ piece ∈ pieces, c ∈ piece := by
  induction pieces with
  | nil => exact ⟨[], by simp, nofun⟩
  | cons piece more ih =>
    obtain ⟨front, whole, inside⟩ := ih
    obtain ⟨next, rest, same⟩ : ∃ next rest, more ++ [last] = next :: rest :=
      List.exists_cons_of_ne_nil (by simp)
    refine ⟨piece ++ sep :: front, ?_, ?_⟩
    · rw [List.cons_append, same, joined_cons_cons, ← same, whole, List.append_assoc,
        List.cons_append]
    · intro c mem
      rcases List.mem_append.1 mem with here | behind
      · exact .inr ⟨piece, List.mem_cons_self, here⟩
      · rcases List.mem_cons.1 behind with is_sep | there
        · exact .inl is_sep
        · exact (inside c there).imp_right fun ⟨other, place, within⟩ =>
            ⟨other, List.mem_cons_of_mem _ place, within⟩

theorem isSome_of_natOfHex? {cs : List Char} {n : Nat} (read : natOfHex? cs = some n) :
    ∀ c ∈ cs, (hexValue? c).isSome = true := by
  unfold natOfHex? at read
  generalize 0 = start at read
  induction cs generalizing start with
  | nil => nofun
  | cons c cs ih =>
    rw [List.foldlM_cons] at read
    obtain ⟨next, digit, read⟩ := Option.bind_eq_some_iff.1 read
    obtain ⟨_, value, -⟩ := Option.map_eq_some_iff.1 digit
    exact List.forall_mem_cons.2 ⟨Option.isSome_of_mem value, ih next read⟩

theorem of_mapM_eq_some {α β : Type} {f : α → Option β} {xs : List α} {ys : List β}
    (read : xs.mapM f = some ys) : (∀ x ∈ xs, (f x).isSome = true) ∧ ys.length = xs.length := by
  induction xs generalizing ys with
  | nil =>
    cases read
    exact ⟨nofun, rfl⟩
  | cons x xs ih =>
    rw [List.mapM_cons] at read
    obtain ⟨y, first, read⟩ := Option.bind_eq_some_iff.1 read
    obtain ⟨rest, behind, same⟩ := Option.bind_eq_some_iff.1 read
    cases same
    obtain ⟨all, length⟩ := ih behind
    exact ⟨List.forall_mem_cons.2 ⟨Option.isSome_of_mem first, all⟩, by simp [length]⟩

end Text

/-! ### Addresses -/

/-- Hexadecimal digits between points and colons. A single point would make a decimal fraction. -/
structure IsAddressForm (cs : List Char) : Prop where
  digits : ∀ c ∈ cs, (hexValue? c).isSome = true ∨ c = '.' ∨ c = ':'
  points : cs.count '.' ≠ 1
  marked : '.' ∈ cs ∨ ':' ∈ cs

namespace IPv4

theorem isSome_hexValue?_of_isDigit {c : Char} (digit : c.isDigit = true) :
    (hexValue? c).isSome = true := by
  simp [hexValue?, digit]

theorem count_point_of_read? {cs : List Char} {a : IPv4} (read : read? cs = some a) :
    cs.count '.' = 3 := by
  have pieces := length_fields '.' cs
  unfold read? at read
  split at read
  next cut =>
    rw [cut] at pieces
    exact (Nat.succ.inj pieces).symm
  next => cases read

theorem digit_of_read? {cs : List Char} {a : IPv4} (read : read? cs = some a) :
    ∀ c ∈ cs, (hexValue? c).isSome = true ∨ c = '.' := by
  intro c mem
  by_cases point : c = '.'
  · exact .inr point
  · unfold read? at read
    split at read
    next cut =>
      obtain ⟨octets, read, -⟩ := Option.map_eq_some_iff.1 read
      rw [← joined_fields '.' cs, cut] at mem
      obtain ⟨piece, place, inside⟩ := (mem_joined_iff point).1 mem
      obtain ⟨n, octet⟩ := Option.isSome_iff_exists.1 ((of_mapM_eq_some read).1 piece place)
      exact .inl (isSome_hexValue?_of_isDigit (isDigit_of_readOctet? octet c inside))
    next => cases read

theorem isAddressForm_of_read? {cs : List Char} {a : IPv4} (read : read? cs = some a) :
    IsAddressForm cs where
  digits c mem := (digit_of_read? read c mem).imp_right .inl
  points := by rw [count_point_of_read? read]; decide
  marked := .inl (List.count_pos_iff.1 (by rw [count_point_of_read? read]; decide))

end IPv4

namespace IPv6

theorem isSome_of_readGroup? {cs : List Char} (read : (readGroup? cs).isSome = true) :
    ∀ c ∈ cs, (hexValue? c).isSome = true := by
  obtain ⟨n, read⟩ := Option.isSome_iff_exists.1 read
  unfold readGroup? at read
  split at read
  · cases read
  · exact isSome_of_natOfHex? read

theorem digit_of_groups {pieces : List (List Char)}
    (read : ∀ piece ∈ pieces, (readGroup? piece).isSome = true) :
    ∀ c ∈ joined ':' pieces, (hexValue? c).isSome = true ∨ c = ':' := by
  intro c mem
  by_cases colon : c = ':'
  · exact .inr colon
  · obtain ⟨piece, place, inside⟩ := (mem_joined_iff colon).1 mem
    exact .inl (isSome_of_readGroup? (read piece place) c inside)

theorem digit_of_readGroups? {cs : List Char} {groups : List Nat}
    (read : readGroups? cs = some groups) : ∀ c ∈ cs, (hexValue? c).isSome = true ∨ c = ':' := by
  unfold readGroups? at read
  split at read
  next empty => simp [List.isEmpty_iff.1 empty]
  next =>
    have letters := digit_of_groups (of_mapM_eq_some read).1
    rwa [joined_fields] at letters

theorem point_not_mem {cs : List Char}
    (digits : ∀ c ∈ cs, (hexValue? c).isSome = true ∨ c = ':') : '.' ∉ cs := by
  intro mem
  exact absurd (digits _ mem) (by decide)

theorem length_readGroups?_le {cs : List Char} {groups : List Nat}
    (read : readGroups? cs = some groups) : groups.length ≤ cs.count ':' + 1 := by
  unfold readGroups? at read
  split at read
  · cases read
    exact Nat.zero_le _
  · exact Nat.le_of_eq ((of_mapM_eq_some read).2.trans (length_fields ':' cs))

/-- The groups at the end hold no point, or the three points of an IPv4 address in place of two
groups. -/
theorem form_of_readTail? {cs : List Char} {groups : List Nat}
    (read : readTail? cs = some groups) :
    (∀ c ∈ cs, (hexValue? c).isSome = true ∨ c = '.' ∨ c = ':') ∧
      (cs.count '.' = 0 ∨ cs.count '.' = 3) ∧ groups.length ≤ cs.count ':' + 2 := by
  have plain (read : readGroups? cs = some groups) :
      (∀ c ∈ cs, (hexValue? c).isSome = true ∨ c = '.' ∨ c = ':') ∧
        (cs.count '.' = 0 ∨ cs.count '.' = 3) ∧ groups.length ≤ cs.count ':' + 2 := by
    have digits := digit_of_readGroups? read
    exact ⟨fun c mem => (digits c mem).imp_right .inr,
      .inl (List.count_eq_zero.2 (point_not_mem digits)),
      Nat.le_succ_of_le (length_readGroups?_le read)⟩
  unfold readTail? at read
  dsimp only at read
  split at read
  next last found =>
    split at read
    next =>
      obtain ⟨before, front, read⟩ := Option.bind_eq_some_iff.1 read
      obtain ⟨a, address, same⟩ := Option.bind_eq_some_iff.1 read
      cases same
      obtain ⟨high, length⟩ := of_mapM_eq_some front
      obtain ⟨front, whole, inside⟩ := exists_joined_concat ':' (fields ':' cs).dropLast last
      rw [List.dropLast_append_getLast? last found, joined_fields] at whole
      have digits : ∀ c ∈ front, (hexValue? c).isSome = true ∨ c = ':' := fun c mem =>
        (inside c mem).symm.imp_left fun ⟨piece, place, within⟩ =>
          isSome_of_readGroup? (high piece place) c within
      -- All points are in the last piece.
      have none := List.count_eq_zero.2 (point_not_mem digits)
      refine ⟨?_, .inr ?_, ?_⟩
      · rw [whole]
        exact List.forall_mem_append.2 ⟨fun c mem => (digits c mem).imp_right .inr,
          fun c mem => (IPv4.digit_of_read? address c mem).imp_right .inl⟩
      · rw [whole, List.count_append, none, IPv4.count_point_of_read? address]
      · have pieces := length_fields ':' cs
        rw [List.length_append, length, List.length_dropLast, groupsOfIPv4, Net.length_digitsOf]
        omega
    next => exact plain read
  next => exact plain read

theorem append_of_cutGap? {cs before behind : List Char}
    (found : cutGap? cs = some (before, behind)) : before ++ ':' :: ':' :: behind = cs := by
  fun_induction cutGap? cs generalizing before with
  | case1 => cases found; rfl
  | case2 c rest _ ih =>
    obtain ⟨⟨front, _⟩, cut, same⟩ := Option.map_eq_some_iff.1 found
    cases same
    rw [List.cons_append, ih cut]
  | case3 => cases found

theorem colon_mem_of_readBits? {cs : List Char} {groups : List Nat}
    (read : readBits? cs = some groups) : ':' ∈ cs := by
  unfold readBits? at read
  split at read
  next =>
    obtain ⟨groups, tail, read⟩ := Option.bind_eq_some_iff.1 read
    split at read
    next eight =>
      -- Without a colon there are two groups at most.
      have length := (form_of_readTail? tail).2.2
      exact List.count_pos_iff.1 (by omega)
    next => cases read
  next before behind cut => simp [← append_of_cutGap? cut]

theorem isAddressForm_of_readBits? {cs : List Char} {groups : List Nat}
    (read : readBits? cs = some groups) : IsAddressForm cs := by
  have colon := colon_mem_of_readBits? read
  unfold readBits? at read
  split at read
  next =>
    obtain ⟨groups, tail, -⟩ := Option.bind_eq_some_iff.1 read
    obtain ⟨digits, points, -⟩ := form_of_readTail? tail
    exact ⟨digits, by omega, .inr colon⟩
  next before behind cut =>
    obtain ⟨high, front, read⟩ := Option.bind_eq_some_iff.1 read
    obtain ⟨low, tail, -⟩ := Option.bind_eq_some_iff.1 read
    have first := digit_of_readGroups? front
    obtain ⟨digits, points, -⟩ := form_of_readTail? tail
    have none := List.count_eq_zero.2 (point_not_mem first)
    have separator : (hexValue? ':').isSome = true ∨ ':' = '.' ∨ ':' = ':' := .inr (.inr rfl)
    rw [← append_of_cutGap? cut] at colon ⊢
    refine ⟨?_, ?_, .inr colon⟩
    · exact List.forall_mem_append.2 ⟨fun c mem => (first c mem).imp_right .inr,
        List.forall_mem_cons.2 ⟨separator, List.forall_mem_cons.2 ⟨separator, digits⟩⟩⟩
    · rw [List.count_append, none, List.count_cons_of_ne (by decide),
        List.count_cons_of_ne (by decide)]
      omega

theorem colon_mem_of_read? {cs : List Char} {a : IPv6} (read : read? cs = some a) : ':' ∈ cs := by
  unfold read? at read
  split at read
  next =>
    obtain ⟨groups, bits, -⟩ := Option.map_eq_some_iff.1 read
    exact colon_mem_of_readBits? bits
  next bits scope cut =>
    split at read
    next => cases read
    next =>
      obtain ⟨groups, read, -⟩ := Option.map_eq_some_iff.1 read
      rw [← append_of_cut? cut]
      exact List.mem_append_left _ (colon_mem_of_readBits? read)

theorem form_of_read? {cs : List Char} {a : IPv6} (read : read? cs = some a) :
    IsAddressForm cs ∨ '%' ∈ cs := by
  unfold read? at read
  split at read
  next =>
    obtain ⟨groups, read, -⟩ := Option.map_eq_some_iff.1 read
    exact .inl (isAddressForm_of_readBits? read)
  next cut =>
    rw [← append_of_cut? cut]
    exact .inr (by simp)

end IPv6

theorem IPAddress.form_of_read? {cs : List Char} {a : IPAddress} (read : read? cs = some a) :
    IsAddressForm cs ∨ '%' ∈ cs := by
  unfold read? at read
  cases v4 : IPv4.read? cs with
  | some b => exact .inl (IPv4.isAddressForm_of_read? v4)
  | none =>
    rw [v4] at read
    obtain ⟨_, v6, -⟩ := Option.map_eq_some_iff.1 read
    exact IPv6.form_of_read? v6

/-- No text is an address of both versions. -/
theorem IPv6.read?_of_ipv4 {cs : List Char} {a : IPv4} (read : IPv4.read? cs = some a) :
    IPv6.read? cs = none := by
  rw [Option.eq_none_iff_forall_ne_some]
  intro b other
  rw [IPv4.read?_of_colon (IPv6.colon_mem_of_read? other)] at read
  cases read

end NodeDataplane
