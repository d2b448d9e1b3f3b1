import NodeDataplane.Net.Address

/-!
# Addresses are read back from their texts

An address has many spellings and one text. This text is a spelling of it: reading the text gives
the address back, down to the scope of an IPv6 address. A scope takes part in this if it can be told
from what stands around it, as every scope that was itself read from a text can.

## Main results

- `IPv4.read?_text`, `IPv6.read?_text`, `IPAddress.read?_text`: the text of an address is read back.
- `IPAddress.legible_of_read?`: the scope of an address that was read can be told again.

## Proof strategy

The text joins the numbers of the address by a separator that is no digit, so it is cut apart at the
same places, and a number is read back from its digits. What an IPv6 address leaves out is a run of
zero groups (`IPv6.ZeroAt`). No group is written as nothing, so the first gap in the text is where
the run was, and it is filled up with as many zeros as were left out.
-/

namespace NodeDataplane

open Text

/-- If every text that is written is read back, so are all of them in a row. -/
theorem mapM_of_forall {α β : Type} {f : β → Option α} {g : α → β} {xs : List α}
    (back : ∀ x ∈ xs, f (g x) = some x) : (xs.map g).mapM f = some xs := by
  induction xs with
  | nil => rfl
  | cons x xs ih =>
    simp only [List.forall_mem_cons] at back
    simp [back.1, ih back.2]

/-! ### Digits -/

namespace Net

theorem lt_of_mem_digitsOf {base count n digit : Nat} (positive : 0 < base)
    (mem : digit ∈ digitsOf base count n) : digit < base := by
  induction count generalizing n with
  | zero => cases mem
  | succ count ih =>
    rcases List.mem_append.1 mem with front | last
    · exact ih front
    · rw [List.mem_singleton.1 last]
      exact Nat.mod_lt n positive

/-- A word is put together again from its digits. -/
theorem ofDigits_digitsOf_toNat {width base count : Nat}
    (fits : Nat.pow 2 width = Nat.pow base count) (bits : BitVec width) :
    BitVec.ofNat width (ofDigits base (digitsOf base count bits.toNat)) = bits := by
  rw [ofDigits_digitsOf (fits ▸ bits.isLt), BitVec.ofNat_toNat, BitVec.setWidth_eq]

end Net

/-! ### IPv4 -/

namespace IPv4

theorem toList_text (a : IPv4) :
    a.text.toList = joined '.' (a.octets.map (Nat.toDigits 10)) := by
  simp [text, joined, List.intercalate, Function.comp_def]

theorem readOctet?_toDigits {n : Nat} (small : n < 256) :
    readOctet? (Nat.toDigits 10 n) = some n := by
  have digits : (Nat.toDigits 10 n).all Char.isDigit = true :=
    List.all_eq_true.2 fun c mem => Nat.isDigit_of_mem_toDigits (by decide) (by decide) mem
  have short : (Nat.toDigits 10 n).length ≤ 3 :=
    (Nat.length_toDigits_le_iff (by decide) (by decide)).2 (by omega)
  have canonical : ¬ ((Nat.toDigits 10 n).head? = some '0' ∧ Nat.toDigits 10 n ≠ ['0']) := by
    rintro ⟨zero, more⟩
    by_cases positive : n = 0
    · subst positive
      simp at more
    · exact head?_toDigits_ne_zero positive zero
  simp only [readOctet?, digits, natOfDigits_toDigits]
  rw [if_neg (by simp [short]), if_neg (by simpa using canonical), if_neg (by omega)]

theorem ofOctets_octets (a : IPv4) : ofOctets a.octets = a := by
  rw [ofOctets, octets, Net.ofDigits_digitsOf_toNat (by decide)]

theorem mem_text {a : IPv4} {c : Char} (mem : c ∈ a.text.toList) : c = '.' ∨ c.isDigit := by
  rw [toList_text] at mem
  by_cases point : c = '.'
  · exact .inl point
  · obtain ⟨_, octet, inside⟩ := (mem_joined_iff point).1 mem
    obtain ⟨n, -, rfl⟩ := List.mem_map.1 octet
    exact .inr (Nat.isDigit_of_mem_toDigits (by decide) (by decide) inside)

/-- The text of an address is read back as the address. -/
theorem read?_text (a : IPv4) : read? a.text.toList = some a := by
  have apart : ∀ piece ∈ a.octets.map (Nat.toDigits 10), '.' ∉ piece := by
    intro piece mem point
    obtain ⟨n, -, rfl⟩ := List.mem_map.1 mem
    exact absurd (Nat.isDigit_of_mem_toDigits (by decide) (by decide) point) (by decide)
  have octets_read : (a.octets.map (Nat.toDigits 10)).mapM readOctet? = some a.octets :=
    mapM_of_forall fun n mem => readOctet?_toDigits (Net.lt_of_mem_digitsOf (by decide) mem)
  rw [read?, toList_text, fields_joined (by simp [octets, Net.digitsOf]) apart]
  simp only [octets, Net.digitsOf, List.nil_append, List.cons_append, List.map_cons,
    List.map_nil] at octets_read ⊢
  rw [octets_read]
  exact congrArg some (ofOctets_octets a)

theorem isDigit_of_readOctet? {cs : List Char} {n : Nat} (read : readOctet? cs = some n) :
    ∀ c ∈ cs, c.isDigit = true := by
  by_cases digits : cs.all Char.isDigit = true
  · exact List.all_eq_true.1 digits
  · simp [readOctet?, digits] at read

/-- Nothing with a colon in it is an IPv4 address. -/
theorem read?_of_colon {cs : List Char} (colon : ':' ∈ cs) : read? cs = none := by
  unfold read?
  split
  next a b c d cut =>
    rw [← joined_fields '.' cs, cut] at colon
    obtain ⟨piece, mem, inside⟩ := (mem_joined_iff (by decide)).1 colon
    have unread : readOctet? piece = none := by
      rw [Option.eq_none_iff_forall_ne_some]
      intro n read
      exact absurd (isDigit_of_readOctet? read _ inside) (by decide)
    rw [Option.map_eq_none_iff, Option.eq_none_iff_forall_ne_some]
    intro octets read
    simp only [List.mem_cons, List.not_mem_nil, or_false] at mem
    rcases mem with rfl | rfl | rfl | rfl <;> simp [unread] at read
  next => rfl

end IPv4

/-! ### IPv6 -/

namespace IPv6

theorem toList_groupsText (groups : List Nat) :
    (groupsText groups).toList = joined ':' (groups.map (Nat.toDigits 16)) := by
  simp [groupsText, joined, List.intercalate, Function.comp_def, hex]

theorem readGroup?_toDigits {n : Nat} (small : n < 65536) :
    readGroup? (Nat.toDigits 16 n) = some n := by
  have short : (Nat.toDigits 16 n).length ≤ 4 :=
    (Nat.length_toDigits_le_iff (by decide) (by decide)).2 (by omega)
  rw [readGroup?, if_neg (by simp [short]), natOfHex?_toDigits]

theorem ofGroups_groups (a : IPv6) (scope : Option String) :
    ofGroups a.groups scope = { a with scope } := by
  rw [ofGroups, groups, Net.ofDigits_digitsOf_toNat (by decide)]

theorem mem_groupsText {groups : List Nat} {c : Char} (mem : c ∈ (groupsText groups).toList) :
    c = ':' ∨ ∃ digit < 16, c = Nat.digitChar digit := by
  rw [toList_groupsText] at mem
  by_cases colon : c = ':'
  · exact .inl colon
  · obtain ⟨_, group, inside⟩ := (mem_joined_iff colon).1 mem
    obtain ⟨n, -, rfl⟩ := List.mem_map.1 group
    exact .inr (exists_digitChar_of_mem_toDigits (by decide) inside)

/-- A character that is neither a colon nor a digit is not part of any groups. -/
theorem not_mem_groupsText {groups : List Nat} {c : Char} (colon : c ≠ ':')
    (digit : ∀ digit < 16, Nat.digitChar digit ≠ c) : c ∉ (groupsText groups).toList := by
  intro mem
  rcases mem_groupsText mem with is_colon | ⟨d, small, rfl⟩
  · exact colon is_colon
  · exact digit d small rfl

theorem colon_not_mem_toDigits (n : Nat) : ':' ∉ Nat.toDigits 16 n := by
  intro mem
  have no_digit : ∀ digit < 16, ':' ≠ Nat.digitChar digit := by decide
  obtain ⟨digit, small, same⟩ := exists_digitChar_of_mem_toDigits (by decide) mem
  exact no_digit digit small same

theorem readGroups?_groupsText {groups : List Nat} (small : ∀ n ∈ groups, n < 65536) :
    readGroups? (groupsText groups).toList = some groups := by
  rw [toList_groupsText]
  cases groups with
  | nil => rfl
  | cons n more =>
    have apart : ∀ piece ∈ (n :: more).map (Nat.toDigits 16), ':' ∉ piece := by
      intro piece mem
      obtain ⟨n, -, rfl⟩ := List.mem_map.1 mem
      exact colon_not_mem_toDigits n
    have written : (joined ':' ((n :: more).map (Nat.toDigits 16))).isEmpty = false := by
      cases more <;> simp [joined_cons_cons]
    rw [readGroups?, written, fields_joined (by simp) apart]
    exact mapM_of_forall fun n mem => readGroup?_toDigits (small n mem)

/-- Without a point, nothing is read as an IPv4 address at the end. -/
theorem readTail?_of_no_point {cs : List Char} (no_point : '.' ∉ cs) :
    readTail? cs = readGroups? cs := by
  unfold readTail?
  dsimp only
  split
  next last found =>
    have inside : '.' ∉ last := fun point =>
      no_point (mem_of_mem_fields (List.mem_of_getLast? found) point)
    rw [if_neg (by simpa using inside)]
  next => rfl

/-! #### The gap -/

theorem cutGap?_append_of_no_colon {cs : List Char} (rest : List Char) (no_colon : ':' ∉ cs) :
    cutGap? (cs ++ rest) = (cutGap? rest).map fun cut => (cs ++ cut.1, cut.2) := by
  induction cs with
  | nil => simp
  | cons c cs ih =>
    simp only [List.mem_cons, not_or] at no_colon
    have no_gap : ∀ behind, c = ':' → cs ++ rest = ':' :: behind → False :=
      fun _ colon => absurd colon.symm no_colon.1
    rw [List.cons_append, cutGap?.eq_2 _ _ no_gap, ih no_colon.2]
    cases cutGap? rest <;> rfl

theorem cutGap?_colon {cs : List Char} (rest : List Char) (some_char : cs ≠ [])
    (no_colon : ':' ∉ cs) :
    cutGap? (':' :: (cs ++ rest)) =
      (cutGap? (cs ++ rest)).map fun cut => (':' :: cut.1, cut.2) := by
  cases cs with
  | nil => exact absurd rfl some_char
  | cons c cs =>
    simp only [List.mem_cons, not_or] at no_colon
    have no_gap : ∀ behind, ':' = ':' → c :: (cs ++ rest) = ':' :: behind → False :=
      fun _ _ same => no_colon.1 (List.cons.inj same).1.symm
    rw [List.cons_append, cutGap?.eq_2 _ _ no_gap]

/-- There is no gap between groups. -/
theorem cutGap?_groupsText_append (groups : List Nat) (rest : List Char) :
    cutGap? ((groupsText groups).toList ++ rest) =
      (cutGap? rest).map fun cut => ((groupsText groups).toList ++ cut.1, cut.2) := by
  rw [toList_groupsText]
  induction groups with
  | nil => simp
  | cons n more ih =>
    cases more with
    | nil => simpa using cutGap?_append_of_no_colon rest (colon_not_mem_toDigits n)
    | cons next more =>
      simp only [List.map_cons, joined_cons_cons, List.append_assoc, List.cons_append] at ih ⊢
      rw [cutGap?_append_of_no_colon _ (colon_not_mem_toDigits n)]
      obtain ⟨behind, whole⟩ :=
        joined_cons_prefix ':' (Nat.toDigits 16 next) (more.map (Nat.toDigits 16))
      rw [whole, List.append_assoc] at ih ⊢
      rw [cutGap?_colon _ Nat.toDigits_ne_nil (colon_not_mem_toDigits next), ih]
      cases cutGap? rest <;> simp

/-! #### The longest run of zero groups -/

/-- From a place on, some groups are zero. -/
def ZeroAt (groups : List Nat) (run : Nat × Nat) : Prop :=
  groups.take run.1 ++ List.replicate run.2 0 ++ groups.drop (run.1 + run.2) = groups

theorem replicate_zeroRun_append (groups : List Nat) :
    List.replicate (zeroRun groups) 0 ++ groups.drop (zeroRun groups) = groups := by
  induction groups with
  | nil => rfl
  | cons n groups ih =>
    by_cases zero : n = 0
    · subst zero
      exact congrArg (0 :: ·) ih
    · simp [zeroRun, zero]

theorem zeroAt_zeroRun (groups : List Nat) (start : Nat) :
    ZeroAt groups (start, zeroRun (groups.drop start)) := by
  rw [ZeroAt, ← List.drop_drop, List.append_assoc, replicate_zeroRun_append,
    List.take_append_drop]

theorem zeroAt_longestZeroRun (groups : List Nat) : ZeroAt groups (longestZeroRun groups) := by
  unfold longestZeroRun
  -- Every run that is ever the best one is a run of zero groups.
  have kept : ∀ (starts : List Nat) (best : Nat × Nat), ZeroAt groups best →
      ZeroAt groups (starts.foldl (fun best start =>
        let length := zeroRun (groups.drop start)
        if best.2 < length then (start, length) else best) best) := by
    intro starts
    induction starts with
    | nil => exact fun best zero => zero
    | cons start starts ih =>
      intro best zero
      rw [List.foldl_cons]
      apply ih
      dsimp only
      split
      · exact zeroAt_zeroRun groups start
      · exact zero
  exact kept _ _ (by simp [ZeroAt])

theorem length_groups (a : IPv6) : a.groups.length = 8 := Net.length_digitsOf ..

theorem group_lt {a : IPv6} {n : Nat} (mem : n ∈ a.groups) : n < 65536 :=
  Net.lt_of_mem_digitsOf (by decide) mem

theorem readBits?_groupsText {groups : List Nat} (eight : groups.length = 8)
    (small : ∀ n ∈ groups, n < 65536) : readBits? (groupsText groups).toList = some groups := by
  have no_gap : cutGap? (groupsText groups).toList = none := by
    simpa [cutGap?] using cutGap?_groupsText_append groups []
  have no_point : '.' ∉ (groupsText groups).toList := not_mem_groupsText (by decide) (by decide)
  rw [readBits?, no_gap]
  simp [readTail?_of_no_point no_point, readGroups?_groupsText small, eight]

theorem readBits?_gap {high low : List Nat} {count : Nat}
    (eight : high.length + count + low.length = 8) (two : 2 ≤ count)
    (small : ∀ n ∈ high ++ low, n < 65536) :
    readBits? (groupsText high ++ "::" ++ groupsText low).toList =
      some (high ++ List.replicate count 0 ++ low) := by
  have gap : cutGap? (groupsText high ++ "::" ++ groupsText low).toList =
      some ((groupsText high).toList, (groupsText low).toList) := by
    simpa [cutGap?] using cutGap?_groupsText_append high (':' :: ':' :: (groupsText low).toList)
  have no_point : '.' ∉ (groupsText low).toList := not_mem_groupsText (by decide) (by decide)
  have front : readGroups? (groupsText high).toList = some high :=
    readGroups?_groupsText fun n mem => small n (List.mem_append_left _ mem)
  have back : readGroups? (groupsText low).toList = some low :=
    readGroups?_groupsText fun n mem => small n (List.mem_append_right _ mem)
  have missing : 8 - high.length - low.length = count := by omega
  rw [readBits?, gap]
  simp only [readTail?_of_no_point no_point, front, back, missing, Option.bind_eq_bind,
    Option.bind_some]
  rw [if_pos (by omega)]

/-- The groups are written in full, or without a run of zero groups. -/
theorem bitsText_cases (a : IPv6) :
    a.bitsText = groupsText a.groups ∨
      ∃ high count low, 2 ≤ count ∧ high ++ List.replicate count 0 ++ low = a.groups ∧
        a.bitsText = groupsText high ++ "::" ++ groupsText low := by
  have zero := zeroAt_longestZeroRun a.groups
  unfold bitsText
  dsimp only
  split
  next => exact .inl rfl
  next two => exact .inr ⟨_, _, _, Nat.le_of_not_lt two, zero, rfl⟩

theorem readBits?_bitsText (a : IPv6) : readBits? a.bitsText.toList = some a.groups := by
  have small : ∀ n ∈ a.groups, n < 65536 := fun n => group_lt
  obtain same | ⟨high, count, low, two, whole, same⟩ := bitsText_cases a
  · rw [same]
    exact readBits?_groupsText a.length_groups small
  · have eight := congrArg List.length whole
    simp only [List.length_append, List.length_replicate, length_groups] at eight
    rw [same, readBits?_gap eight two (fun n mem => small n ?_), whole]
    rw [← whole]
    rcases List.mem_append.1 mem with front | back
    · exact List.mem_append_left _ (List.mem_append_left _ front)
    · exact List.mem_append_right _ back

theorem mem_bitsText {a : IPv6} {c : Char} (mem : c ∈ a.bitsText.toList) :
    c = ':' ∨ ∃ digit < 16, c = Nat.digitChar digit := by
  obtain same | ⟨high, count, low, -, -, same⟩ := bitsText_cases a
  · exact mem_groupsText (same ▸ mem)
  · rw [same] at mem
    simp only [String.toList_append, List.mem_append] at mem
    rcases mem with (front | gap) | back
    · exact mem_groupsText front
    · exact .inl (by simpa using gap)
    · exact mem_groupsText back

theorem colon_mem_bitsText (a : IPv6) : ':' ∈ a.bitsText.toList := by
  obtain same | ⟨high, count, low, -, -, same⟩ := bitsText_cases a
  · rw [same, toList_groupsText]
    simp [groups, Net.digitsOf, joined_cons_cons]
  · simp [same]

theorem not_mem_bitsText (a : IPv6) {c : Char} (colon : c ≠ ':')
    (digit : ∀ digit < 16, Nat.digitChar digit ≠ c) : c ∉ a.bitsText.toList := by
  intro mem
  rcases mem_bitsText mem with is_colon | ⟨d, small, rfl⟩
  · exact colon is_colon
  · exact digit d small rfl

/-- A scope that can be told from what stands around it. -/
def Legible (scope : Option String) : Prop :=
  ∀ s ∈ scope, s ≠ "" ∧ '%' ∉ s.toList ∧ '/' ∉ s.toList

theorem legible_of_read? {cs : List Char} {a : IPv6} (no_slash : '/' ∉ cs)
    (read : read? cs = some a) : Legible a.scope := by
  unfold read? at read
  split at read
  next =>
    obtain ⟨_, -, rfl⟩ := Option.map_eq_some_iff.1 read
    exact nofun
  next bits scope cut =>
    split at read
    next => cases read
    next sound =>
      obtain ⟨_, -, rfl⟩ := Option.map_eq_some_iff.1 read
      rw [← append_of_cut? cut] at no_slash
      rintro s ⟨⟩
      simp_all

theorem read?_text {a : IPv6} (legible : Legible a.scope) : read? a.text.toList = some a := by
  have no_percent : '%' ∉ a.bitsText.toList := a.not_mem_bitsText (by decide) (by decide)
  obtain ⟨bits, scope⟩ := a
  cases scope with
  | none =>
    simp only [read?, text, cut?_of_not_mem no_percent, readBits?_bitsText, Option.map_some,
      ofGroups_groups]
  | some scope =>
    obtain ⟨written, percent, -⟩ := legible scope rfl
    have cut : cut? '%' (bitsText ⟨bits, some scope⟩ ++ "%" ++ scope).toList =
        some ((bitsText ⟨bits, some scope⟩).toList, scope.toList) := by
      simpa using cut?_append scope.toList no_percent
    have sound : (scope.toList.isEmpty || scope.toList.contains '%') = false := by
      simp [written, percent]
    simp only [read?, text, cut, sound, readBits?_bitsText]
    simp [ofGroups_groups]

theorem slash_not_mem_text {a : IPv6} (legible : Legible a.scope) : '/' ∉ a.text.toList := by
  have bits : '/' ∉ a.bitsText.toList := a.not_mem_bitsText (by decide) (by decide)
  unfold text
  split
  next => exact bits
  next scope found => simp [bits, (legible scope found).2.2]

theorem colon_mem_text (a : IPv6) : ':' ∈ a.text.toList := by
  unfold text
  split
  next => exact a.colon_mem_bitsText
  next => simp [a.colon_mem_bitsText]

end IPv6

/-! ### Either version -/

namespace IPAddress

def Legible : IPAddress → Prop
  | v4 _ => True
  | v6 a => IPv6.Legible a.scope

theorem legible_of_read? {cs : List Char} {a : IPAddress} (no_slash : '/' ∉ cs)
    (read : read? cs = some a) : a.Legible := by
  unfold read? at read
  cases v4 : IPv4.read? cs with
  | some b =>
    rw [v4] at read
    cases read
    trivial
  | none =>
    rw [v4] at read
    obtain ⟨b, found, rfl⟩ := Option.map_eq_some_iff.1 read
    exact IPv6.legible_of_read? no_slash found

theorem legible_unscoped (a : IPAddress) : a.unscoped.Legible := by
  cases a with
  | v4 a => trivial
  | v6 a => exact nofun

theorem read?_text {a : IPAddress} (legible : a.Legible) : read? a.text.toList = some a := by
  cases a with
  | v4 a => simp [read?, text, IPv4.read?_text]
  | v6 a => simp [read?, text, IPv4.read?_of_colon a.colon_mem_text, IPv6.read?_text legible]

theorem slash_not_mem_text {a : IPAddress} (legible : a.Legible) : '/' ∉ a.text.toList := by
  cases a with
  | v4 a =>
    intro mem
    rcases IPv4.mem_text mem with point | digit
    · exact absurd point (by decide)
    · exact absurd digit (by decide)
  | v6 a => exact IPv6.slash_not_mem_text legible

theorem text_ne_empty (a : IPAddress) : a.text ≠ "" := by
  cases a with
  | v4 a =>
    intro empty
    have read := IPv4.read?_text a
    rw [show a.text = "" from empty] at read
    cases read
  | v6 a =>
    intro empty
    have colon := a.colon_mem_text
    rw [show a.text = "" from empty] at colon
    cases colon

end IPAddress
end NodeDataplane
