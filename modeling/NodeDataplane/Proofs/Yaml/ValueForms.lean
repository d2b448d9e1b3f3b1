import Mathlib.Data.List.TakeWhile
import NodeDataplane.Document.Yaml.Plain

/-!
# The forms of values

A plain scalar is read as a number, a truth value or a date by its form alone. All these forms are
made of few characters, so a text with any other one means itself. A float has one point, and a date
has dashes; what is neither, and has marks between its digits, can still be an integer in base 60.

## Main results

- `plainValue_of_isForeign`: a text with a character that is part of no form means itself.
- `plainValue_of_marked`: a text with points or colons, but without a dash, is an integer or means
  itself, unless it has exactly one point.
- `isSome_integer?_joined`: which digits between colons are an integer in base 60.

## Proof strategy

For each form, what is read is put in front of the rest again (`splitSpaced?`, `readDigits?` and so
on), so the characters of a scalar are those of its parts.
-/

namespace NodeDataplane.Yaml

open NodeDataplane.Text

/-- A character that words, integers and dates are written with. -/
def isValueChar (c : Char) : Bool := c.isAlphanum || c == '_' || c == '+' || c == '-' || c == ':'

/-- A text of such characters that has one point in it. -/
def IsPointed (cs : List Char) : Prop :=
  ∃ before behind, cs = before ++ '.' :: behind ∧
    (∀ c ∈ before, isValueChar c = true) ∧ ∀ c ∈ behind, isValueChar c = true

theorem valueChar_of_isDigit {c : Char} (digit : c.isDigit = true) : isValueChar c = true := by
  simp [isValueChar, Char.isAlphanum, digit]

theorem valueChar_of_spacedDigit {c : Char} (spaced : isSpacedDigit c = true) :
    isValueChar c = true := by
  rcases Bool.or_eq_true_iff.1 spaced with digit | space
  · exact valueChar_of_isDigit digit
  · simp [isValueChar, beq_iff_eq.1 space]

theorem valueChar_of_hexValue? {c : Char} (hex : (hexValue? c).isSome = true) :
    isValueChar c = true := by
  by_cases digit : c.isDigit = true
  · exact valueChar_of_isDigit digit
  · have small : c.toNat < 128 := by
      simp only [hexValue?, digit] at hex
      grind
    have all : ∀ n < 128, (hexValue? (Char.ofNat n)).isSome = true →
        isValueChar (Char.ofNat n) = true := by decide +kernel
    have here := all c.toNat small
    rw [Char.ofNat_toNat] at here
    exact here hex

namespace IsPointed

theorem append {front cs : List Char} (letters : ∀ c ∈ front, isValueChar c = true)
    (pointed : IsPointed cs) : IsPointed (front ++ cs) := by
  obtain ⟨before, behind, rfl, first, second⟩ := pointed
  refine ⟨front ++ before, behind, (List.append_assoc ..).symm, ?_, second⟩
  exact List.forall_mem_append.2 ⟨letters, first⟩

theorem count_eq {cs : List Char} (pointed : IsPointed cs) : cs.count '.' = 1 := by
  have none {part : List Char} (letters : ∀ c ∈ part, isValueChar c = true) :
      part.count '.' = 0 :=
    List.count_eq_zero.2 fun point => absurd (letters _ point) (by decide)
  obtain ⟨before, behind, rfl, first, second⟩ := pointed
  rw [List.count_append, List.count_cons_self, none first, none second]

theorem mem {cs : List Char} (pointed : IsPointed cs) :
    ∀ c ∈ cs, isValueChar c = true ∨ c = '.' := by
  obtain ⟨before, behind, rfl, first, second⟩ := pointed
  intro c mem
  rcases List.mem_append.1 mem with front | back
  · exact .inl (first c front)
  · rcases List.mem_cons.1 back with point | back
    · exact .inr point
    · exact .inl (second c back)

end IsPointed

/-! ### Parts of numbers -/

theorem exists_splitSpaced? {cs digits rest : List Char}
    (split : splitSpaced? cs = some (digits, rest)) :
    ∃ front, cs = front ++ rest ∧ ∀ c ∈ front, isValueChar c = true := by
  unfold splitSpaced? at split
  split at split
  · cases split
    refine ⟨_, List.takeWhile_append_dropWhile.symm, fun c mem => ?_⟩
    exact valueChar_of_spacedDigit (List.all_eq_true.1 List.all_takeWhile c mem)
  · cases split

theorem exists_splitSign (cs : List Char) :
    ∃ sign, cs = sign ++ (splitSign cs).2 ∧ ∀ c ∈ sign, isValueChar c = true := by
  unfold splitSign
  split
  · exact ⟨['-'], rfl, List.forall_mem_singleton.2 (by decide)⟩
  · exact ⟨['+'], rfl, List.forall_mem_singleton.2 (by decide)⟩
  · exact ⟨[], rfl, nofun⟩

theorem valueChar_of_floatExponent? {cs : List Char} {e : Int}
    (read : floatExponent? cs = some e) : ∀ c ∈ cs, isValueChar c = true := by
  unfold floatExponent? at read
  split at read
  · simp
  next letter sign digits =>
    split at read
    next form =>
      simp only [Bool.and_eq_true, Bool.or_eq_true, beq_iff_eq, List.all_eq_true] at form
      obtain ⟨⟨⟨first, second⟩, -⟩, all⟩ := form
      refine List.forall_mem_cons.2 ⟨?_, List.forall_mem_cons.2 ⟨?_, fun c mem => ?_⟩⟩
      · rcases first with rfl | rfl <;> decide
      · rcases second with rfl | rfl <;> decide
      · exact valueChar_of_isDigit (all c mem)
    · cases read
  · cases read

theorem valueChar_of_places {cs : List Char} (places : (fields ':' cs).all isPlace = true) :
    ∀ c ∈ cs, isValueChar c = true := by
  intro c mem
  by_cases colon : c = ':'
  · subst colon
    decide
  · rw [← joined_fields ':' cs] at mem
    obtain ⟨piece, place, inside⟩ := (mem_joined_iff colon).1 mem
    have digits := List.all_eq_true.1 places piece place
    simp only [isPlace, Bool.and_eq_true, List.all_eq_true] at digits
    exact valueChar_of_isDigit (digits.1 c inside)

/-! ### Numbers -/

theorem isPointed_of_sexagesimalFloat? {whole rest : List Char} {x : Except DocumentFault Float}
    (read : sexagesimalFloat? whole rest = some x) : IsPointed rest := by
  unfold sexagesimalFloat? at read
  obtain ⟨⟨places, fraction⟩, cut, read⟩ := Option.bind_eq_some_iff.1 read
  dsimp only at read
  split at read
  next form =>
    simp only [Bool.and_eq_true, List.all_eq_true] at form
    refine ⟨places, fraction, (append_of_cut? cut).symm, ?_, fun c mem => ?_⟩
    · exact valueChar_of_places (List.all_eq_true.2 form.1)
    · exact valueChar_of_spacedDigit (form.2 c mem)
  · cases read

theorem isPointed_of_unsignedFloat? {signed : Bool} {cs : List Char}
    {x : Except DocumentFault Float} (read : unsignedFloat? signed cs = some x) :
    IsPointed cs := by
  unfold unsignedFloat? at read
  split at read
  next whole rest split =>
    obtain ⟨front, rfl, letters⟩ := exists_splitSpaced? split
    obtain ⟨exponent, power, -⟩ := Option.bind_eq_some_iff.1 read
    refine ⟨front, rest, rfl, letters, fun c mem => ?_⟩
    rw [← List.takeWhile_append_dropWhile (p := isSpacedDigit) (l := rest)] at mem
    rcases List.mem_append.1 mem with fraction | behind
    · exact valueChar_of_spacedDigit (List.all_eq_true.1 List.all_takeWhile c fraction)
    · exact valueChar_of_floatExponent? power c behind
  next whole rest split =>
    obtain ⟨front, rfl, letters⟩ := exists_splitSpaced? split
    have pointed := isPointed_of_sexagesimalFloat? read
    have colon : ∀ c ∈ front ++ [':'], isValueChar c = true :=
      List.forall_mem_append.2 ⟨letters, List.forall_mem_singleton.2 (by decide)⟩
    simpa using pointed.append colon
  · cases read
  · split at read
    next rest =>
      split at read
      · cases read
      · obtain ⟨⟨fraction, behind⟩, split, read⟩ := Option.bind_eq_some_iff.1 read
        obtain ⟨exponent, power, -⟩ := Option.bind_eq_some_iff.1 read
        obtain ⟨front, rfl, letters⟩ := exists_splitSpaced? split
        exact ⟨[], _, rfl, by simp, List.forall_mem_append.2
          ⟨letters, valueChar_of_floatExponent? power⟩⟩
    · cases read

theorem isPointed_of_word {word : List Char}
    (letters : word.all isValueChar = true) : IsPointed ('.' :: word) :=
  ⟨[], word, rfl, nofun, List.all_eq_true.1 letters⟩

theorem isPointed_of_float? {s : String} {x : Except DocumentFault Float}
    (read : float? s = some x) : IsPointed s.toList := by
  obtain ⟨sign, signed, letters⟩ := exists_splitSign s.toList
  have words : ∀ word ∈ [".inf", ".Inf", ".INF", ".nan", ".NaN", ".NAN"],
      IsPointed word.toList := by
    simp only [List.forall_mem_cons]
    exact ⟨isPointed_of_word (by decide), isPointed_of_word (by decide),
      isPointed_of_word (by decide), isPointed_of_word (by decide),
      isPointed_of_word (by decide), isPointed_of_word (by decide), nofun⟩
  unfold float? at read
  dsimp only at read
  split at read
  next word =>
    have infinite := words _ (List.mem_append_left [".nan", ".NaN", ".NAN"]
      (List.contains_iff_mem.1 word))
    rw [String.toList_ofList] at infinite
    rw [signed]
    exact infinite.append letters
  · split at read
    next word =>
      exact words s (List.mem_append_right [".inf", ".Inf", ".INF"] (List.contains_iff_mem.1 word))
    · obtain ⟨_, unsigned, -⟩ := Option.map_eq_some_iff.1 read
      rw [signed]
      exact (isPointed_of_unsignedFloat? unsigned).append letters

theorem valueChar_of_octal {c : Char} (low : '0' ≤ c) (high : c ≤ '7') : isValueChar c = true := by
  have digit : c.isDigit = true := by
    rw [Char.isDigit, Bool.and_eq_true, decide_eq_true_eq, decide_eq_true_eq]
    exact ⟨low, UInt32.le_trans high (by decide)⟩
  exact valueChar_of_isDigit digit

theorem valueChar_of_unsignedInteger? {cs : List Char} {n : Except DocumentFault Int}
    (read : unsignedInteger? cs = some n) : ∀ c ∈ cs, isValueChar c = true := by
  unfold unsignedInteger? at read
  split at read
  · exact List.forall_mem_singleton.2 (by decide)
  next digits =>
    split at read
    next form =>
      simp only [Bool.and_eq_true, List.all_eq_true, Bool.or_eq_true, beq_iff_eq] at form
      refine List.forall_mem_cons.2 ⟨by decide, List.forall_mem_cons.2 ⟨by decide, ?_⟩⟩
      intro c mem
      rcases form.2 c mem with (rfl | rfl) | rfl <;> decide
    · cases read
  next digits =>
    split at read
    next form =>
      simp only [Bool.and_eq_true, List.all_eq_true, Bool.or_eq_true, beq_iff_eq] at form
      refine List.forall_mem_cons.2 ⟨by decide, List.forall_mem_cons.2 ⟨by decide, ?_⟩⟩
      intro c mem
      rcases form.2 c mem with hex | rfl
      · exact valueChar_of_hexValue? hex
      · decide
    · cases read
  next digits _ _ _ =>
    split at read
    next form =>
      simp only [List.all_eq_true, Bool.or_eq_true, Bool.and_eq_true, decide_eq_true_eq,
        beq_iff_eq] at form
      refine List.forall_mem_cons.2 ⟨by decide, fun c mem => ?_⟩
      rcases form c mem with ⟨low, high⟩ | rfl
      · exact valueChar_of_octal low high
      · decide
    · cases read
  · split at read
    next digits split =>
      obtain ⟨front, rfl, letters⟩ := exists_splitSpaced? split
      simpa using letters
    next digits rest split =>
      -- Behind the first digits there are places in base 60.
      split at read
      next places =>
        obtain ⟨front, rfl, letters⟩ := exists_splitSpaced? split
        exact List.forall_mem_append.2 ⟨letters, List.forall_mem_cons.2
          ⟨by decide, valueChar_of_places places⟩⟩
      · cases read
    · cases read

theorem valueChar_of_integer? {s : String} {n : Except DocumentFault Int}
    (read : integer? s = some n) : ∀ c ∈ s.toList, isValueChar c = true := by
  obtain ⟨sign, signed, letters⟩ := exists_splitSign s.toList
  obtain ⟨_, unsigned, -⟩ := Option.map_eq_some_iff.1 read
  rw [signed]
  exact List.forall_mem_append.2 ⟨letters, valueChar_of_unsignedInteger? unsigned⟩

/-! ### Integers in base 60 -/

theorem unsignedInteger?_of_zero {cs : List Char} (colon : ':' ∈ cs) :
    unsignedInteger? ('0' :: cs) = none := by
  have behind {c : Char} {digits : List Char} (same : cs = c :: digits) (other : c ≠ ':') :
      ':' ∈ digits := by
    rw [same] at colon
    exact (List.mem_cons.1 colon).resolve_left (Ne.symm other)
  have foreign {p : Char → Bool} {digits : List Char} (mem : ':' ∈ digits) (other : p ':' = false) :
      digits.all p = false :=
    List.all_eq_false.2 ⟨':', mem, Bool.eq_false_iff.1 other⟩
  -- The forms with a zero in front are made of digits and underscores throughout.
  unfold unsignedInteger?
  split
  next same => simp_all
  next digits same =>
    have mem := behind (List.cons.inj same).2 (by decide)
    simp [foreign mem]
  next digits same =>
    have mem := behind (List.cons.inj same).2 (by decide)
    rw [foreign mem (by decide), Bool.and_false]
    rfl
  next digits _ _ _ same =>
    rw [← (List.cons.inj same).2, foreign colon (by decide)]
    rfl
  next no_zero => exact (no_zero cs rfl).elim

theorem unsignedInteger?_of_ne_zero {cs : List Char} (no_zero : cs.head? ≠ some '0') :
    unsignedInteger? cs = match splitSpaced? cs with
      | some (digits, []) => some (integerOfDigits digits)
      | some (digits, ':' :: rest) =>
        if (fields ':' rest).all isPlace then
          some (sexagesimalInteger (digits :: fields ':' rest))
        else none
      | _ => none := by
  unfold unsignedInteger?
  split
  case h_5 => rfl
  all_goals simp at no_zero

theorem spacedDigit_eq_of_hex {c : Char} (hex : (hexValue? c).isSome = true) :
    isSpacedDigit c = c.isDigit := by
  have letter : c ≠ '_' := by
    rintro rfl
    exact absurd hex (by decide)
  simp [isSpacedDigit, letter]

/-- Decimal digits are cut off up to the colon. -/
theorem splitSpaced?_of_digits {c : Char} {more : List Char}
    (digits : ∀ d ∈ c :: more, (hexValue? d).isSome = true)
    (decimal : (c :: more).all Char.isDigit = true) (rest : List Char) :
    ∃ number, splitSpaced? (c :: more ++ ':' :: rest) = some (number, ':' :: rest) := by
  have all := List.all_eq_true.1 decimal
  have spaced : ∀ d ∈ c :: more, isSpacedDigit d = true := fun d mem =>
    (spacedDigit_eq_of_hex (digits d mem)).trans (all d mem)
  have stop : (':' :: rest).dropWhile isSpacedDigit = ':' :: rest := rfl
  refine ⟨unspaced ((c :: more ++ ':' :: rest).takeWhile isSpacedDigit), ?_⟩
  rw [splitSpaced?, List.dropWhile_append_of_pos spaced, stop,
    if_pos (by simpa using all c List.mem_cons_self)]

/-- In front of the colon, digits are left that are not decimal. -/
theorem ne_colon_of_splitSpaced? {first : List Char}
    (digits : ∀ c ∈ first, (hexValue? c).isSome = true)
    (other : first.all Char.isDigit = false) {rest number behind : List Char}
    (split : splitSpaced? (first ++ ':' :: rest) = some (number, behind)) :
    ∃ c left, behind = c :: left ∧ c ≠ ':' := by
  obtain ⟨d, mem, letter⟩ := List.all_eq_false.1 other
  cases left : first.dropWhile isSpacedDigit with
  | nil =>
    have spaced := List.dropWhile_eq_nil_iff.1 left d mem
    exact absurd ((spacedDigit_eq_of_hex (digits d mem)).symm.trans spaced) letter
  | cons c more =>
    have hex : (hexValue? c).isSome = true :=
      digits c ((List.dropWhile_suffix _).subset (left ▸ List.mem_cons_self))
    unfold splitSpaced? at split
    split at split
    · cases split
      refine ⟨c, more ++ ':' :: rest, ?_, ?_⟩
      · rw [List.dropWhile_append, left]
        rfl
      · rintro rfl
        exact absurd hex (by decide)
    · cases split

/-- Groups of digits between colons are an integer in base 60 if they are decimal, the first one
has no zero in front, and the others are small. -/
theorem isSome_unsignedInteger?_append {first rest : List Char}
    (digits : ∀ c ∈ first, (hexValue? c).isSome = true) :
    (unsignedInteger? (first ++ ':' :: rest)).isSome =
      (first.all Char.isDigit && first.head?.any (· != '0') && (fields ':' rest).all isPlace) := by
  cases first with
  | nil => rfl
  | cons c more =>
    by_cases zero : c = '0'
    · subst zero
      rw [List.cons_append, unsignedInteger?_of_zero (by simp)]
      simp
    · rw [unsignedInteger?_of_ne_zero (by simpa using zero)]
      cases decimal : (c :: more).all Char.isDigit with
      | true =>
        obtain ⟨number, cut⟩ := splitSpaced?_of_digits digits decimal rest
        simp only [cut]
        cases places : (fields ':' rest).all isPlace <;> simp [zero]
      | false =>
        -- Neither the end nor a colon stands behind the decimal digits.
        split
        next number cut =>
          obtain ⟨d, left, same, -⟩ := ne_colon_of_splitSpaced? digits decimal cut
          cases same
        next number behind cut =>
          obtain ⟨d, left, same, other⟩ := ne_colon_of_splitSpaced? digits decimal cut
          cases same
          exact absurd rfl other
        next => rfl

theorem isSome_integer?_joined {first : List Char} {rest : List (List Char)}
    (digits : ∀ piece ∈ first :: rest, ∀ c ∈ piece, (hexValue? c).isSome = true)
    (several : rest ≠ []) :
    (integer? (String.ofList (joined ':' (first :: rest)))).isSome =
      (first.all Char.isDigit && first.head?.any (· != '0') && rest.all isPlace) := by
  simp only [List.forall_mem_cons] at digits
  have apart : ∀ piece ∈ rest, ':' ∉ piece := fun piece mem colon =>
    absurd (digits.2 piece mem _ colon) (by decide)
  have whole : joined ':' (first :: rest) = first ++ ':' :: joined ':' rest := by
    cases rest with
    | nil => exact absurd rfl several
    | cons next more => exact joined_cons_cons ..
  have unsigned : splitSign (first ++ ':' :: joined ':' rest) =
      (false, first ++ ':' :: joined ':' rest) := by
    cases first with
    | nil => rfl
    | cons c more =>
      have hex := digits.1 c List.mem_cons_self
      unfold splitSign
      split
      next same =>
        cases same
        exact absurd hex (by decide)
      next same =>
        cases same
        exact absurd hex (by decide)
      next => rfl
  rw [integer?, String.toList_ofList, whole, unsigned]
  simp only [Option.isSome_map]
  rw [isSome_unsignedInteger?_append digits.1, fields_joined several apart]

/-! ### Dates and times -/

theorem exists_readDigits? {least most n : Nat} {cs rest : List Char}
    (read : readDigits? least most cs = some (n, rest)) :
    ∃ front, cs = front ++ rest ∧ ∀ c ∈ front, isValueChar c = true := by
  unfold readDigits? at read
  dsimp only at read
  split at read
  · cases read
  · cases read
    have front : (cs.takeWhile Char.isDigit).take most <+: cs :=
      (List.take_prefix ..).trans (List.takeWhile_prefix _)
    refine ⟨_, (List.prefix_iff_eq_append.1 front).symm, fun c mem => ?_⟩
    exact valueChar_of_isDigit (List.all_eq_true.1 List.all_takeWhile c (List.mem_of_mem_take mem))

theorem eq_cons_of_behind? {c : Char} {cs rest : List Char} (read : behind? c cs = some rest) :
    cs = c :: rest := by
  unfold behind? at read
  grind

theorem exists_readDay? {least : Nat} {cs rest : List Char} {day : Nat × Nat × Nat}
    (read : readDay? least cs = some (day, rest)) :
    ∃ front, cs = front ++ rest ∧ '-' ∈ front ∧ ∀ c ∈ front, isValueChar c = true := by
  simp only [readDay?, bind, Option.bind_eq_some_iff, Prod.exists] at read
  obtain ⟨_, _, year, _, dash, _, _, month, _, dash', _, _, day, same⟩ := read
  cases same
  obtain ⟨first, rfl, digits⟩ := exists_readDigits? year
  obtain rfl := eq_cons_of_behind? dash
  obtain ⟨second, rfl, digits'⟩ := exists_readDigits? month
  obtain rfl := eq_cons_of_behind? dash'
  obtain ⟨third, rfl, digits''⟩ := exists_readDigits? day
  refine ⟨first ++ '-' :: (second ++ '-' :: third), by simp, by simp, ?_⟩
  have dash : isValueChar '-' = true := by decide
  simp only [List.forall_mem_append, List.forall_mem_cons]
  exact ⟨digits, dash, digits', dash, digits''⟩

/-- A character of a date with a time: its numbers may have points and blanks between them. -/
def isTimeChar (c : Char) : Bool := isValueChar c || c == '.' || isTimeSpace c

theorem timeChar_of_valueChar {c : Char} (value : isValueChar c = true) : isTimeChar c = true := by
  simp [isTimeChar, value]

theorem timeChar_of_dropWhile {p : Char → Bool} {cs : List Char}
    (dropped : ∀ c, p c = true → isTimeChar c = true)
    (rest : ∀ c ∈ cs.dropWhile p, isTimeChar c = true) : ∀ c ∈ cs, isTimeChar c = true := by
  rw [← List.takeWhile_append_dropWhile (p := p) (l := cs)]
  exact List.forall_mem_append.2
    ⟨fun c mem => dropped c (List.all_eq_true.1 List.all_takeWhile c mem), rest⟩

theorem timeChar_of_behindDay? {cs rest : List Char} (read : behindDay? cs = some rest)
    (letters : ∀ c ∈ rest, isTimeChar c = true) : ∀ c ∈ cs, isTimeChar c = true := by
  unfold behindDay? at read
  split at read
  next c behind =>
    split at read
    next letter =>
      simp only [Bool.or_eq_true, beq_iff_eq] at letter
      cases read
      refine List.forall_mem_cons.2 ⟨?_, letters⟩
      rcases letter with rfl | rfl <;> decide
    · split at read
      next space =>
        have blank (c : Char) (space : isTimeSpace c = true) : isTimeChar c = true := by
          simp [isTimeChar, space]
        cases read
        exact List.forall_mem_cons.2 ⟨blank c space, timeChar_of_dropWhile blank letters⟩
      · cases read
  · cases read

theorem valueChar_of_readOffset? {cs : List Char} {offset : Option Int}
    (read : readOffset? cs = some offset) : ∀ c ∈ cs, isValueChar c = true := by
  unfold readOffset? at read
  split at read
  · nofun
  · exact List.forall_mem_singleton.2 (by decide)
  next sign rest _ =>
    split at read
    next signed =>
      simp only [Bool.or_eq_true, beq_iff_eq] at signed
      simp only [bind, Option.bind_eq_some_iff, Prod.exists] at read
      obtain ⟨_, behind, hours, read⟩ := read
      obtain ⟨front, rfl, digits⟩ := exists_readDigits? hours
      refine List.forall_mem_cons.2 ⟨?_, List.forall_mem_append.2 ⟨digits, ?_⟩⟩
      · rcases signed with rfl | rfl <;> decide
      · split at read
        · nofun
        · obtain ⟨⟨_, last⟩, minutes, ends⟩ := Option.bind_eq_some_iff.1 read
          obtain ⟨front, rfl, digits⟩ := exists_readDigits? minutes
          have nothing : last = [] := by
            cases last with
            | nil => rfl
            | cons => simp at ends
          rw [nothing, List.append_nil]
          exact List.forall_mem_cons.2 ⟨by decide, digits⟩
        · cases read
    · cases read

theorem timeChar_of_timestamp? {cs : List Char} {d : Except DocumentFault Document}
    (read : timestamp? cs = some d) : '-' ∈ cs ∧ ∀ c ∈ cs, isTimeChar c = true := by
  simp only [timestamp?, bind, Option.bind_eq_some_iff, Prod.exists] at read
  obtain ⟨_, _, _, _, day, _, time, _, _, hour, _, colon, _, _, minute, _, colon', _, behind,
    second, _, offset, -⟩ := read
  obtain ⟨front, rfl, dash, date⟩ := exists_readDay? day
  obtain ⟨hours, rfl, digits⟩ := exists_readDigits? hour
  obtain rfl := eq_cons_of_behind? colon
  obtain ⟨minutes, rfl, digits'⟩ := exists_readDigits? minute
  obtain rfl := eq_cons_of_behind? colon'
  obtain ⟨seconds, rfl, digits''⟩ := exists_readDigits? second
  have blank (c : Char) (space : isTimeSpace c = true) : isTimeChar c = true := by
    simp [isTimeChar, space]
  have last := timeChar_of_dropWhile blank fun c mem =>
    timeChar_of_valueChar (valueChar_of_readOffset? offset c mem)
  have fraction : ∀ c ∈ behind, isTimeChar c = true := by
    split at last
    next rest =>
      refine List.forall_mem_cons.2 ⟨by decide, timeChar_of_dropWhile (fun c digit => ?_) last⟩
      exact timeChar_of_valueChar (valueChar_of_isDigit digit)
    · exact last
  have value {part : List Char} (letters : ∀ c ∈ part, isValueChar c = true) :
      ∀ c ∈ part, isTimeChar c = true := fun c mem => timeChar_of_valueChar (letters c mem)
  have colon : isTimeChar ':' = true := by decide
  refine ⟨List.mem_append_left _ dash, List.forall_mem_append.2
    ⟨value date, timeChar_of_behindDay? time ?_⟩⟩
  simp only [List.forall_mem_append, List.forall_mem_cons]
  exact ⟨value digits, colon, value digits', colon, value digits'', fraction⟩

theorem valueChar_of_date? {least : Nat} {cs : List Char} {d : Except DocumentFault Document}
    (read : date? least cs = some d) : '-' ∈ cs ∧ ∀ c ∈ cs, isValueChar c = true := by
  simp only [date?, bind, Option.bind_eq_some_iff, Prod.exists] at read
  obtain ⟨_, _, _, rest, day, ends⟩ := read
  obtain ⟨front, rfl, dash, date⟩ := exists_readDay? day
  have nothing : rest = [] := by
    split at ends
    · cases ends
    next more => simpa using more
  rw [nothing, List.append_nil]
  exact ⟨dash, date⟩

/-! ### Words -/

theorem isAlpha_of_truthValue? {s : String} {b : Bool} (read : truthValue? s = some b) :
    ∀ c ∈ s.toList, c.isAlpha = true := by
  have words : (truthWords.all fun entry => (wordForms entry.1).all (·.toList.all Char.isAlpha)) =
      true := by decide +kernel
  obtain ⟨entry, found, -⟩ := Option.map_eq_some_iff.1 read
  have forms := List.all_eq_true.1 words entry (List.mem_of_find?_eq_some found)
  exact List.all_eq_true.1 (List.all_eq_true.1 forms s
    (List.contains_iff_mem.1 (by simpa using List.find?_some found)))

theorem isAlpha_of_isNull {s : String} (null : isNull s = true) (other : s ≠ "~") :
    ∀ c ∈ s.toList, c.isAlpha = true := by
  have words : (wordForms "null").all (·.toList.all Char.isAlpha) = true := by decide +kernel
  simp only [isNull, Bool.or_eq_true, beq_iff_eq, other, or_false] at null
  rcases null with rfl | word
  · simp
  · exact List.all_eq_true.1 (List.all_eq_true.1 words s (List.contains_iff_mem.1 word))

/-! ### All plain scalars -/

/-- A text in no other form is an integer, or means itself. -/
theorem plainValue_eq_integer? {s : String} (truth : truthValue? s = none)
    (float : float? s = none) (null : isNull s = false) (date : date? 2 s.toList = none)
    (time : timestamp? s.toList = none) (other : s ≠ "=" ∧ s ≠ "<<") :
    plainValue s = match integer? s with
      | some n => n.map .int
      | none => .ok (.string s) := by
  unfold plainValue
  rw [truth, float, null, date, time]
  cases integer? s with
  | some n => rfl
  | none => simp [other]

/-- A text that has points or colons and no dash is an integer or means itself. -/
theorem plainValue_of_marked {s : String} (marked : '.' ∈ s.toList ∨ ':' ∈ s.toList)
    (no_dash : '-' ∉ s.toList) (no_float : ¬ IsPointed s.toList) :
    plainValue s = match integer? s with
      | some n => n.map .int
      | none => .ok (.string s) := by
  have no_word : ¬ ∀ c ∈ s.toList, c.isAlpha = true := by
    intro letters
    rcases marked with point | colon
    · exact absurd (letters _ point) (by decide)
    · exact absurd (letters _ colon) (by decide)
  have other {t : String} (plain : '.' ∉ t.toList ∧ ':' ∉ t.toList) : s ≠ t := by
    rintro rfl
    exact marked.elim plain.1 plain.2
  apply plainValue_eq_integer?
  case truth =>
    exact Option.eq_none_iff_forall_ne_some.2 fun b read => no_word (isAlpha_of_truthValue? read)
  case float =>
    exact Option.eq_none_iff_forall_ne_some.2 fun x read => no_float (isPointed_of_float? read)
  case null =>
    exact Bool.eq_false_iff.2 fun null => no_word (isAlpha_of_isNull null (other (by decide)))
  case date =>
    exact Option.eq_none_iff_forall_ne_some.2 fun d read => no_dash (valueChar_of_date? read).1
  case time =>
    exact Option.eq_none_iff_forall_ne_some.2 fun d read => no_dash (timeChar_of_timestamp? read).1
  case other => exact ⟨other (by decide), other (by decide)⟩

/-- A text with a character that is part of no form, and that is no mark on its own. -/
def IsForeign (s : String) : Prop :=
  (∃ c ∈ s.toList, isTimeChar c = false) ∧ s ≠ "~" ∧ s ≠ "=" ∧ s ≠ "<<"

theorem plainValue_of_isForeign {s : String} (foreign : IsForeign s) :
    integer? s = none ∧ plainValue s = .ok (.string s) := by
  obtain ⟨⟨c, mem, foreign⟩, other⟩ := foreign
  have no_value : ¬ isValueChar c = true ∧ c ≠ '.' := by
    simp only [isTimeChar, Bool.or_eq_false_iff, beq_eq_false_iff_ne] at foreign
    exact ⟨Bool.eq_false_iff.1 foreign.1.1, foreign.1.2⟩
  have no_word : ¬ ∀ c ∈ s.toList, c.isAlpha = true := by
    intro letters
    simp [isValueChar, Char.isAlphanum, letters c mem] at no_value
  have integer : integer? s = none := Option.eq_none_iff_forall_ne_some.2 fun n read =>
    no_value.1 (valueChar_of_integer? read c mem)
  refine ⟨integer, ?_⟩
  rw [plainValue_eq_integer?, integer]
  case truth =>
    exact Option.eq_none_iff_forall_ne_some.2 fun b read => no_word (isAlpha_of_truthValue? read)
  case float =>
    exact Option.eq_none_iff_forall_ne_some.2 fun x read =>
      ((isPointed_of_float? read).mem c mem).elim no_value.1 no_value.2
  case null => exact Bool.eq_false_iff.2 fun null => no_word (isAlpha_of_isNull null other.1)
  case date =>
    exact Option.eq_none_iff_forall_ne_some.2 fun d read =>
      no_value.1 ((valueChar_of_date? read).2 c mem)
  case time =>
    exact Option.eq_none_iff_forall_ne_some.2 fun d read =>
      Bool.eq_false_iff.1 foreign ((timeChar_of_timestamp? read).2 c mem)
  case other => exact other.2

end NodeDataplane.Yaml
