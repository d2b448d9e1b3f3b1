import NodeDataplane.Document.Yaml.Token

/-!
# Plain scalars on one line

Most texts can be written in a YAML text as they are, on one line and without quotes. This is told
by their characters alone: what they start with means nothing else, no colon stands at the end of a
word, and no comment starts behind a space.

## Main results

- `readPlain_line`: such a text is read as it is written, up to the next line, unless that line is
  indented as part of the scalar.
- `readPlain_key`: a word is read up to the colon behind it.

## Proof strategy

A text is read in runs without spaces. Its first word is one run, and what stands behind the gap is
again such a text, so the proof is by induction on the length of the text.
-/

namespace NodeDataplane.Yaml

/-! ### Texts that are plain scalars -/

/-- A character that a plain scalar on one line may hold. -/
def isLineChar (c : Char) : Bool := isAllowed c && !isBreak c && c != '\t' && c != '\ufeff'

/-- Whether characters go on with a plain scalar: a colon has something behind it that is no space,
and a space something that starts no comment. -/
def goesOn : List Char → Bool
  | [] => true
  | c :: rest =>
    isLineChar c && (c != ':' || rest.head?.any (· != ' ')) &&
      (c != ' ' || rest.head?.any (· != '#')) && goesOn rest

/-- Whether a text can stand on a line as a plain scalar: what it starts with means nothing else. -/
def isPlain (cs : List Char) : Bool :=
  goesOn cs &&
    match cs with
    | [] => false
    | c :: rest =>
      c != ' ' && (!Scanner.isIndicator c ||
        ((c == '-' || c == '?' || c == ':') && rest.head?.any (· != ' ')))

theorem goesOn_cons {c : Char} {rest : List Char} :
    goesOn (c :: rest) = true ↔ isLineChar c = true ∧
      (c = ':' → ∃ d more, rest = d :: more ∧ d ≠ ' ') ∧
      (c = ' ' → ∃ d more, rest = d :: more ∧ d ≠ '#') ∧ goesOn rest = true := by
  cases rest with
  | nil => simp [goesOn]; grind
  | cons d more => simp [goesOn]; grind

theorem isBlankOrEnd_of_lineChar {c : Char} (line : isLineChar c = true) (space : c ≠ ' ') :
    isBlankOrEnd (some c) = false := by
  simp_all [isLineChar, isBlankOrEnd]

namespace Cursor

/-- Characters of a line are skipped one column each. -/
theorem skip_line {cs : List Char} (line : ∀ c ∈ cs, isLineChar c = true) (more : List Char)
    (index row column : Nat) :
    skip cs.length ⟨cs ++ more, index, row, column⟩ =
      ⟨more, index + cs.length, row, column + cs.length⟩ := by
  induction cs generalizing index column with
  | nil => rfl
  | cons c cs ih =>
    simp only [List.forall_mem_cons] at line
    have here : isBreak c = false ∧ c ≠ '\ufeff' := by
      have := line.1
      simp_all [isLineChar]
    simp only [List.length_cons, skip, List.cons_append]
    rw [advance]
    simp only [here.1, here.2, beq_iff_eq, Bool.false_eq_true, if_false]
    rw [ih line.2]
    congr 1 <;> omega

abbrev spaces (count : Nat) : List Char := List.replicate count ' '

theorem takeWhile_spaces (count : Nat) {more : List Char} (stop : more.head? ≠ some ' ') :
    (spaces count ++ more).takeWhile (· == ' ') = spaces count := by
  rw [List.takeWhile_append_of_pos (by simp)]
  cases more with
  | nil => simp
  | cons c more => simp_all

theorem skipWhile_spaces (count : Nat) {more : List Char} (stop : more.head? ≠ some ' ')
    (index row column : Nat) :
    skipWhile (· == ' ') ⟨spaces count ++ more, index, row, column⟩ =
      ⟨more, index + count, row, column + count⟩ := by
  have line : ∀ c ∈ spaces count, isLineChar c = true := by
    intro c mem
    rw [List.eq_of_mem_replicate mem]
    decide
  have skipped := skip_line line more index row column
  simp only [List.length_replicate] at skipped
  rw [skipWhile, takeWhile_spaces count stop, List.length_replicate, skipped]

end Cursor

open Cursor (spaces)

/-! ### The start of a line -/

/-- Whether a text starts with a token or is at its end: not with a space, a comment or the end of a
line. -/
def standsOut (cs : List Char) : Bool := cs.head?.all fun c => c != ' ' && c != '#' && !isBreak c

/-- Whether a text may be the first of a line: it starts with a token, and not with a mark that
separates documents. -/
def startsLine (cs : List Char) : Bool :=
  standsOut cs && cs.take 3 != ['-', '-', '-'] && cs.take 3 != ['.', '.', '.']

theorem standsOut_of_startsLine {cs : List Char} (starts : startsLine cs = true) :
    standsOut cs = true := by
  simp only [startsLine, Bool.and_eq_true] at starts
  exact starts.1.1

theorem standsOut_cons_iff {c : Char} {cs : List Char} :
    standsOut (c :: cs) = true ↔ c ≠ ' ' ∧ c ≠ '#' ∧ isBreak c = false := by
  simp [standsOut, and_assoc]

theorem isPlain_cons_iff {c : Char} {cs : List Char} :
    isPlain (c :: cs) = true ↔ goesOn (c :: cs) = true ∧ c ≠ ' ' ∧
      (Scanner.isIndicator c = false ∨
        (c = '-' ∨ c = '?' ∨ c = ':') ∧ ∃ d more, cs = d :: more ∧ d ≠ ' ') := by
  cases cs <;> simp [isPlain, or_assoc]

theorem standsOut_of_isPlain {cs : List Char} (plain : isPlain cs = true) (more : List Char) :
    standsOut (cs ++ more) = true := by
  cases cs with
  | nil => cases plain
  | cons c cs =>
    obtain ⟨goes, no_space, first⟩ := isPlain_cons_iff.1 plain
    have line := (goesOn_cons.1 goes).1
    have no_comment : c ≠ '#' := by
      rintro rfl
      rcases first with no_mark | ⟨other, -⟩
      · exact absurd no_mark (by decide)
      · exact absurd other (by decide)
    simp only [isLineChar, Bool.and_eq_true, Bool.not_eq_true'] at line
    exact standsOut_cons_iff.2 ⟨no_space, no_comment, line.1.1.2⟩

theorem atAnySeparator_indented {cs : List Char} (starts : startsLine cs = true)
    (count index row column : Nat) :
    Cursor.atAnySeparator ⟨spaces count ++ cs, index, row, column⟩ = false := by
  simp only [startsLine, Bool.and_eq_true, bne_iff_ne, ne_eq] at starts
  cases count with
  | zero => simp [Cursor.atAnySeparator, Cursor.atSeparator, starts]
  | succ count => simp [Cursor.atAnySeparator, Cursor.atSeparator, spaces, List.replicate_succ]

theorem head?_ne_space {cs : List Char} (out : standsOut cs = true) : cs.head? ≠ some ' ' := by
  intro space
  simp [standsOut, space] at out

theorem peek_ne_comment {cs : List Char} (out : standsOut cs = true) (index row column : Nat) :
    Cursor.peek ⟨cs, index, row, column⟩ ≠ some '#' := by
  intro comment
  rw [Cursor.peek] at comment
  simp [standsOut, comment] at out

theorem takeBreak?_of_not_break {c : Char} (no_break : isBreak c = false) (cs : List Char)
    (index row column : Nat) : Cursor.takeBreak? ⟨c :: cs, index, row, column⟩ = none := by
  simp only [isBreak, Bool.or_eq_false_iff, beq_eq_false_iff_ne] at no_break
  unfold Cursor.takeBreak?
  split <;> simp_all [isBreak]

theorem takeBreak?_of_standsOut {cs : List Char} (out : standsOut cs = true)
    (index row column : Nat) : Cursor.takeBreak? ⟨cs, index, row, column⟩ = none := by
  cases cs with
  | nil => rfl
  | cons c cs => exact takeBreak?_of_not_break (standsOut_cons_iff.1 out).2.2 cs index row column

theorem takeBreak?_newline (cs : List Char) (index row column : Nat) :
    Cursor.takeBreak? ⟨'\n' :: cs, index, row, column⟩ =
      some ('\n', ⟨cs, index + 1, row + 1, 0⟩) := rfl

/-- A single line break before a token is all there is between two lines. -/
theorem moreBreaks_indented {cs : List Char} (starts : startsLine cs = true)
    (count fuel index row : Nat) :
    moreBreaks (fuel + 1) ⟨spaces count ++ cs, index, row, 0⟩ =
      ([], ⟨cs, index + count, row, count⟩, false) := by
  rw [moreBreaks, atAnySeparator_indented starts,
    Cursor.skipWhile_spaces count (head?_ne_space (standsOut_of_startsLine starts))]
  simp [takeBreak?_of_standsOut (standsOut_of_startsLine starts)]

/-- The gap at the end of a line goes to the next token. -/
theorem plainGap_break {cs : List Char} (starts : startsLine cs = true)
    (count index row column : Nat) :
    plainGap ⟨'\n' :: (spaces count ++ cs), index, row, column⟩ =
      ⟨[' '], ⟨cs, index + 1 + count, row + 1, count⟩, true⟩ := by
  have here : Cursor.skipWhile (· == ' ') ⟨'\n' :: (spaces count ++ cs), index, row, column⟩ =
      ⟨'\n' :: (spaces count ++ cs), index, row, column⟩ := rfl
  simp only [plainGap, here, takeBreak?_newline, moreBreaks_indented starts]
  rfl

/-- The gap inside a line is its spaces. -/
theorem plainGap_spaces {c : Char} (line : isLineChar c = true) (other : c ≠ ' ') (cs : List Char)
    (count index row column : Nat) :
    plainGap ⟨spaces count ++ c :: cs, index, row, column⟩ =
      ⟨spaces count, ⟨c :: cs, index + count, row, column + count⟩, false⟩ := by
  have stop : (c :: cs).head? ≠ some ' ' := by simpa using other
  have no_break : Cursor.takeBreak? ⟨c :: cs, index + count, row, column + count⟩ = none := by
    apply takeBreak?_of_not_break
    simp_all [isLineChar]
  simp only [plainGap, Cursor.skipWhile_spaces count stop, Cursor.takeWhile_spaces count stop,
    no_break]

/-! ### Reading a line -/

theorem lineChar_of_goesOn {cs : List Char} (plain : goesOn cs = true) :
    ∀ c ∈ cs, isLineChar c = true := by
  induction cs with
  | nil => simp
  | cons c cs ih =>
    rw [goesOn_cons] at plain
    simpa [plain.1] using ih plain.2.2.2

theorem goesOn_append {front behind : List Char} (plain : goesOn (front ++ behind) = true) :
    goesOn behind = true := by
  induction front with
  | nil => exact plain
  | cons c front ih => exact ih (goesOn_cons.1 plain).2.2.2

/-- A run of a plain scalar ends at a space, or at the end of the line. -/
theorem plainRun_line {cs : List Char} (plain : goesOn cs = true) (more : List Char) :
    plainRun false (cs ++ '\n' :: more) = cs.takeWhile (· != ' ') := by
  induction cs with
  | nil => rfl
  | cons c cs ih =>
    obtain ⟨line, colon, -, rest⟩ := goesOn_cons.1 plain
    rw [List.cons_append, plainRun, ih rest]
    by_cases space : c = ' '
    · subst space
      rfl
    · have blank := isBlankOrEnd_of_lineChar line space
      have key : (c == ':' && endsKey false (cs ++ '\n' :: more).head?) = false := by
        rw [Bool.and_eq_false_iff]
        by_cases is_colon : c = ':'
        · obtain ⟨d, behind, rfl, other⟩ := colon is_colon
          have := isBlankOrEnd_of_lineChar (goesOn_cons.1 rest).1 other
          exact .inr (by simp [endsKey, this])
        · exact .inl (by simpa using is_colon)
      simp only [blank, key, Bool.false_or, Bool.false_and]
      simp [space]

/-- Behind the spaces in a plain text, something stands that starts no comment. -/
theorem exists_spaces_append {cs : List Char} (plain : goesOn (' ' :: cs) = true) :
    ∃ count c more, ' ' :: cs = spaces (count + 1) ++ c :: more ∧ c ≠ ' ' ∧ c ≠ '#' := by
  induction cs with
  | nil =>
    obtain ⟨_, _, none, _⟩ := (goesOn_cons.1 plain).2.2.1 rfl
    cases none
  | cons c cs ih =>
    obtain ⟨-, -, space, rest⟩ := goesOn_cons.1 plain
    obtain ⟨_, _, same, no_comment⟩ := space rfl
    cases same
    by_cases again : c = ' '
    · subst again
      obtain ⟨count, d, more, split, other⟩ := ih rest
      exact ⟨count + 1, d, more, congrArg (' ' :: ·) split, other⟩
    · exact ⟨0, c, cs, rfl, again, no_comment⟩

/-- A text is its first word, and a space with more behind it if there is more. -/
theorem exists_word {c : Char} (cs : List Char) (no_space : c ≠ ' ') :
    ∃ word behind, c :: cs = c :: word ++ behind ∧
      (c :: cs).takeWhile (· != ' ') = c :: word ∧
      (behind = [] ∨ ∃ more, behind = ' ' :: more) := by
  refine ⟨cs.takeWhile (· != ' '), cs.dropWhile (· != ' '), ?_, by simp [no_space], ?_⟩
  · rw [List.cons_append, List.takeWhile_append_dropWhile]
  · cases rest : cs.dropWhile (· != ' ') with
    | nil => exact .inl rfl
    | cons d more =>
      have stops := List.head?_dropWhile_not (· != ' ') cs
      rw [rest] at stops
      exact .inr ⟨more, by simpa using stops⟩

/-- A run of a plain scalar is taken; whether the scalar goes on depends on the gap behind it. -/
theorem readPlain_run {word : List Char} {c : Char} {more : List Char}
    (run : plainRun false (c :: word ++ more) = c :: word) (no_comment : c ≠ '#')
    (line : ∀ d ∈ c :: word, isLineChar d = true) (indent : Int) (fuel : Nat) (before : List Char)
    (broken : Bool) (index row column : Nat) :
    readPlain false indent (fuel + 1) before broken ⟨c :: word ++ more, index, row, column⟩ =
      let gap := plainGap ⟨more, index + (word.length + 1), row, column + (word.length + 1)⟩
      if gap.text.isEmpty || gap.cursor.peek = some '#' || gap.cursor.column < indent then
        (before ++ c :: word, gap.cursor, gap.broken)
      else
        let (rest, behind, broken) :=
          readPlain false indent fuel gap.text gap.broken gap.cursor
        (before ++ c :: word ++ rest, behind, broken) := by
  have peek : Cursor.peek ⟨c :: word ++ more, index, row, column⟩ = some c := rfl
  have skipped := Cursor.skip_line line more index row column
  rw [List.length_cons] at skipped
  rw [readPlain]
  simp only [peek, Option.some.injEq, no_comment, if_false, run, List.length_cons, skipped]
  simp

/-- A plain text is read to the end of its line, if the next line is not indented as deep. -/
theorem readPlain_line {cs : List Char} {c : Char} (plain : goesOn (c :: cs) = true)
    (no_space : c ≠ ' ') (no_comment : c ≠ '#') {tail : List Char}
    (starts : startsLine tail = true) {count : Nat} {indent : Int}
    (shallow : (count : Int) < indent) {fuel : Nat} (enough : cs.length < fuel)
    (before : List Char) (broken : Bool) (index row : Nat) {column : Nat} (deep : indent ≤ column) :
    ∃ behind, readPlain false indent fuel before broken
        ⟨c :: cs ++ '\n' :: (spaces count ++ tail), index, row, column⟩ =
      (before ++ c :: cs, ⟨tail, behind, row + 1, count⟩, true) := by
  induction length : cs.length using Nat.strongRecOn
    generalizing c cs before broken index column fuel with
  | ind size ih =>
  obtain ⟨fuel, rfl⟩ : ∃ n, fuel = n + 1 := ⟨fuel - 1, by omega⟩
  obtain ⟨word, behind, split, letters, ends⟩ := exists_word cs no_space
  have run := plainRun_line plain (spaces count ++ tail)
  have line := lineChar_of_goesOn plain
  rw [letters] at run
  rw [split] at run line plain ⊢
  rw [List.append_assoc] at run ⊢
  rw [readPlain_run run no_comment fun d mem => line d (List.mem_append_left _ mem)]
  rcases ends with rfl | ⟨more, rfl⟩
  · -- The line ends, and the next one is not part of the scalar.
    have gap := plainGap_break starts count (index + (word.length + 1)) row
      (column + (word.length + 1))
    simp [gap, shallow]
  · -- Another word of the line follows.
    obtain ⟨width, d, rest, gap, word', comment⟩ := exists_spaces_append (goesOn_append plain)
    have shorter : rest.length < size := by
      have whole := congrArg List.length split
      have part := congrArg List.length gap
      simp only [List.length_cons, List.length_append, List.length_replicate] at whole part
      omega
    have enough' : rest.length < fuel := by omega
    rw [gap] at plain ⊢
    have tail_plain := goesOn_append (goesOn_append plain)
    have next := plainGap_spaces (goesOn_cons.1 tail_plain).1 word'
      (rest ++ '\n' :: (spaces count ++ tail)) (width + 1) (index + (word.length + 1)) row
      (column + (word.length + 1))
    have farther : indent ≤ ((column + (word.length + 1) + (width + 1) : Nat) : Int) := by omega
    obtain ⟨behind, read⟩ := ih rest.length shorter tail_plain word' comment enough'
      (spaces (width + 1)) false (index + (word.length + 1) + (width + 1)) farther rfl
    refine ⟨behind, ?_⟩
    have inside := Int.not_lt.2 farther
    simp only [List.append_assoc, List.cons_append] at next read ⊢
    rw [next]
    simp only [read, inside]
    simp [Cursor.peek, comment]

/-! ### Words -/

def isWordChar (c : Char) : Bool := c.isAlphanum || c == '_'

/-- A text that names a field: a word, short enough for a key. -/
def isWord (cs : List Char) : Bool := !cs.isEmpty && cs.all isWordChar && cs.length ≤ 1024

theorem toNat_lt_of_wordChar {c : Char} (word : isWordChar c = true) : c.toNat < 128 := by
  have below {top : Char} (small : top.toNat < 128) (inside : c.val ≤ top.val) : c.toNat < 128 :=
    Nat.lt_of_le_of_lt (UInt32.le_iff_toNat_le.1 inside) small
  have forms : (c.isUpper || c.isLower || c.isDigit || c == '_') = true := word
  simp only [Bool.or_eq_true, beq_iff_eq] at forms
  rcases forms with ((upper | lower) | digit) | rfl
  · have inside : 'A'.val ≤ c.val ∧ c.val ≤ 'Z'.val := of_decide_eq_true upper
    exact below (by decide) inside.2
  · exact below (by decide : 'z'.toNat < 128) (of_decide_eq_true (Bool.and_eq_true_iff.1 lower).2)
  · exact below (by decide : '9'.toNat < 128) (of_decide_eq_true (Bool.and_eq_true_iff.1 digit).2)
  · decide

/-- The characters of words are letters on a line, and mean nothing else. -/
theorem wordChar_plain {c : Char} (word : isWordChar c = true) :
    isLineChar c = true ∧ isBlankOrEnd (some c) = false ∧ Scanner.isIndicator c = false := by
  have all : ∀ n < 128, isWordChar (Char.ofNat n) = true →
      isLineChar (Char.ofNat n) = true ∧ isBlankOrEnd (some (Char.ofNat n)) = false ∧
        Scanner.isIndicator (Char.ofNat n) = false := by decide +kernel
  rw [← Char.ofNat_toNat c] at word ⊢
  exact all c.toNat (toNat_lt_of_wordChar (by rwa [Char.ofNat_toNat] at word)) word

theorem startsLine_of_wordChar {c : Char} (word : isWordChar c = true) (cs : List Char) :
    startsLine (c :: cs) = true := by
  have other : c ≠ ' ' ∧ c ≠ '#' ∧ c ≠ '-' ∧ c ≠ '.' := by
    refine ⟨?_, ?_, ?_, ?_⟩ <;> rintro rfl <;> exact absurd word (by decide)
  have line := (wordChar_plain word).1
  simp only [isLineChar, Bool.and_eq_true, Bool.not_eq_true'] at line
  have out : standsOut (c :: cs) = true := standsOut_cons_iff.2 ⟨other.1, other.2.1, line.1.1.2⟩
  simp [startsLine, out, other.2.2]

theorem readPlain_key {c : Char} {cs : List Char} (word : ∀ d ∈ c :: cs, isWordChar d = true)
    {blank : Char} (ends : isBlankOrEnd (some blank) = true) (more : List Char) (indent : Int)
    (fuel index row column : Nat) :
    readPlain false indent (fuel + 1) [] false
        ⟨c :: cs ++ ':' :: blank :: more, index, row, column⟩ =
      (c :: cs, ⟨':' :: blank :: more, index + (cs.length + 1), row, column + (cs.length + 1)⟩,
        false) := by
  have run : plainRun false (c :: cs ++ ':' :: blank :: more) = c :: cs := by
    generalize c :: cs = letters at word ⊢
    induction letters with
    | nil => simp [plainRun, endsKey, ends]
    | cons d ds ih =>
      simp only [List.forall_mem_cons] at word
      have colon : d ≠ ':' := by
        rintro rfl
        exact absurd word.1 (by decide)
      rw [List.cons_append, plainRun, ih word.2]
      simp [(wordChar_plain word.1).2.1, colon]
  have comment : c ≠ '#' := by
    rintro rfl
    exact absurd (word '#' List.mem_cons_self) (by decide)
  have gap := plainGap_spaces (c := ':') (by decide) (by decide) (blank :: more) 0
    (index + (cs.length + 1)) row (column + (cs.length + 1))
  rw [readPlain_run run comment fun d mem => (wordChar_plain (word d mem)).1]
  simp only [spaces, List.replicate_zero, List.nil_append, Nat.add_zero] at gap
  simp [gap]

end NodeDataplane.Yaml
