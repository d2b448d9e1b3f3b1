import Mathlib.Logic.Relation
import NodeDataplane.Proofs.Yaml.PlainLine

/-!
# Reading tokens one after another

The scanner reads a text from token to token. `Reaches` says that it comes from one place to another
with the tokens between them, so what is known of the parts of a text is put together to what is
known of the whole.

## Main results

- `run_of_reaches`: a scanner that reaches the end of the text has read its tokens.
- `reaches_text`, `reaches_brackets`, `passes_dash`, `reaches_value_beside`, `reaches_value_below`:
  what is read of a text, of empty brackets, of a dash and of a key with its colon.
- `unwind_opened`: the block that a dash or a key opened ends where the text is not as deep.

## Proof strategy

A token is told by the characters it starts with (`token_plain`), and what stands behind it is
skipped up to the next one (`approach_of`). Each result is about a scanner outside of brackets that
waits for no colon (`At`), and leads to such a scanner again.
-/

namespace NodeDataplane.Yaml

open Cursor (spaces)

namespace Scanner

/-! ### Steps of the scanner -/

/-- One token is read where the scanner stands, and the next one is gone to. -/
def Passes (near next : Scanner) : Prop :=
  ∃ c s, near.cursor.peek = some c ∧ near.token c = .ok s ∧ s.approach = .ok next ∧
    next.cursor.rest.length < near.cursor.rest.length

abbrev Reaches : Scanner → Scanner → Prop := Relation.ReflTransGen Passes

/-- Blocks that end change the tokens and the indentation only. -/
theorem unwind_eq (s : Scanner) (column : Int) :
    s.unwind column = { s with
      tokens := (s.unwind column).tokens
      indent := (s.unwind column).indent
      outer := (s.unwind column).outer } := by
  have left (outer : List Int) (s : Scanner) : unwind.go column outer s = { s with
      tokens := (unwind.go column outer s).tokens
      indent := (unwind.go column outer s).indent
      outer := (unwind.go column outer s).outer } := by
    induction outer generalizing s with
    | nil => rfl
    | cons around more ih =>
      rw [unwind.go]
      split
      · rw [ih]
        rfl
      · rfl
  unfold unwind
  split
  · rfl
  · exact left s.outer s

@[simp] theorem cursor_unwind (s : Scanner) (column : Int) :
    (s.unwind column).cursor = s.cursor := by
  rw [unwind_eq]

@[simp] theorem possible_unwind (s : Scanner) (column : Int) :
    (s.unwind column).possible = s.possible := by
  rw [unwind_eq]

/-- A scanner that reaches the end of the text has read its tokens. -/
theorem run_of_reaches {near last : Scanner} (reaches : Reaches near last)
    (ended : last.cursor.rest = []) (free : last.possible = none) {s : Scanner} {fuel : Nat}
    (approaches : s.approach = .ok near) (enough : near.cursor.rest.length < fuel) :
    s.run fuel = (last.unwind (-1)).tokens.reverse := by
  induction reaches using Relation.ReflTransGen.head_induction_on generalizing s fuel with
  | refl =>
    obtain ⟨fuel, rfl⟩ : ∃ n, fuel = n + 1 := ⟨fuel - 1, by omega⟩
    have peek : last.cursor.peek = none := by simp [Cursor.peek, ended]
    have dropped : (last.unwind (-1)).dropKey =
        .ok { last.unwind (-1) with possible := none } := by
      rw [dropKey, possible_unwind, free]
      rfl
    rw [run]
    simp only [approaches, peek, dropped]
  | head passes _ ih =>
    obtain ⟨c, s', peek, read, approaches', shorter⟩ := passes
    obtain ⟨fuel, rfl⟩ : ∃ n, fuel = n + 1 := ⟨fuel - 1, by omega⟩
    rw [run]
    simp only [approaches, peek, read]
    exact ih approaches' (by omega)

/-! ### Going to the next token -/

theorem skipToToken_spaces (count : Nat) {s : Scanner} {index row column fuel : Nat}
    {rest : List Char}
    (here : s.cursor = ⟨spaces count ++ rest, index, row, column⟩) (out : standsOut rest = true) :
    s.skipToToken (fuel + 1) =
      { s with cursor := ⟨rest, index + count, row, column + count⟩ } := by
  have skipped := Cursor.skipWhile_spaces count (head?_ne_space out) index row column
  have comment := peek_ne_comment out (index + count) row (column + count)
  simp only [skipToToken, here, skipped, comment, if_false, takeBreak?_of_standsOut out]

theorem skipToToken_newline {s : Scanner} {count index row column fuel : Nat} {rest : List Char}
    (here : s.cursor = ⟨'\n' :: (spaces count ++ rest), index, row, column⟩)
    (out : standsOut rest = true) (block : s.around = []) :
    s.skipToToken (fuel + 2) =
      { s with cursor := ⟨rest, index + 1 + count, row + 1, count⟩, keyAllowed := true } := by
  have skipped : Cursor.skipWhile (· == ' ')
      ⟨'\n' :: (spaces count ++ rest), index, row, column⟩ =
        ⟨'\n' :: (spaces count ++ rest), index, row, column⟩ := rfl
  have comment : Cursor.peek ⟨'\n' :: (spaces count ++ rest), index, row, column⟩ ≠ some '#' :=
    nofun
  rw [skipToToken]
  simp only [here, skipped, comment, if_false, takeBreak?_newline]
  rw [skipToToken_spaces count rfl out]
  simp [inFlow, block]

/-- Keys that are still possible all stay. -/
theorem dropStale_of_fresh {s : Scanner}
    (fresh : ∀ possible ∈ s.possible :: s.around, ∀ key ∈ possible, isStale s.cursor key = false) :
    s.dropStale = .ok s := by
  have none_stale :
      ∀ possible ∈ s.possible :: s.around, possible.any (isStale s.cursor) = false := by
    rintro (_ | key) mem
    · rfl
    · exact fresh _ mem key rfl
  have none_missed : ∀ possible ∈ s.possible :: s.around,
      possible.any (fun key => isStale s.cursor key && key.required) = false := by
    rintro (_ | key) mem
    · rfl
    · simp [fresh _ mem key rfl]
  simp only [List.forall_mem_cons] at none_stale none_missed
  have kept : s.around.map (fun key => if key.any (isStale s.cursor) then none else key) =
      s.around := by
    refine (List.map_congr_left fun key mem => ?_).trans (List.map_id s.around)
    exact if_neg (by simp [none_stale.2 key mem])
  have missed : s.around.any (fun possible =>
      possible.any fun key => isStale s.cursor key && key.required) = false :=
    List.any_eq_false.2 fun key mem => by simp [none_missed.2 key mem]
  simp [dropStale, none_stale.1, none_missed.1, missed, kept]

theorem dropStale_of_none {s : Scanner} (free : s.possible = none) (block : s.around = []) :
    s.dropStale = .ok s := by
  apply dropStale_of_fresh
  rw [free, block]
  simp

/-- A key that need not be one is no longer possible on another line. -/
theorem dropStale_of_line_passed {s : Scanner} {row : Nat} (passed : row ≠ s.cursor.line)
    (keys : ∀ key ∈ s.possible, key.line = row ∧ key.required = false) (block : s.around = []) :
    s.dropStale = .ok { s with possible := none } := by
  cases possible : s.possible with
  | none =>
    rw [dropStale_of_none possible block, ← possible]
  | some key =>
    obtain ⟨line, free⟩ := keys key possible
    have other : key.line ≠ s.cursor.line := line ▸ passed
    simp [dropStale, possible, isStale, other, free, block]

theorem approach_of {s near fresh : Scanner}
    (gone : s.skipToToken (s.cursor.rest.length + 1) = near) (kept : near.dropStale = .ok fresh) :
    s.approach = .ok (fresh.unwind fresh.cursor.column) := by
  rw [approach, gone, kept]
  rfl

theorem approach_spaces (count : Nat) {s : Scanner} {index row column : Nat} {rest : List Char}
    (here : s.cursor = ⟨spaces count ++ rest, index, row, column⟩) (out : standsOut rest = true)
    (free : s.possible = none) (block : s.around = []) :
    s.approach = .ok (unwind (column + count : Nat)
      { s with cursor := ⟨rest, index + count, row, column + count⟩ }) := by
  exact approach_of (skipToToken_spaces count here out) (dropStale_of_none free block)

theorem approach_here {s : Scanner} (out : standsOut s.cursor.rest = true)
    (free : s.possible = none) (block : s.around = []) :
    s.approach = .ok (s.unwind s.cursor.column) :=
  approach_spaces 0 rfl out free block

theorem approach_newline (count : Nat) {s : Scanner} {index row column : Nat} {rest : List Char}
    (here : s.cursor = ⟨'\n' :: (spaces count ++ rest), index, row, column⟩)
    (out : standsOut rest = true)
    (keys : ∀ key ∈ s.possible, key.line = row ∧ key.required = false) (block : s.around = []) :
    s.approach = .ok (unwind (count : Nat)
      { s with
        cursor := ⟨rest, index + 1 + count, row + 1, count⟩
        keyAllowed := true
        possible := none }) := by
  have fuel : s.cursor.rest.length + 1 = (spaces count ++ rest).length + 2 := by simp [here]
  let near : Scanner := { s with
    cursor := ⟨rest, index + 1 + count, row + 1, count⟩
    keyAllowed := true }
  have kept : near.dropStale = .ok { near with possible := none } :=
    dropStale_of_line_passed (Nat.ne_of_lt (Nat.lt_succ_self row)) keys block
  exact approach_of (fuel ▸ skipToToken_newline here out block) kept

/-! ### Leaving blocks -/

theorem unwind_of_le {s : Scanner} {column : Int} (inside : s.indent ≤ column) :
    s.unwind column = s := by
  unfold unwind
  split
  · rfl
  · cases outer : s.outer with
    | nil => rfl
    | cons around more => exact if_neg (Int.not_lt.2 inside)

theorem unwind_of_flow {s : Scanner} (column : Int) (flow : s.around ≠ []) :
    s.unwind column = s := by
  rw [unwind, if_pos (by simp [inFlow, flow])]

/-- A block that is left ends with a token of its own. -/
theorem unwind_of_lt {s : Scanner} {column around : Int} {more : List Int}
    (block : s.around = []) (outer : s.outer = around :: more) (left : column < s.indent) :
    s.unwind column =
      unwind column { s.push .blockEnd with indent := around, outer := more } := by
  have here : s.inFlow = false := by simp [inFlow, block]
  have there : ({ s.push .blockEnd with indent := around, outer := more } : Scanner).inFlow =
      false := by simp [inFlow, push, block]
  unfold unwind
  rw [here, there]
  simp only [Bool.false_eq_true, if_false, outer, unwind.go, if_pos left]

/-! ### Telling tokens apart -/

/-- What starts like a plain scalar is read as one, unless it separates documents. -/
theorem token_plain {s : Scanner} {c : Char} {rest : List Char} (here : s.cursor.rest = c :: rest)
    (apart : s.cursor.column ≠ 0 ∨ isWordChar c = true) (block : s.around = [])
    (visible : isBlankOrEnd (some c) = false)
    (first : isIndicator c = false ∨
      (c = '-' ∨ c = '?' ∨ c = ':') ∧ isBlankOrEnd rest.head? = false) :
    s.token c = s.plainScalar := by
  have next : s.cursor.peekAt 1 = rest.head? := by
    simp [Cursor.peekAt, here, List.head?_eq_getElem?]
  have flow : s.inFlow = false := by simp [inFlow, block]
  have at_start : ∀ mark, mark = '-' ∨ mark = '.' →
      (s.cursor.column == 0 && s.cursor.atSeparator mark) = false := by
    intro mark dash
    rcases apart with inside | word
    · simp [inside]
    · have other : c ≠ mark := by
        rintro rfl
        rcases dash with rfl | rfl <;> exact absurd word (by decide)
      simp [Cursor.atSeparator, here, other]
  have no_dashes := at_start '-' (.inl rfl)
  have no_dots := at_start '.' (.inr rfl)
  unfold token
  dsimp only
  rw [no_dashes, no_dots, next, flow]
  rcases first with plain | ⟨rfl | rfl | rfl, blank⟩
  · have other := plain
    simp only [isIndicator, String.reduceToList, List.contains_cons, List.contains_nil,
      Bool.or_false, Bool.or_eq_false_iff] at other
    simp [other, atPlain, visible, plain]
  all_goals simp [blank, atPlain, next, flow, visible]

/-! ### Scalars and keys -/

/-- A scanner outside of brackets, where no key has begun, with a text before it. -/
structure At (near : Scanner) (text : List Char) (column : Nat) : Prop where
  rest : near.cursor.rest = text
  column : near.cursor.column = column
  block : near.around = []
  free : near.possible = none

theorem At.cursor_eq {near : Scanner} {text : List Char} {column : Nat}
    (at_text : At near text column) :
    near.cursor = ⟨text, near.cursor.index, near.cursor.line, column⟩ := by
  rw [← at_text.rest, ← at_text.column]

/-- The scanner in front of more text, with more tokens behind it. A key may start. -/
def resume (s : Scanner) (cursor : Cursor) (more : List Token) : Scanner :=
  { s with cursor, tokens := more.reverse ++ s.tokens, keyAllowed := true, possible := none }

@[simp] theorem cursor_resume (s : Scanner) (cursor : Cursor) (more : List Token) :
    (s.resume cursor more).cursor = cursor := rfl

@[simp] theorem indent_resume (s : Scanner) (cursor : Cursor) (more : List Token) :
    (s.resume cursor more).indent = s.indent := rfl

@[simp] theorem resume_resume (s : Scanner) (cursor behind : Cursor) (more rest : List Token) :
    (s.resume cursor more).resume behind rest = s.resume behind (more ++ rest) := by
  simp [resume]

theorem At.of_resume {s : Scanner} (block : s.around = []) (text : List Char)
    (index row column : Nat) (more : List Token) :
    At (s.resume ⟨text, index, row, column⟩ more) text column :=
  ⟨rfl, rfl, block, rfl⟩

theorem saveKey_of_allowed {s : Scanner} (free : s.possible = none)
    (allowed : s.keyAllowed = true) :
    s.saveKey = .ok { s with
      possible := some ⟨s.tokens.length, !s.inFlow && s.indent == s.cursor.column, s.cursor.index,
        s.cursor.line, s.cursor.column⟩ } := by
  have dropped : s.dropKey = .ok { s with possible := none } := by
    rw [dropKey, free]
    rfl
  rw [saveKey, if_pos allowed, dropped]
  rfl

/-- Where a scalar starts deeper than the block, a key is possible and not required. -/
theorem saveKey_of_inside {s : Scanner} (free : s.possible = none)
    (inside : s.indent < s.cursor.column) :
    ∃ possible, s.saveKey = .ok { s with possible } ∧
      ∀ key ∈ possible, key.line = s.cursor.line ∧ key.required = false ∧
        key.index = s.cursor.index := by
  by_cases allowed : s.keyAllowed = true
  · refine ⟨some _, saveKey_of_allowed free allowed, ?_⟩
    rintro key ⟨⟩
    have other : (s.indent == (s.cursor.column : Int)) = false := by
      rw [beq_eq_false_iff_ne]
      omega
    simp [other]
  · exact ⟨none, by rw [saveKey, if_neg allowed, ← free], nofun⟩

theorem plainScalar_of_read {s saved : Scanner} {text : List Char} {behind : Cursor} {broken : Bool}
    (save : s.saveKey = .ok saved) (block : saved.around = [])
    (read : readPlain false (saved.indent + 1) (saved.cursor.rest.length + 1) [] false
      saved.cursor = (text, behind, broken)) :
    s.plainScalar = .ok { saved.push (.scalar true (String.ofList text)) with
      cursor := behind, keyAllowed := broken } := by
  have flow : saved.inFlow = false := by simp [inFlow, block]
  rw [plainScalar, save]
  simp only [bind, Except.bind, flow, read]
  rfl

/-- A plain text is a token, if the next line is not deeper than the block. -/
theorem reaches_text {near : Scanner} {text tail : List Char} {count column : Nat}
    (at_text : At near (text ++ '\n' :: (spaces count ++ tail)) column)
    (plain : isPlain text = true) (starts : startsLine tail = true)
    (inside : near.indent < column) (shallow : (count : Int) ≤ near.indent) :
    ∃ index row, Passes near (unwind count
      (near.resume ⟨tail, index, row, count⟩ [.scalar true (String.ofList text)])) := by
  cases text with
  | nil => cases plain
  | cons c cs =>
    obtain ⟨goes, no_space, first⟩ := isPlain_cons_iff.1 plain
    have line := (goesOn_cons.1 goes).1
    have no_comment := (standsOut_cons_iff.1 (standsOut_of_isPlain plain [])).2.1
    have begins : isIndicator c = false ∨ (c = '-' ∨ c = '?' ∨ c = ':') ∧
        isBlankOrEnd (cs ++ '\n' :: (spaces count ++ tail)).head? = false := by
      refine first.imp_right fun ⟨mark, d, more, same, other⟩ => ⟨mark, ?_⟩
      subst same
      exact isBlankOrEnd_of_lineChar (goesOn_cons.1 (goesOn_cons.1 goes).2.2.2).1 other
    have here : near.cursor.column ≠ 0 := by
      rw [at_text.column]
      omega
    have told := token_plain at_text.rest (.inl here) at_text.block
      (isBlankOrEnd_of_lineChar line no_space) begins
    obtain ⟨possible, saved, keys⟩ := saveKey_of_inside at_text.free
      (by rw [at_text.column]; exact inside)
    have enough : cs.length < near.cursor.rest.length + 1 := by
      rw [at_text.rest]
      simp
      omega
    obtain ⟨behind, read⟩ := readPlain_line goes no_space no_comment starts
      (Int.lt_add_one_of_le shallow) enough [] false near.cursor.index near.cursor.line
      (Int.add_one_le_of_lt inside)
    let scalar : Scanner := { near with
      possible
      cursor := ⟨tail, behind, near.cursor.line + 1, count⟩
      tokens := .scalar true (String.ofList (c :: cs)) :: near.tokens
      keyAllowed := true }
    have scanned : near.plainScalar = .ok scalar := by
      rw [← at_text.cursor_eq] at read
      exact plainScalar_of_read saved at_text.block read
    -- The key that was possible stood on the line of the scalar, which is over.
    have kept : scalar.dropStale = .ok { scalar with possible := none } :=
      dropStale_of_line_passed (Nat.ne_of_lt (Nat.lt_succ_self near.cursor.line))
        (fun key mem => ⟨(keys key mem).1, (keys key mem).2.1⟩) at_text.block
    have gone := approach_of
      (skipToToken_spaces 0 (s := scalar) rfl (standsOut_of_startsLine starts)) kept
    refine ⟨behind, near.cursor.line + 1, c, scalar, ?_, told.trans scanned, gone, ?_⟩
    · rw [Cursor.peek, at_text.rest]
      rfl
    · rw [cursor_unwind, at_text.rest]
      simp
      omega

/-- The brackets of lists and of maps, with their tokens. -/
inductive Brackets : Char → Char → Token → Token → Prop
  | square : Brackets '[' ']' .flowSequenceStart .flowSequenceEnd
  | curly : Brackets '\x7b' '\x7d' .flowMappingStart .flowMappingEnd

/-- The scanner behind an opening bracket, around which a key may be possible. -/
def enclose (s : Scanner) (cursor : Cursor) (opening : Token) (possible : Option PossibleKey) :
    Scanner :=
  { s with
    cursor
    tokens := opening :: s.tokens
    keyAllowed := true
    possible := none
    around := [possible] }

theorem passes_opening {near : Scanner} {more : List Char} {column : Nat} {left right : Char}
    {opening closing : Token} (marks : Brackets left right opening closing)
    (at_text : At near (left :: right :: more) column) (inside : near.indent < column)
    (apart : column ≠ 0) :
    ∃ possible, (∀ key ∈ possible, key.line = near.cursor.line ∧ key.required = false) ∧
      Passes near (near.enclose
        ⟨right :: more, near.cursor.index + 1, near.cursor.line, column + 1⟩ opening possible) := by
  have here : (near.cursor.column == 0) = false := by
    rw [at_text.column, beq_eq_false_iff_ne]
    exact apart
  have told : near.token left = near.openBrackets opening := by
    cases marks <;> simp [token, here]
  obtain ⟨possible, saved, keys⟩ := saveKey_of_inside at_text.free
    (by rw [at_text.column]; exact inside)
  let inner := near.enclose
    ⟨right :: more, near.cursor.index + 1, near.cursor.line, column + 1⟩ opening possible
  have skipped : near.cursor.skip 1 = inner.cursor := by
    rw [at_text.cursor_eq]
    cases marks <;> rfl
  have opened : near.openBrackets opening = .ok inner := by
    rw [openBrackets, saved]
    simp only [bind, Except.bind, pure, Except.pure, pushMark, push, skipped, at_text.block]
    rfl
  have entered : inner.approach = .ok inner := by
    have out : standsOut (right :: more) = true := by
      cases marks <;> rfl
    have kept : inner.dropStale = .ok inner := by
      apply dropStale_of_fresh
      simp only [inner, enclose, List.mem_cons, List.not_mem_nil, or_false]
      rintro _ (rfl | rfl) key mem
      · cases mem
      · obtain ⟨line, -, index⟩ := keys key mem
        simp [isStale, line, index]
    have gone := approach_of (skipToToken_spaces 0 (s := inner) rfl out) kept
    rwa [unwind_of_flow _ (by simp [inner, enclose])] at gone
  refine ⟨possible, fun key mem => ⟨(keys key mem).1, (keys key mem).2.1⟩, left, inner, ?_,
    told.trans opened, entered, ?_⟩
  · rw [Cursor.peek, at_text.rest]
    rfl
  · rw [at_text.rest]
    exact Nat.lt_succ_self _

theorem passes_closing {near : Scanner} {tail : List Char} {count index row column : Nat}
    {left right : Char} {opening closing : Token} (marks : Brackets left right opening closing)
    (block : near.around = []) (starts : startsLine tail = true) {possible : Option PossibleKey}
    (keys : ∀ key ∈ possible, key.line = row ∧ key.required = false) :
    Passes (near.enclose ⟨right :: '\n' :: (spaces count ++ tail), index, row, column + 1⟩ opening
        possible)
      (unwind count
        (near.resume ⟨tail, index + 2 + count, row + 1, count⟩ [opening, closing])) := by
  let inner := near.enclose
    ⟨right :: '\n' :: (spaces count ++ tail), index, row, column + 1⟩ opening possible
  have told : inner.token right = inner.closeBrackets closing := by
    cases marks <;> simp [token, inner, enclose]
  have closed : inner.closeBrackets closing = .ok { near with
      cursor := ⟨'\n' :: (spaces count ++ tail), index + 1, row, column + 2⟩
      tokens := closing :: opening :: near.tokens
      keyAllowed := false
      possible
      around := [] } := by
    have skip : inner.cursor.skip 1 =
        ⟨'\n' :: (spaces count ++ tail), index + 1, row, column + 2⟩ := by
      cases marks <;> rfl
    have dropped : inner.dropKey = .ok inner := rfl
    rw [closeBrackets, dropped]
    simp only [bind, Except.bind, pure, Except.pure, pushMark, push, skip]
    rfl
  refine ⟨right, _, rfl, told.trans closed, ?_, ?_⟩
  · rw [approach_newline count rfl (standsOut_of_startsLine starts) keys rfl, ← block]
    rfl
  · simp only [cursor_unwind, cursor_resume, enclose, List.length_cons, List.length_append]
    omega

/-- Brackets with nothing between them are two tokens, if the next line is not deeper than the
block. -/
theorem reaches_brackets {near : Scanner} {tail : List Char} {count column : Nat}
    {left right : Char} {opening closing : Token} (marks : Brackets left right opening closing)
    (at_text : At near (left :: right :: '\n' :: (spaces count ++ tail)) column)
    (starts : startsLine tail = true) (inside : near.indent < column)
    (shallow : (count : Int) ≤ near.indent) :
    ∃ index row, Reaches near (unwind count
      (near.resume ⟨tail, index, row, count⟩ [opening, closing])) := by
  obtain ⟨possible, keys, opens⟩ := passes_opening marks at_text inside (by omega)
  exact ⟨_, _, .head opens (.single (passes_closing marks at_text.block starts keys))⟩

/-! ### Blocks that open -/

theorem openHere_of_le {s : Scanner} {t : Token} (reached : (s.cursor.column : Int) ≤ s.indent) :
    s.openHere t = s := by
  rw [openHere, openBlock?, if_neg (Int.not_lt.2 reached)]

theorem openHere_of_lt {s : Scanner} {t : Token} (deeper : s.indent < s.cursor.column) :
    s.openHere t = { s.push t with indent := s.cursor.column, outer := s.indent :: s.outer } := by
  rw [openHere, openBlock?, if_pos deeper]
  rfl

/-- Opening a block changes the tokens and the indentation only. -/
theorem openHere_eq (s : Scanner) (t : Token) : s.openHere t = { s with
    tokens := (s.openHere t).tokens
    indent := (s.openHere t).indent
    outer := (s.openHere t).outer } := by
  rcases Int.lt_or_le s.indent s.cursor.column with deeper | reached
  · rw [openHere_of_lt deeper]
    rfl
  · rw [openHere_of_le reached]

@[simp] theorem around_openHere (s : Scanner) (t : Token) : (s.openHere t).around = s.around := by
  rw [openHere_eq]

theorem indent_openHere {s : Scanner} {t : Token} (inside : s.indent ≤ s.cursor.column) :
    (s.openHere t).indent = s.cursor.column := by
  rcases Int.lt_or_le s.indent s.cursor.column with deeper | reached
  · rw [openHere_of_lt deeper]
  · rw [openHere_of_le reached]
    exact Int.le_antisymm inside reached

theorem At.around_openHere {near : Scanner} {text : List Char} {column : Nat}
    (at_text : At near text column) (t : Token) : (near.openHere t).around = [] :=
  (Scanner.around_openHere near t).trans at_text.block

theorem At.indent_openHere {near : Scanner} {text : List Char} {column : Nat}
    (at_text : At near text column) (inside : near.indent ≤ column) (t : Token) :
    (near.openHere t).indent = column := by
  rw [← at_text.column] at inside ⊢
  exact Scanner.indent_openHere inside

/-- A block that was opened for some tokens ends behind them, where the text is not as deep. -/
theorem unwind_opened {s : Scanner} {t : Token} (block : s.around = [])
    (deeper : s.indent < s.cursor.column) {column : Int} (left : column ≤ s.indent)
    (cursor : Cursor) (more : List Token) :
    unwind column ((s.openHere t).resume cursor more) =
      unwind column (s.resume cursor (t :: more ++ [.blockEnd])) := by
  let opened : Scanner := { s.push t with indent := s.cursor.column, outer := s.indent :: s.outer }
  have ended := unwind_of_lt (s := opened.resume cursor more) block rfl
    (Int.lt_of_le_of_lt left deeper)
  rw [openHere_of_lt deeper]
  refine ended.trans ?_
  simp [opened, resume, push]

/-- A dash is a token. It opens a list if it is deeper than the block. -/
theorem passes_dash {near : Scanner} {more : List Char} {column : Nat}
    (at_text : At near ('-' :: ' ' :: more) column) (out : standsOut more = true)
    (allowed : near.keyAllowed = true) (inside : near.indent ≤ column) :
    ∃ index row, Passes near ((near.openHere .blockSequenceStart).resume
      ⟨more, index, row, column + 2⟩ [.blockEntry]) := by
  have told : near.token '-' = near.blockEntry := by
    have next : near.cursor.peekAt 1 = some ' ' := by simp [Cursor.peekAt, at_text.rest]
    have dashes : near.cursor.atSeparator '-' = false := by simp [Cursor.atSeparator, at_text.rest]
    have dots : near.cursor.atSeparator '.' = false := by simp [Cursor.atSeparator, at_text.rest]
    have blank : isBlankOrEnd (some ' ') = true := rfl
    simp [token, dashes, dots, next, blank]
  have flow : near.inFlow = false := by simp [inFlow, at_text.block]
  let dash : Scanner := { near.openHere .blockSequenceStart with
    cursor := ⟨' ' :: more, near.cursor.index + 1, near.cursor.line, column + 1⟩
    tokens := .blockEntry :: (near.openHere .blockSequenceStart).tokens
    keyAllowed := true
    possible := none }
  have read : near.blockEntry = .ok dash := by
    have free : (near.openHere .blockSequenceStart).dropKey =
        .ok { near.openHere .blockSequenceStart with possible := none } := by
      rw [openHere_eq, dropKey, at_text.free]
      rfl
    have skip : (near.openHere .blockSequenceStart).cursor.skip 1 = dash.cursor := by
      rw [openHere_eq, at_text.cursor_eq]
      rfl
    rw [blockEntry, flow, allowed]
    simp [bind, Except.bind, pure, Except.pure, free, pushMark, push, skip, dash]
  have block : dash.around = [] := at_text.around_openHere _
  have indent : dash.indent = column := at_text.indent_openHere inside _
  have gone : dash.approach = .ok ((near.openHere .blockSequenceStart).resume
      ⟨more, near.cursor.index + 1 + 1, near.cursor.line, column + 2⟩ [.blockEntry]) := by
    have skipped := approach_spaces 1 (s := dash) rfl out rfl block
    rwa [unwind_of_le] at skipped
    rw [indent]
    omega
  refine ⟨_, _, '-', dash, ?_, told.trans read, gone, ?_⟩
  · rw [Cursor.peek, at_text.rest]
    rfl
  · rw [at_text.rest]
    exact Nat.lt_add_of_pos_right (by decide : 0 < 2)

/-- The scanner behind a scalar that may be a key. -/
def hold (s : Scanner) (cursor : Cursor) (key : String) : Scanner :=
  { s with
    cursor
    tokens := .scalar true key :: s.tokens
    keyAllowed := false
    possible := some ⟨s.tokens.length, !s.inFlow && s.indent == s.cursor.column, s.cursor.index,
      s.cursor.line, s.cursor.column⟩ }

/-- The scanner behind a key and its colon. The key opens a map if it is deeper than the block. -/
def passKey (s : Scanner) (cursor : Cursor) (key : String) : Scanner :=
  { (s.openHere .blockMappingStart).resume cursor [.key, .scalar true key, .value] with
    keyAllowed := false }

/-- A colon makes a key of the scalar before it. -/
theorem value_hold {s : Scanner} (block : s.around = []) (rest : List Char)
    (index row column : Nat) (key : String) :
    (s.hold ⟨':' :: rest, index, row, column⟩ key).value =
      .ok (s.passKey ⟨rest, index + 1, row, column + 1⟩ key) := by
  have mark : isBreak ':' = false := rfl
  have behind : s.tokens.length + 1 + 1 - s.tokens.length = 2 := by
    rw [Nat.add_assoc, Nat.add_sub_cancel_left]
  by_cases deeper : s.indent < s.cursor.column
  · simp [value, hold, passKey, pushAt, openBlock?, openHere, deeper, inFlow, block, pushMark, push,
      resume, Cursor.skip, Cursor.advance, List.insertIdx, mark, behind]
    rfl
  · simp [value, hold, passKey, pushAt, openBlock?, openHere, deeper, inFlow, block, pushMark, push,
      resume, Cursor.skip, Cursor.advance, List.insertIdx, mark]
    rfl

/-- A word is a scalar, and the scanner stands in front of the colon behind it. -/
theorem passes_word {near : Scanner} {key more : List Char} {blank : Char} {column : Nat}
    (at_text : At near (key ++ ':' :: blank :: more) column) (word : isWord key = true)
    (ends : isBlankOrEnd (some blank) = true) (allowed : near.keyAllowed = true)
    (inside : near.indent ≤ column) :
    Passes near (near.hold ⟨':' :: blank :: more, near.cursor.index + key.length, near.cursor.line,
      column + key.length⟩ (String.ofList key)) := by
  cases key with
  | nil => cases word
  | cons c cs =>
    simp only [isWord, Bool.and_eq_true, List.all_eq_true, decide_eq_true_eq] at word
    obtain ⟨⟨-, letters⟩, short⟩ := word
    obtain ⟨line, visible, plain⟩ := wordChar_plain (letters c List.mem_cons_self)
    have told := token_plain at_text.rest (.inr (letters c List.mem_cons_self)) at_text.block
      visible (.inl plain)
    let colon := near.hold ⟨':' :: blank :: more, near.cursor.index + (c :: cs).length,
      near.cursor.line, column + (c :: cs).length⟩ (String.ofList (c :: cs))
    have scanned : near.plainScalar = .ok colon := by
      have read := readPlain_key letters ends more (near.indent + 1) near.cursor.rest.length
        near.cursor.index near.cursor.line column
      rw [← at_text.cursor_eq] at read
      exact plainScalar_of_read (saveKey_of_allowed at_text.free allowed) at_text.block read
    have approached : colon.approach = .ok colon := by
      -- The word is short enough to be a key still.
      have kept : colon.dropStale = .ok colon := by
        apply dropStale_of_fresh
        simp only [colon, hold, at_text.block, List.mem_cons, List.not_mem_nil, or_false]
        rintro _ rfl key ⟨⟩
        have recent : ¬ 1024 < near.cursor.index + (c :: cs).length - near.cursor.index := by omega
        simp only [isStale, bne_self_eq_false, recent, decide_false, Bool.or_false]
      have gone := approach_of (skipToToken_spaces 0 (s := colon) rfl rfl) kept
      rwa [unwind_of_le] at gone
      simp only [colon, hold]
      omega
    refine ⟨c, colon, ?_, told.trans scanned, approached, ?_⟩
    · rw [Cursor.peek, at_text.rest]
      rfl
    · rw [at_text.rest]
      simp only [hold, List.length_cons, List.length_append]
      omega

/-- A word with a colon behind it is a key, and the scanner goes on behind the colon. -/
theorem reaches_behind_key {near : Scanner} {key more : List Char} {blank : Char} {column : Nat}
    (at_text : At near (key ++ ':' :: blank :: more) column) (word : isWord key = true)
    (ends : isBlankOrEnd (some blank) = true) (allowed : near.keyAllowed = true)
    (inside : near.indent ≤ column) :
    ∃ index row place, column < place ∧ ∀ next : Scanner,
      (near.passKey ⟨blank :: more, index, row, place⟩ (String.ofList key)).approach = .ok next →
      next.cursor.rest.length < more.length + 2 → Reaches near next := by
  let colon := near.hold ⟨':' :: blank :: more, near.cursor.index + key.length, near.cursor.line,
    column + key.length⟩ (String.ofList key)
  have told : colon.token ':' = colon.value := by
    have dashes : colon.cursor.atSeparator '-' = false := by simp [Cursor.atSeparator, colon, hold]
    have dots : colon.cursor.atSeparator '.' = false := by simp [Cursor.atSeparator, colon, hold]
    have next : colon.cursor.peekAt 1 = some blank := rfl
    simp [token, dashes, dots, next, ends]
  refine ⟨near.cursor.index + key.length + 1, near.cursor.line, column + key.length + 1, by omega,
    fun next approaches shorter => ?_⟩
  have value : Passes colon next :=
    ⟨':', _, rfl, told.trans (value_hold at_text.block _ _ _ _ _), approaches, shorter⟩
  exact .head (passes_word at_text word ends allowed inside) (.single value)

/-- Behind a key on the line, its value begins there. -/
theorem reaches_value_beside {near : Scanner} {key more : List Char} {column : Nat}
    (at_text : At near (key ++ ':' :: ' ' :: more) column) (word : isWord key = true)
    (out : standsOut more = true) (allowed : near.keyAllowed = true)
    (inside : near.indent ≤ column) :
    ∃ index row place, column < place ∧
      Reaches near (near.passKey ⟨more, index, row, place⟩ (String.ofList key)) := by
  have block := at_text.around_openHere .blockMappingStart
  have indent := at_text.indent_openHere inside .blockMappingStart
  obtain ⟨index, row, place, beyond, reaches⟩ :=
    reaches_behind_key at_text word rfl allowed inside
  let behind := near.passKey ⟨' ' :: more, index, row, place⟩ (String.ofList key)
  refine ⟨index + 1, row, place + 1, by omega, reaches _ ?_ ?_⟩
  · rw [approach_spaces 1 (s := behind) rfl out rfl block, unwind_of_le]
    · rfl
    · simp only [behind, passKey, resume, indent]
      omega
  · exact Nat.lt_add_of_pos_right (by decide : 0 < 2)

/-- Behind a key at the end of a line, its value begins on the next one. -/
theorem reaches_value_below {near : Scanner} {key more : List Char} {count column : Nat}
    (at_text : At near (key ++ ':' :: '\n' :: (spaces count ++ more)) column)
    (word : isWord key = true) (out : standsOut more = true) (allowed : near.keyAllowed = true)
    (inside : near.indent ≤ column) (deeper : column ≤ count) :
    ∃ index row, Reaches near ((near.openHere .blockMappingStart).resume ⟨more, index, row, count⟩
      [.key, .scalar true (String.ofList key), .value]) := by
  have block := at_text.around_openHere .blockMappingStart
  have indent := at_text.indent_openHere inside .blockMappingStart
  obtain ⟨index, row, place, beyond, reaches⟩ :=
    reaches_behind_key at_text word rfl allowed inside
  let behind := near.passKey ⟨'\n' :: (spaces count ++ more), index, row, place⟩ (String.ofList key)
  refine ⟨index + 1 + count, row + 1, reaches _ ?_ ?_⟩
  · rw [approach_newline count (s := behind) rfl out nofun block, unwind_of_le]
    · rfl
    · simp only [behind, passKey, resume, indent]
      omega
  · rw [List.length_append]
    simp only [resume]
    omega

/-! ### Members of blocks -/

/-- Whether a text at a column is read as members of a block, which they open if it is not open. -/
def ReadsMembers (start : Token) (column : Nat) (text : List Char) (tokens : List Token) : Prop :=
  ∀ ⦃near : Scanner⦄ ⦃tail : List Char⦄ ⦃count : Nat⦄,
    At near (text ++ (spaces count ++ tail)) column → startsLine tail = true →
    near.keyAllowed = true → near.indent ≤ column → count ≤ column →
    ∃ index row, Reaches near
      (unwind count ((near.openHere start).resume ⟨tail, index, row, count⟩ tokens))

/-- The members on the lines behind some members belong to the same block. -/
theorem ReadsMembers.append {start : Token} {column : Nat} {text more : List Char}
    {tokens rest : List Token} (first : ReadsMembers start column text tokens)
    (second : ReadsMembers start column more rest)
    (starts : ∀ tail, startsLine (more ++ tail) = true) :
    ReadsMembers start column (text ++ (spaces column ++ more)) (tokens ++ rest) := by
  intro near tail count at_text ends allowed inside shallow
  have here : At near (text ++ (spaces column ++ (more ++ (spaces count ++ tail)))) column := by
    simpa using at_text
  obtain ⟨index, row, reaches⟩ := first here (starts _) allowed inside (Nat.le_refl column)
  have indent := at_text.indent_openHere inside start
  have block := at_text.around_openHere start
  rw [unwind_of_le (by simp [indent])] at reaches
  let behind :=
    (near.openHere start).resume ⟨more ++ (spaces count ++ tail), index, row, column⟩ tokens
  -- The block is open, so that the members behind open no other one.
  have opened : behind.openHere start = behind := openHere_of_le (by simp [behind, indent])
  obtain ⟨index', row', reaches'⟩ :=
    second (At.of_resume block _ index row column tokens) ends rfl (by simp [indent]) shallow
  rw [opened, resume_resume] at reaches'
  exact ⟨index', row', reaches.trans reaches'⟩

/-- A block is its members between the tokens of its start and its end. -/
theorem ReadsMembers.reaches {start : Token} {column count : Nat} {text tail : List Char}
    {tokens : List Token} (reads : ReadsMembers start column text tokens) {near : Scanner}
    (at_text : At near (text ++ (spaces count ++ tail)) column) (ends : startsLine tail = true)
    (allowed : near.keyAllowed = true) (inside : near.indent < column)
    (shallow : (count : Int) ≤ near.indent) :
    ∃ index row, Reaches near (unwind count
      (near.resume ⟨tail, index, row, count⟩ (start :: tokens ++ [.blockEnd]))) := by
  obtain ⟨index, row, reaches⟩ := reads at_text ends allowed (Int.le_of_lt inside) (by omega)
  rw [unwind_opened at_text.block (by rwa [at_text.column]) shallow] at reaches
  exact ⟨index, row, reaches⟩

end Scanner
end NodeDataplane.Yaml
