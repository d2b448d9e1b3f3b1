import NodeDataplane.Proofs.Outline.Basic
import NodeDataplane.Proofs.Yaml.BlockScan

/-!
# The tokens of an outline

The lines that an outline is written in are read as its tokens: a block for each list and each map
that has members, brackets for those that have none, and a scalar for each text.

## Main results

- `scan_yaml`: a map that is written in YAML is read as its tokens.

## Proof strategy

By induction on the outline: it is read where it stands deeper than the block around, up to the next
line that is not (`Scans`). A dash with an item and a key with its value are read as members of a
block (`reads_item`, `reads_entry`), and the members on the lines behind belong to the same one.
-/

namespace NodeDataplane.Outline

open Yaml (Scanner Token isWord isWordChar standsOut startsLine)
open Yaml.Cursor (spaces)
open Yaml.Scanner (At Reaches ReadsMembers)

mutual

/-- The tokens of an outline in a YAML text. -/
def tokens : Outline → List Token
  | text t => [.scalar true t.text]
  | list items =>
    if items.isEmpty then [.flowSequenceStart, .flowSequenceEnd]
    else .blockSequenceStart :: itemTokens items ++ [.blockEnd]
  | map entries =>
    if entries.isEmpty then [.flowMappingStart, .flowMappingEnd]
    else .blockMappingStart :: entryTokens entries ++ [.blockEnd]

def itemTokens : List Outline → List Token
  | [] => []
  | item :: rest => .blockEntry :: tokens item ++ itemTokens rest

def entryTokens : List (FieldName × Outline) → List Token
  | [] => []
  | (key, content) :: rest =>
    .key :: .scalar true key.text :: .value :: tokens content ++ entryTokens rest

end

/-! ### The first line -/

theorem exists_wordChar (key : FieldName) :
    ∃ c cs, key.text.toList = c :: cs ∧ isWordChar c = true := by
  have word := key.word
  cases letters : key.text.toList with
  | nil => simp [letters, isWord] at word
  | cons c cs =>
    simp only [letters, isWord, Bool.and_eq_true, List.all_eq_true] at word
    exact ⟨c, cs, rfl, word.1.2 c List.mem_cons_self⟩

theorem exists_wordChar_entries (column : Nat) {entries : List (FieldName × Outline)}
    (some_entry : entries ≠ []) :
    ∃ c cs, (entryLines column entries).drop column = c :: cs ∧ isWordChar c = true := by
  cases entries with
  | nil => exact absurd rfl some_entry
  | cons entry rest =>
    obtain ⟨c, cs, letters, word⟩ := exists_wordChar entry.1
    refine ⟨c, cs ++ ((entryLines column (entry :: rest)).drop (column + (c :: cs).length)), ?_,
      word⟩
    simp only [entryLines, letters, List.append_assoc]
    rw [List.drop_left' (by simp), ← List.drop_drop, List.drop_left' (by simp),
      List.drop_left' rfl, List.cons_append]

theorem startsLine_items {column : Nat} {items : List Outline} (some_item : items ≠ [])
    (more : List Char) : startsLine ((itemLines column items).drop column ++ more) = true := by
  cases items with
  | nil => exact absurd rfl some_item
  | cons item rest =>
    simp [itemLines, startsLine, standsOut]
    decide

theorem startsLine_entries (column : Nat) {entries : List (FieldName × Outline)}
    (some_entry : entries ≠ []) (more : List Char) :
    startsLine ((entryLines column entries).drop column ++ more) = true := by
  obtain ⟨c, cs, lines, word⟩ := exists_wordChar_entries column some_entry
  rw [lines, List.cons_append]
  exact Yaml.startsLine_of_wordChar word _

theorem standsOut_block (column : Nat) (o : Outline) (more : List Char) :
    standsOut (block column o ++ more) = true := by
  cases o with
  | text t =>
    simpa [block] using Yaml.standsOut_of_isPlain t.plain _
  | list items =>
    by_cases empty : items = []
    · subst empty
      rfl
    · simpa [block, empty] using Yaml.standsOut_of_startsLine (startsLine_items empty more)
  | map entries =>
    by_cases empty : entries = []
    · subst empty
      rfl
    · simpa [block, empty] using Yaml.standsOut_of_startsLine (startsLine_entries column empty more)

/-! ### Tokens -/

/-- Whether an outline that stands deeper than a block is read as its tokens. -/
def Scans (o : Outline) : Prop :=
  ∀ ⦃near : Scanner⦄ ⦃tail : List Char⦄ ⦃count column place : Nat⦄,
    At near (block column o ++ (spaces count ++ tail)) place → startsLine tail = true →
    near.indent < place → (count : Int) ≤ near.indent →
    (o.isInline = true ∨ place = column ∧ near.keyAllowed = true) →
    ∃ index row, Reaches near
      (Scanner.unwind count (near.resume ⟨tail, index, row, count⟩ o.tokens))

theorem reads_item {item : Outline} (scans : Scans item) (column : Nat) :
    ReadsMembers .blockSequenceStart column ('-' :: ' ' :: block (column + 2) item)
      (.blockEntry :: item.tokens) := by
  intro near tail count at_text ends allowed inside shallow
  have here :
      At near ('-' :: ' ' :: (block (column + 2) item ++ (spaces count ++ tail))) column := by
    simpa using at_text
  have indent := at_text.indent_openHere inside .blockSequenceStart
  obtain ⟨index, row, passes⟩ :=
    Scanner.passes_dash here (standsOut_block _ _ _) allowed inside
  have at_item := At.of_resume (at_text.around_openHere .blockSequenceStart)
    (block (column + 2) item ++ (spaces count ++ tail)) index row (column + 2) [.blockEntry]
  obtain ⟨index', row', reaches⟩ := scans at_item ends
    (by simp only [Scanner.indent_resume, indent]; omega) (by simp [indent, shallow])
    (.inr ⟨rfl, rfl⟩)
  rw [Scanner.resume_resume] at reaches
  exact ⟨index', row', .head passes reaches⟩

theorem reads_entry {content : Outline} (scans : Scans content) (key : FieldName) (column : Nat) :
    ReadsMembers .blockMappingStart column
      (key.text.toList ++ ':' ::
        ((if content.isInline then [' '] else '\n' :: spaces (column + 2)) ++
          block (column + 2) content))
      (.key :: .scalar true key.text :: .value :: content.tokens) := by
  intro near tail count at_text ends allowed inside shallow
  have indent := at_text.indent_openHere inside .blockMappingStart
  have around := at_text.around_openHere .blockMappingStart
  have shallow' : (count : Int) ≤ (near.openHere .blockMappingStart).indent := by
    rw [indent]
    exact Int.ofNat_le.2 shallow
  by_cases inline : content.isInline = true
  · -- The value stands on the line of its key.
    have here : At near (key.text.toList ++ ':' :: ' ' ::
        (block (column + 2) content ++ (spaces count ++ tail))) column := by
      simpa [inline] using at_text
    obtain ⟨index, row, place, beyond, reaches⟩ :=
      Scanner.reaches_value_beside here key.word (standsOut_block _ _ _) allowed inside
    let valued := near.passKey
      ⟨block (column + 2) content ++ (spaces count ++ tail), index, row, place⟩
      (String.ofList key.text.toList)
    have at_value : At valued (block (column + 2) content ++ (spaces count ++ tail)) place :=
      ⟨rfl, rfl, around, rfl⟩
    have deeper : valued.indent < place := indent ▸ Int.ofNat_lt.2 beyond
    obtain ⟨index', row', reaches'⟩ := scans at_value ends deeper shallow' (.inl inline)
    refine ⟨index', row', reaches.trans ?_⟩
    simpa [Scanner.resume, Scanner.passKey, valued] using reaches'
  · -- The value is a block on the lines below.
    have here : At near (key.text.toList ++ ':' :: '\n' :: (spaces (column + 2) ++
        (block (column + 2) content ++ (spaces count ++ tail)))) column := by
      simpa [inline] using at_text
    obtain ⟨index, row, reaches⟩ := Scanner.reaches_value_below here key.word
      (standsOut_block _ _ _) allowed inside (Nat.le_add_right column 2)
    have at_value := At.of_resume around (block (column + 2) content ++ (spaces count ++ tail))
      index row (column + 2) [.key, .scalar true (String.ofList key.text.toList), .value]
    obtain ⟨index', row', reaches'⟩ := scans at_value ends
      (by simp only [Scanner.indent_resume, indent]; omega) shallow' (.inr ⟨rfl, rfl⟩)
    refine ⟨index', row', reaches.trans ?_⟩
    simpa using reaches'

theorem itemLines_eq {column : Nat} {items : List Outline} (some_item : items ≠ []) :
    itemLines column items = spaces column ++ (itemLines column items).drop column := by
  cases items with
  | nil => exact absurd rfl some_item
  | cons item rest => simp [itemLines]

theorem entryLines_eq {column : Nat} {entries : List (FieldName × Outline)}
    (some_entry : entries ≠ []) :
    entryLines column entries = spaces column ++ (entryLines column entries).drop column := by
  cases entries with
  | nil => exact absurd rfl some_entry
  | cons entry rest => simp [entryLines]

theorem reads_items {items : List Outline} (scans : ∀ item ∈ items, Scans item)
    (some_item : items ≠ []) (column : Nat) :
    ReadsMembers .blockSequenceStart column ((itemLines column items).drop column)
      (itemTokens items) := by
  induction items with
  | nil => exact absurd rfl some_item
  | cons item rest ih =>
    have first := reads_item (scans item List.mem_cons_self) column
    by_cases last : rest = []
    · subst last
      simpa [itemLines, itemTokens] using first
    · have second := ih (fun o mem => scans o (List.mem_cons_of_mem _ mem)) last
      have both := first.append second (startsLine_items last)
      rw [← itemLines_eq last] at both
      simpa [itemLines, itemTokens] using both

theorem reads_entries {entries : List (FieldName × Outline)}
    (scans : ∀ entry ∈ entries, Scans entry.2) (some_entry : entries ≠ []) (column : Nat) :
    ReadsMembers .blockMappingStart column ((entryLines column entries).drop column)
      (entryTokens entries) := by
  induction entries with
  | nil => exact absurd rfl some_entry
  | cons entry rest ih =>
    obtain ⟨key, content⟩ := entry
    have first := reads_entry (scans (key, content) List.mem_cons_self) key column
    by_cases last : rest = []
    · subst last
      simpa [entryLines, entryTokens] using first
    · have second := ih (fun o mem => scans o (List.mem_cons_of_mem _ mem)) last
      have both := first.append second (startsLine_entries column last)
      rw [← entryLines_eq last] at both
      simpa [entryLines, entryTokens] using both

theorem scans (o : Outline) : Scans o := by
  induction o with
  | text t =>
    intro near tail count column place at_text ends inside shallow _
    have here : At near (t.text.toList ++ '\n' :: (spaces count ++ tail)) place := by
      simpa [block] using at_text
    obtain ⟨index, row, passes⟩ := Scanner.reaches_text here t.plain ends inside shallow
    refine ⟨index, row, .single ?_⟩
    simpa [tokens] using passes
  | list items ih =>
    intro near tail count column place at_text ends inside shallow ready
    by_cases empty : items = []
    · subst empty
      exact Scanner.reaches_brackets .square at_text ends inside shallow
    · obtain ⟨rfl, allowed⟩ := ready.resolve_left (by simpa [isInline] using empty)
      rw [block, if_neg (by simpa using empty)] at at_text
      rw [tokens, if_neg (by simpa using empty)]
      exact (reads_items ih empty place).reaches at_text ends allowed inside shallow
  | map entries ih =>
    intro near tail count column place at_text ends inside shallow ready
    by_cases empty : entries = []
    · subst empty
      exact Scanner.reaches_brackets .curly at_text ends inside shallow
    · obtain ⟨rfl, allowed⟩ := ready.resolve_left (by simpa [isInline] using empty)
      rw [block, if_neg (by simpa using empty)] at at_text
      rw [tokens, if_neg (by simpa using empty)]
      exact (reads_entries ih empty place).reaches at_text ends allowed inside shallow

/-! ### Whole texts -/

theorem lineChar_spaces (count : Nat) :
    ∀ c ∈ spaces count, Yaml.isLineChar c = true ∨ c = '\n' := by
  intro c mem
  rw [List.eq_of_mem_replicate mem]
  decide

theorem lineChar_of_all {cs : List Char}
    (all : (cs.all fun c => Yaml.isLineChar c || c == '\n') = true) :
    ∀ c ∈ cs, Yaml.isLineChar c = true ∨ c = '\n' := by
  simpa using all

/-- An outline is written in the characters of lines, and ends of lines. -/
theorem lineChar_block (o : Outline) (column : Nat) :
    ∀ c ∈ block column o, Yaml.isLineChar c = true ∨ c = '\n' := by
  induction o generalizing column with
  | text t =>
    rw [block, List.forall_mem_append]
    exact ⟨fun c mem => .inl (lineChar_text t c mem), List.forall_mem_singleton.2 (.inr rfl)⟩
  | list items ih =>
    have lines : ∀ c ∈ itemLines column items, Yaml.isLineChar c = true ∨ c = '\n' := by
      induction items with
      | nil => simp [itemLines]
      | cons item rest ih' =>
        simp only [List.forall_mem_cons] at ih
        simp only [itemLines, List.forall_mem_append, List.forall_mem_cons]
        exact ⟨lineChar_spaces column, by decide, by decide, ih.1 (column + 2), ih' ih.2⟩
    rw [block]
    split
    · exact lineChar_of_all (by decide)
    · exact fun c mem => lines c (List.mem_of_mem_drop mem)
  | map entries ih =>
    have lines : ∀ c ∈ entryLines column entries, Yaml.isLineChar c = true ∨ c = '\n' := by
      induction entries with
      | nil => simp [entryLines]
      | cons entry rest ih' =>
        simp only [List.forall_mem_cons] at ih
        have gap : ∀ c ∈ (if entry.2.isInline then [' '] else '\n' :: spaces (column + 2)),
            Yaml.isLineChar c = true ∨ c = '\n' := by
          split
          · exact List.forall_mem_singleton.2 (.inl (by decide))
          · exact List.forall_mem_cons.2 ⟨by decide, lineChar_spaces _⟩
        simp only [entryLines, List.forall_mem_append, List.forall_mem_cons]
        exact ⟨⟨lineChar_spaces column, fun c mem => .inl (lineChar_key entry.1 c mem)⟩, by decide,
          gap, ih.1 (column + 2), ih' ih.2⟩
    rw [block]
    split
    · exact lineChar_of_all (by decide)
    · exact fun c mem => lines c (List.mem_of_mem_drop mem)

theorem isAllowed_yaml (o : Outline) : ∀ c ∈ yaml o, Yaml.isAllowed c = true := by
  intro c mem
  rcases lineChar_block o 0 c mem with line | rfl
  · simp only [Yaml.isLineChar, Bool.and_eq_true] at line
    exact line.1.1.1
  · decide

theorem return_not_mem_yaml (o : Outline) : '\r' ∉ yaml o := by
  intro mem
  rcases lineChar_block o 0 '\r' mem with line | same
  · exact absurd line (by decide)
  · exact absurd same (by decide)

/-- A map that is written in YAML is read as its tokens. -/
theorem scan_yaml {entries : List (FieldName × Outline)} (some_entry : entries ≠ []) :
    Token.scan (yaml (map entries)) = tokens (map entries) := by
  have text : yaml (map entries) = (entryLines 0 entries).drop 0 := by
    rw [yaml, block, if_neg (by simpa using some_entry)]
  have first : (yaml (map entries)).head? ≠ some '\ufeff' := by
    obtain ⟨c, cs, lines, word⟩ := exists_wordChar_entries 0 some_entry
    rw [text, lines, List.head?_cons, ne_eq, Option.some.injEq]
    rintro rfl
    exact absurd word (by decide)
  have allowed : (yaml (map entries)).all Yaml.isAllowed = true :=
    List.all_eq_true.2 (isAllowed_yaml _)
  let near := Scanner.start (yaml (map entries))
  have here : At near ((entryLines 0 entries).drop 0 ++ (spaces 0 ++ [])) 0 :=
    ⟨by simp [near, Scanner.start, Yaml.Cursor.start, text], rfl, rfl, rfl⟩
  have outside : near.indent = -1 := rfl
  have deeper : near.indent < (0 : Nat) := by
    rw [outside]
    decide
  obtain ⟨index, row, reaches⟩ := reads_entries (fun entry _ => scans entry.2) some_entry 0 here rfl
    rfl (Int.le_of_lt deeper) (Nat.le_refl 0)
  have indent := here.indent_openHere (Int.le_of_lt deeper) .blockMappingStart
  rw [Scanner.unwind_of_le (by simp [indent])] at reaches
  have approached : near.approach = .ok near := by
    have out := Yaml.standsOut_of_startsLine (startsLine_entries 0 some_entry [])
    rw [List.append_nil, ← text] at out
    exact (Scanner.approach_here out rfl rfl).trans
      (congrArg Except.ok (Scanner.unwind_of_le (Int.le_of_lt deeper)))
  have read := Scanner.run_of_reaches reaches rfl rfl approached (Nat.lt_succ_self _)
  -- The map ends with the text.
  rw [Scanner.unwind_opened rfl deeper (Int.le_of_eq outside.symm),
    Scanner.unwind_of_le (s := near.resume _ _) (Int.le_of_eq outside)] at read
  rw [Token.scan, allowed]
  simp only [Bool.not_true, Bool.false_eq_true, if_false, first]
  refine read.trans ?_
  simp [Scanner.resume, near, Scanner.start, tokens, some_entry]

end NodeDataplane.Outline
