import NodeDataplane.Document.Json
import NodeDataplane.Document.Yaml.Tagged
import NodeDataplane.Proofs.Yaml.PlainLine

/-!
# Outlines

An outline is a document in which all that is told is told by texts: lists and maps of texts, with
words as keys. It can be written as a JSON text, with its texts as strings, and as a YAML text in
blocks, with its texts as plain scalars. What a text is read as is left open, as the formats differ
in nothing else.

## Main results

- `Outline.induct`: what holds of texts and of what is made of members holds of all outlines.
-/

namespace NodeDataplane

/-- A text that can stand in a YAML text as it is: on one line and without quotes. -/
structure PlainText where
  text : String
  plain : Yaml.isPlain text.toList = true
  deriving DecidableEq, Repr

/-- A word that names a field, and means itself in a YAML text. -/
structure FieldName where
  text : String
  word : Yaml.isWord text.toList = true
  means : Yaml.plainValue text = .ok (.string text)

theorem lineChar_key (key : FieldName) : ∀ c ∈ key.text.toList, Yaml.isLineChar c = true := by
  intro c mem
  have word := key.word
  simp only [Yaml.isWord, Bool.and_eq_true, List.all_eq_true] at word
  exact (Yaml.wordChar_plain (word.1.2 c mem)).1

theorem lineChar_text (t : PlainText) : ∀ c ∈ t.text.toList, Yaml.isLineChar c = true := by
  have plain := t.plain
  simp only [Yaml.isPlain, Bool.and_eq_true] at plain
  exact Yaml.lineChar_of_goesOn plain.1

/-- Texts in lists and in maps. -/
inductive Outline where
  | text (text : PlainText)
  | list (items : List Outline)
  | map (entries : List (FieldName × Outline))

namespace Outline

/-- What holds of texts, and of lists and maps if it holds of their members, holds of all. -/
@[induction_eliminator]
theorem induct {P : Outline → Prop} (text : ∀ t, P (text t))
    (list : ∀ items, (∀ o ∈ items, P o) → P (list items))
    (map : ∀ entries, (∀ entry ∈ entries, P entry.2) → P (map entries)) (o : Outline) : P o := by
  refine @Outline.rec P (fun items => ∀ o ∈ items, P o)
    (fun entries => ∀ entry ∈ entries, P entry.2) (fun entry => P entry.2)
    text list map ?_ ?_ ?_ ?_ ?_ o
  · simp
  · intro item rest here there
    simpa using ⟨here, there⟩
  · simp
  · intro entry rest here there
    exact List.forall_mem_cons.2 ⟨here, there⟩
  · intro key value here
    exact here

mutual

/-- The document that an outline is, as its texts are read. -/
def document (value : String → Document) : Outline → Document
  | text t => value t.text
  | list items => .list (itemDocuments value items)
  | map entries => Document.ofEntries (entryDocuments value entries)

def itemDocuments (value : String → Document) : List Outline → List Document
  | [] => []
  | item :: rest => document value item :: itemDocuments value rest

def entryDocuments (value : String → Document) :
    List (FieldName × Outline) → List (Document × Document)
  | [] => []
  | (key, content) :: rest =>
    (.string key.text, document value content) :: entryDocuments value rest

end

mutual

/-- The texts that an outline is made of, in their order. -/
def texts : Outline → List PlainText
  | text t => [t]
  | list items => itemTexts items
  | map entries => entryTexts entries

def itemTexts : List Outline → List PlainText
  | [] => []
  | item :: rest => texts item ++ itemTexts rest

def entryTexts : List (FieldName × Outline) → List PlainText
  | [] => []
  | (_, content) :: rest => texts content ++ entryTexts rest

end

mutual

/-- How many lists and maps are inside each other. -/
def depth : Outline → Nat
  | text _ => 0
  | list items => itemsDepth items + 1
  | map entries => entriesDepth entries + 1

def itemsDepth : List Outline → Nat
  | [] => 0
  | item :: rest => max (depth item) (itemsDepth rest)

def entriesDepth : List (FieldName × Outline) → Nat
  | [] => 0
  | (_, content) :: rest => max (depth content) (entriesDepth rest)

end

theorem itemsDepth_le_iff {items : List Outline} {n : Nat} :
    itemsDepth items ≤ n ↔ ∀ o ∈ items, o.depth ≤ n := by
  induction items with
  | nil => simp [itemsDepth]
  | cons item rest ih => rw [itemsDepth, Nat.max_le, ih, List.forall_mem_cons]

theorem entriesDepth_le_iff {entries : List (FieldName × Outline)} {n : Nat} :
    entriesDepth entries ≤ n ↔ ∀ entry ∈ entries, entry.2.depth ≤ n := by
  induction entries with
  | nil => simp [entriesDepth]
  | cons entry rest ih => rw [entriesDepth, Nat.max_le, ih, List.forall_mem_cons]

/-! ### Writing JSON -/

def escape (c : Char) : List Char := if c == '"' || c == '\\' then ['\\', c] else [c]

def quote (s : String) : List Char := '"' :: s.toList.flatMap escape ++ ['"']

mutual

/-- An outline on one line, with a blank behind each comma and each colon. -/
def json : Outline → List Char
  | text t => quote t.text
  | list items => '[' :: jsonItems items ++ [']']
  | map entries => '\x7b' :: jsonEntries entries ++ ['\x7d']

def jsonItems : List Outline → List Char
  | [] => []
  | item :: rest => json item ++ (if rest.isEmpty then [] else ',' :: ' ' :: jsonItems rest)

def jsonEntries : List (FieldName × Outline) → List Char
  | [] => []
  | (key, content) :: rest =>
    quote key.text ++ ':' :: ' ' :: json content ++
      (if rest.isEmpty then [] else ',' :: ' ' :: jsonEntries rest)

end

/-! ### Writing YAML -/

open Yaml.Cursor (spaces)

/-- Whether an outline stands on the line of its key. -/
def isInline : Outline → Bool
  | text _ => true
  | list items => items.isEmpty
  | map entries => entries.isEmpty

mutual

/-- The lines of an outline at a column. The first one starts there, behind what is in front. -/
def block (column : Nat) : Outline → List Char
  | text t => t.text.toList ++ ['\n']
  | list items => if items.isEmpty then "[]\n".toList else (itemLines column items).drop column
  | map entries =>
    if entries.isEmpty then "\x7b\x7d\n".toList else (entryLines column entries).drop column

def itemLines (column : Nat) : List Outline → List Char
  | [] => []
  | item :: rest =>
    spaces column ++ '-' :: ' ' :: (block (column + 2) item ++ itemLines column rest)

/-- The lines of entries. A value that has lines of its own stands below its key. -/
def entryLines (column : Nat) : List (FieldName × Outline) → List Char
  | [] => []
  | (key, content) :: rest =>
    let gap := if content.isInline then [' '] else '\n' :: spaces (column + 2)
    spaces column ++ key.text.toList ++
      ':' :: (gap ++ (block (column + 2) content ++ entryLines column rest))

end

/-- An outline in lines, two columns deeper for each list and each map. -/
def yaml (o : Outline) : List Char := block 0 o

end Outline

end NodeDataplane
