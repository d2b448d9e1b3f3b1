import NodeDataplane.Document.Yaml.Tree

/-!
# Reading nodes from tokens

A reader looks at the next token, or takes some tokens and leaves the rest. `Sees` and `Takes` say
so of a reader whatever the rest is, and go along with the way readers are put together.

## Main results

- `Tree.takes_scalar`, `Tree.takes_square`, `Tree.takes_curly`, `Tree.takes_list`,
  `Tree.takes_map`: the nodes of plain scalars, empty brackets and blocks.
- `Tree.takes_item`, `Tree.takes_entry`: the members of blocks.
- `Tree.ofTokens_of_takes`: a node that takes all tokens is the document.
-/

namespace NodeDataplane.Yaml

variable {α β : Type}

/-! ### Looking at a token -/

/-- Whether a token is the first one of a node without a name and a tag. -/
def Token.startsNode : Token → Bool
  | scalar _ _ => true
  | flowSequenceStart => true
  | flowMappingStart => true
  | blockSequenceStart => true
  | blockMappingStart => true
  | _ => false

theorem Token.ne_broken_of_startsNode {t : Token} (starts : t.startsNode = true)
    (fault : DocumentFault) : t ≠ .broken fault := by
  rintro rfl
  cases starts

/-- Whether a reader takes nothing where some token follows, and what it returns. -/
def Sees (reader : Reader α) (t : Token) (value : α) : Prop :=
  ∀ r, r.tokens.head? = some t → reader.run r = .ok (value, r)

namespace Sees

theorem pure (t : Token) (value : α) : Sees (Pure.pure value) t value := fun _ _ => rfl

theorem bind {reader : Reader α} {next : α → Reader β} {t : Token} {a : α} {b : β}
    (first : Sees reader t a) (second : Sees (next a) t b) : Sees (reader >>= next) t b := by
  intro r here
  rw [StateT.run_bind, first r here]
  exact second r here

theorem peek {t : Token} (sound : ∀ fault, t ≠ .broken fault) : Sees Reader.peek t (some t) := by
  intro r here
  unfold Reader.peek
  rw [StateT.run_bind, StateT.run_get]
  simp only [pure_bind, here]
  cases t with
  | broken fault => exact absurd rfl (sound fault)
  | _ => rfl

theorem nextIn {t : Token} (sound : ∀ fault, t ≠ .broken fault) (among : List Token) :
    Sees (Reader.nextIn among) t (among.contains t) :=
  (peek sound).bind (pure t _)

theorem properties {t : Token} (starts : t.startsNode = true) :
    Sees Properties.read t ⟨none, none⟩ := by
  have sound := Token.ne_broken_of_startsNode starts
  have no_anchor : Sees Properties.readAnchor t none := by
    refine (peek sound).bind ?_
    cases t <;> first | exact pure _ _ | cases starts
  have no_tag : Sees Properties.readTag t none := by
    refine (peek sound).bind ?_
    cases t <;> first | exact pure _ _ | cases starts
  exact no_anchor.bind (no_tag.bind (pure t _))

end Sees

/-! ### Taking tokens -/

/-- Whether a reader takes some tokens and no others outside of all nodes with names, if there is
room for a number of levels, and what it makes of them. -/
def Takes (levels : Nat) (reader : Reader α) (tokens : List Token) (value : α) : Prop :=
  ∀ r more, r.tokens = tokens ++ more → r.around = [] → levels ≤ r.room →
    reader.run r = .ok (value, { r with tokens := more })

namespace Takes

variable {levels : Nat}

theorem pure (value : α) : Takes levels (Pure.pure value) [] value := by
  rintro r more rfl - -
  rfl

theorem bind {reader : Reader α} {next : α → Reader β} {tokens rest : List Token} {a : α} {b : β}
    (first : Takes levels reader tokens a) (second : Takes levels (next a) rest b) :
    Takes levels (reader >>= next) (tokens ++ rest) b := by
  intro r more all unnamed room
  rw [List.append_assoc] at all
  have run := first r (rest ++ more) all unnamed room
  have run' := second { r with tokens := rest ++ more } more rfl unnamed room
  rw [StateT.run_bind, run]
  exact run'

theorem map {reader : Reader α} {tokens : List Token} {a : α} (f : α → β)
    (first : Takes levels reader tokens a) :
    Takes levels (reader >>= fun x => Pure.pure (f x)) tokens (f a) := by
  have both : Takes levels (reader >>= fun x => Pure.pure (f x)) (tokens ++ []) (f a) :=
    first.bind (pure (f a))
  rwa [List.append_nil] at both

theorem after_look {reader : Reader α} {next : α → Reader β} {t : Token} {rest : List Token} {a : α}
    {b : β} (look : Sees reader t a) (first : Takes levels (next a) (t :: rest) b) :
    Takes levels (reader >>= next) (t :: rest) b := by
  intro r more all unnamed room
  rw [StateT.run_bind, look r (by rw [all]; rfl)]
  exact first r more all unnamed room

theorem after_skip {reader : Reader β} {t : Token} {rest : List Token} {b : β}
    (behind : Takes levels reader rest b) :
    Takes levels (Reader.skip >>= fun _ => reader) (t :: rest) b := by
  intro r more all unnamed room
  have skipped : Reader.skip.run r = .ok ((), { r with tokens := rest ++ more }) := by
    simp [Reader.skip, all]
    rfl
  rw [StateT.run_bind, skipped]
  exact behind { r with tokens := rest ++ more } more rfl unnamed room

/-- A list or a map takes one level more than its members. -/
theorem nested {content : Reader Tree} {tokens : List Token} {tree : Tree}
    (inside : Takes levels content tokens tree) :
    Takes (levels + 1) (Reader.nested content) tokens tree := by
  intro r more all unnamed room
  have enough : r.room ≠ 0 := by omega
  have again : r.room - 1 + 1 = r.room := by omega
  have read : content.run { r with room := r.room - 1 } =
      Pure.pure (tree, { r with tokens := more, room := r.room - 1 }) :=
    inside { r with room := r.room - 1 } more all unnamed (by simp only; omega)
  unfold Reader.nested
  rw [StateT.run_bind, StateT.run_get, pure_bind, if_neg enough, StateT.run_bind, StateT.run_set,
    pure_bind, StateT.run_bind, read, pure_bind, StateT.run_bind, StateT.run_modify, pure_bind,
    StateT.run_pure]
  simp only [unnamed, again, List.isEmpty_nil, if_true]
  rfl

end Takes

/-! ### Nodes -/

namespace Tree

variable {levels : Nat}

theorem takes_scalar (fuel : Nat) (block indentless : Bool) (text : String) :
    Takes levels (readNode (fuel + 1) block indentless) [.scalar true text]
      (scalar .plain text) := by
  rw [readNode]
  refine .after_look (.peek nofun) (.after_look (.properties rfl) (.after_look (.peek nofun) ?_))
  exact .after_skip (.pure _)

theorem takes_flowEnd (closing : Token) (sound : ∀ fault, closing ≠ .broken fault) :
    Takes levels (atFlowEnd true closing) [closing] true := by
  have here : [closing].contains closing = true := by simp
  have look := Sees.nextIn sound [closing]
  rw [here] at look
  rw [atFlowEnd]
  exact .after_look look (.after_look look (.after_skip (.pure true)))

theorem takes_square (fuel : Nat) (block indentless : Bool) :
    Takes (levels + 1) (readNode (fuel + 2) block indentless)
      [.flowSequenceStart, .flowSequenceEnd] (sequence none []) := by
  have ended : Takes levels (readFlowItems (fuel + 1) true) [.flowSequenceEnd] [] := by
    rw [readFlowItems]
    exact (takes_flowEnd .flowSequenceEnd nofun).bind (.pure [])
  rw [readNode]
  refine .after_look (.peek nofun) (.after_look (.properties rfl) (.after_look (.peek nofun) ?_))
  exact .nested (.after_skip (.map _ ended))

theorem takes_curly (fuel : Nat) (block indentless : Bool) :
    Takes (levels + 1) (readNode (fuel + 2) block indentless) [.flowMappingStart, .flowMappingEnd]
      (mapping none []) := by
  have ended : Takes levels (readFlowEntries (fuel + 1) true) [.flowMappingEnd] [] := by
    rw [readFlowEntries]
    exact (takes_flowEnd .flowMappingEnd nofun).bind (.pure [])
  rw [readNode]
  refine .after_look (.peek nofun) (.after_look (.properties rfl) (.after_look (.peek nofun) ?_))
  exact .nested (.after_skip (.map _ ended))

theorem takes_list {fuel : Nat} {tokens : List Token} {items : List Tree}
    (members : Takes levels (readBlockItems fuel) tokens items) (indentless : Bool) :
    Takes (levels + 1) (readNode (fuel + 1) true indentless) (.blockSequenceStart :: tokens)
      (sequence none items) := by
  rw [readNode]
  refine .after_look (.peek nofun) (.after_look (.properties rfl) (.after_look (.peek nofun) ?_))
  exact .nested (.after_skip (.map _ members))

theorem takes_map {fuel : Nat} {tokens : List Token} {entries : List (Tree × Tree)}
    (members : Takes levels (readBlockEntries fuel) tokens entries) (indentless : Bool) :
    Takes (levels + 1) (readNode (fuel + 1) true indentless) (.blockMappingStart :: tokens)
      (mapping none entries) := by
  rw [readNode]
  refine .after_look (.peek nofun) (.after_look (.properties rfl) (.after_look (.peek nofun) ?_))
  exact .nested (.after_skip (.map _ members))

/-! ### Members of lists and maps -/

theorem takes_item {fuel : Nat} {tokens : List Token} {t : Token} {item : Tree}
    (node : Takes levels (readNode fuel true false) (t :: tokens) item)
    (starts : t.startsNode = true) {rest : List Token} {items : List Tree}
    (members : Takes levels (readBlockItems fuel) rest items) :
    Takes levels (readBlockItems (fuel + 1)) (.blockEntry :: (t :: tokens ++ rest))
      (item :: items) := by
  have sound := Token.ne_broken_of_startsNode starts
  have inside : [Token.blockEntry, .blockEnd].contains t = false := by
    cases t <;> first | rfl | cases starts
  rw [readBlockItems]
  refine .after_look (.peek nofun) (.after_skip (.after_look (.nextIn sound _) ?_))
  rw [inside]
  exact node.bind (.map _ members)

theorem takes_blockPart {fuel : Nat} {tokens : List Token} {t : Token} {tree : Tree}
    (node : Takes levels (readNode fuel true true) (t :: tokens) tree)
    (starts : t.startsNode = true) :
    Takes levels (readBlockPart (fuel + 1)) (t :: tokens) tree := by
  have sound := Token.ne_broken_of_startsNode starts
  have inside : [Token.key, .value, .blockEnd].contains t = false := by
    cases t <;> first | rfl | cases starts
  rw [readBlockPart]
  refine .after_look (.nextIn sound _) ?_
  rw [inside]
  exact node

theorem takes_entry {fuel : Nat} {tokens : List Token} {t : Token} {value : Tree}
    (node : Takes levels (readNode fuel true true) (t :: tokens) value)
    (starts : t.startsNode = true) {rest : List Token} {entries : List (Tree × Tree)}
    (members : Takes levels (readBlockEntries (fuel + 2)) rest entries) (key : String) :
    Takes levels (readBlockEntries (fuel + 3))
      (.key :: .scalar true key :: .value :: (t :: tokens ++ rest))
      ((scalar .plain key, value) :: entries) := by
  have key_part : Takes levels (readBlockPart (fuel + 2)) [.scalar true key] (scalar .plain key) :=
    takes_blockPart (takes_scalar fuel true true key) rfl
  have value_part : Takes levels (readBlockValue (fuel + 2)) (.value :: t :: tokens) value := by
    have here : [Token.value].contains .value = true := rfl
    rw [readBlockValue]
    refine .after_look (.nextIn (t := .value) nofun [.value]) ?_
    rw [if_pos here]
    exact .after_skip (takes_blockPart node starts)
  rw [readBlockEntries]
  refine .after_look (.peek nofun) (.after_skip ?_)
  exact key_part.bind (value_part.bind (.map _ members))

theorem takes_blockEnd_items (fuel : Nat) :
    Takes levels (readBlockItems (fuel + 1)) [.blockEnd] [] := by
  rw [readBlockItems]
  exact .after_look (.peek nofun) (.after_skip (.pure []))

theorem takes_blockEnd_entries (fuel : Nat) :
    Takes levels (readBlockEntries (fuel + 1)) [.blockEnd] [] := by
  rw [readBlockEntries]
  exact .after_look (.peek nofun) (.after_skip (.pure []))

/-- A node that takes all tokens is the document, if there is room for its levels. -/
theorem ofTokens_of_takes {t : Token} {tokens : List Token} {tree : Tree}
    (starts : t.startsNode = true)
    (node : Takes levels (readNode (3 * (t :: tokens).length + 3) true false) (t :: tokens) tree)
    (room : levels ≤ maxNesting) : ofTokens (t :: tokens) = .ok (some tree) := by
  have sound := Token.ne_broken_of_startsNode starts
  have run := node (.start (t :: tokens)) [] (List.append_nil _).symm rfl room
  have root : readRoot.run (.start (t :: tokens)) = .ok (tree, .start []) := by
    rw [readRoot, StateT.run_bind, StateT.run_get, pure_bind]
    exact run
  have first : readFirst.run (.start (t :: tokens)) = .ok (some tree, .start []) := by
    have taken : (do return some (← readRoot) : Reader (Option Tree)).run (.start (t :: tokens)) =
        .ok (some tree, .start []) := by
      rw [StateT.run_bind, root]
      rfl
    rw [readFirst, StateT.run_bind, Sees.peek sound _ rfl]
    cases t <;> first | exact taken | cases starts
  -- Nothing is left to stand behind the document.
  have all : (do
      let tree ← readFirst
      readEnd
      return tree : Reader (Option Tree)).run (.start (t :: tokens)) =
        .ok (some tree, .start []) := by
    rw [StateT.run_bind, first]
    rfl
  rw [ofTokens, all]
  rfl

end Tree

end NodeDataplane.Yaml
