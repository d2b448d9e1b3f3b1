import NodeDataplane.Watcher

/-!
# What a document changes

The events between two tables of nodes, and the table that a document asks for.

## Main results

- `mem_changes_iff`: the events are about the names on which the tables differ, and tell what the
  new table says.
- `map_name_upserts`, `pairwise_goneNames`: the order of the events.
- `Listing.addAll_eq_ok_iff`: what is taken over from the entries of a document.
- `Listing.get?_withLastGood`: what the table says that a document asks for.
- `Listing.map_name_upserts_sublist`: the order in which the nodes of a document are announced.
-/

namespace NodeDataplane

variable {revision : String} {old new : NodeTable}

/-! ### Which events there are -/

theorem mem_deletes_iff {e : NodeEvent} :
    e ∈ deletes revision old new ↔
      (old.get? e.name).isSome ∧ new.get? e.name = none ∧ e = ⟨e.name, none, revision⟩ := by
  rw [deletes, List.mem_map]
  constructor
  · rintro ⟨name, gone, rfl⟩
    rw [mem_goneNames_iff] at gone
    exact ⟨gone.1, gone.2, rfl⟩
  · rintro ⟨before, gone, told⟩
    exact ⟨e.name, mem_goneNames_iff.2 ⟨before, gone⟩, told.symm⟩

/-- There is one event for each name on which the tables differ, with what the new table says. -/
theorem mem_changes_iff {e : NodeEvent} :
    e ∈ changes revision old new ↔
      old.get? e.name ≠ new.get? e.name ∧ e = ⟨e.name, new.get? e.name, revision⟩ := by
  rw [changes, List.mem_append, mem_upserts_iff, mem_deletes_iff]
  -- A name is announced by an upsert or by a delete, as the new table has it or not.
  cases present : new.get? e.name with
  | none => simp [Option.ne_none_iff_isSome]
  | some node => simp

theorem changes_eq_nil (h : ∀ name, old.get? name = new.get? name) :
    changes revision old new = [] := by
  rw [List.eq_nil_iff_forall_not_mem]
  intro e member
  exact (mem_changes_iff.1 member).1 (h e.name)

/-! ### The order of events -/

theorem map_name_upserts :
    (upserts revision old new).map (·.name) =
      new.keys.filter fun name => old.get? name ≠ new.get? name := by
  have names : (upserts revision old new).map (·.name) =
      (new.entries.filter fun entry => old.get? entry.1 ≠ some entry.2).map (·.1) := by
    rw [upserts, List.map_map]
    rfl
  rw [names, Table.keys, List.filter_map]
  congr 1
  apply List.filter_congr
  intro entry member
  have present : new.get? entry.1 = some entry.2 := Table.mem_entries_iff.1 member
  simp [present]

theorem map_name_deletes : (deletes revision old new).map (·.name) = goneNames old new := by
  rw [deletes, List.map_map]
  exact List.map_id _

theorem nodup_goneNames : (goneNames old new).Nodup := by
  have kept : (old.keys.filter fun name => !new.contains name).Nodup := old.nodup_keys.filter _
  exact (List.mergeSort_perm _ _).nodup_iff.2 kept

theorem pairwise_goneNames : (goneNames old new).Pairwise (· < ·) := by
  have sorted : (goneNames old new).Pairwise fun s t => !decide (t < s) := by
    apply List.pairwise_mergeSort
    · intro a b c first second
      simp only [Bool.not_eq_true', decide_eq_false_iff_not, String.not_lt] at first second ⊢
      exact String.le_trans first second
    · intro a b
      simp only [Bool.or_eq_true, Bool.not_eq_true', decide_eq_false_iff_not, String.not_lt]
      exact String.le_total a b
  -- Not above and not the same is below.
  refine (sorted.and nodup_goneNames).imp ?_
  intro s t ordered
  simp only [Bool.not_eq_true', decide_eq_false_iff_not, String.not_lt] at ordered
  by_cases below : s < t
  · exact below
  · exact absurd (String.le_antisymm ordered.1 (String.not_lt.1 below)) ordered.2

theorem nodup_map_name_changes : ((changes revision old new).map (·.name)).Nodup := by
  rw [changes, List.map_append, map_name_upserts, map_name_deletes, List.nodup_append]
  refine ⟨new.nodup_keys.filter _, nodup_goneNames, ?_⟩
  -- A name that is updated is in the new table, one that is gone is not.
  intro name updated other gone same
  subst same
  have present := (List.mem_filter.1 updated).1
  rw [← Table.get?_isSome_iff, (mem_goneNames_iff.1 gone).2] at present
  cases present

/-! ### What a document asks for -/

theorem toOption_eq_some_iff {ε α : Type} {x : Except ε α} {a : α} :
    x.toOption = some a ↔ x = .ok a := by
  cases x <;> simp [Except.toOption]

namespace Listing

def IsMalformed (entry : Document) : Prop :=
  ∃ fault, NodeDescriptor.ofDocument entry = .error fault

/-- What malformed entries tell for names has texts. -/
def CanBeNamed (entries : List Document) : Prop :=
  ∀ entry ∈ entries, IsMalformed entry → ∀ name ∈ toldName? entry, name.isWritable = true

/-- The nodes in the entries that are well-formed, in the order of the document. -/
def accepted (entries : List Document) : List NodeDescriptor :=
  entries.filterMap fun entry => (NodeDescriptor.ofDocument entry).toOption

/-- The names in the entries that are well-formed, in the order of the document. -/
def acceptedNames (entries : List Document) : List String :=
  entries.filterMap fun entry => (NodeDescriptor.ofDocument entry).toOption.map (·.name)

/-- The names in the entries that are malformed, in the order of the document. -/
def rejectedNames (entries : List Document) : List String :=
  entries.filterMap fun entry =>
    match NodeDescriptor.ofDocument entry with
    | .ok _ => none
    | .error _ => (toldName? entry).map Document.text

def putAll (nodes : List NodeDescriptor) (table : NodeTable) : NodeTable :=
  nodes.foldl (fun table node => table.put node.name node) table

theorem acceptedNames_eq (entries : List Document) :
    acceptedNames entries = (accepted entries).map (·.name) := by
  rw [acceptedNames, accepted, List.map_filterMap]

/-- Entries are taken in if the names of those that are malformed have texts: the well-formed ones
as nodes, and of the malformed ones the names. -/
theorem addAll_eq_ok_iff {entries : List Document} {listing result : Listing} :
    (addAll entries listing).value = .ok result ↔ CanBeNamed entries ∧
      result = ⟨putAll (accepted entries) listing.nodes,
        listing.rejected ++ rejectedNames entries⟩ := by
  induction entries generalizing listing with
  | nil => simpa [addAll, CanBeNamed, accepted, rejectedNames, putAll] using eq_comm
  | cons entry rest ih =>
    rw [addAll, Logged.value_bind, add, CanBeNamed, List.forall_mem_cons]
    cases taken : NodeDescriptor.ofDocument entry with
    | ok node =>
      have nodes : accepted (entry :: rest) = node :: accepted rest := by
        simp [accepted, taken, Except.toOption]
      have rejected : rejectedNames (entry :: rest) = rejectedNames rest := by
        simp [rejectedNames, taken]
      have formed : ¬ IsMalformed entry := fun ⟨fault, bad⟩ => nomatch taken.symm.trans bad
      simp only [Logged.value_pure, ih, nodes, rejected, putAll, List.foldl_cons, formed,
        false_implies, true_and, CanBeNamed]
    | error fault =>
      have nodes : accepted (entry :: rest) = accepted rest := by
        simp [accepted, taken, Except.toOption]
      have malformed : IsMalformed entry := ⟨fault, taken⟩
      -- A malformed entry leaves the nodes alone, but one with a name without a text ends all.
      cases named : toldName? entry with
      | none =>
        have rejected : rejectedNames (entry :: rest) = rejectedNames rest := by
          simp [rejectedNames, taken, named]
        simp [ih, nodes, rejected, CanBeNamed]
      | some name =>
        have rejected : rejectedNames (entry :: rest) = name.text :: rejectedNames rest := by
          simp [rejectedNames, taken, named]
        by_cases writable : name.isWritable = true
        · simp [writable, ih, nodes, rejected, CanBeNamed]
        · simp [writable, malformed]

theorem entriesOf_eq_ok_iff {d : Document} {entries : List Document} :
    entriesOf d = .ok entries ↔ ∃ fields nodes, d.entries? = some fields ∧
      Document.lookup? "nodes" fields = some nodes ∧ nodes.items? = some entries := by
  unfold entriesOf
  cases d.entries? with
  | none => simp
  | some fields =>
    cases found : Document.lookup? "nodes" fields with
    | none => simp [found]
    | some nodes =>
      -- Null is no list, so it makes no difference that it is told apart.
      cases listed : nodes.items? <;> cases nodes <;> simp_all [Document.items?, Document.opened]

theorem value_ofDocument_eq_ok_iff {d : Document} {listing : Listing} :
    (ofDocument d).value = .ok listing ↔ ∃ entries, entriesOf d = .ok entries ∧
      CanBeNamed entries ∧ listing = ⟨putAll (accepted entries) .empty, rejectedNames entries⟩ := by
  unfold ofDocument
  cases entriesOf d with
  | error fault => simp
  | ok entries => simp [addAll_eq_ok_iff]

/-- Every node stands where its name came in first. -/
theorem keys_putAll (nodes : List NodeDescriptor) (table : NodeTable) :
    (putAll nodes table).keys = firstSeen (table.keys ++ nodes.map (·.name)) := by
  induction nodes generalizing table with
  | nil =>
    rw [List.map_nil, List.append_nil]
    exact (firstSeen_eq_self table.nodup_keys).symm
  | cons node rest ih =>
    have same : putAll (node :: rest) table = putAll rest (table.put node.name node) := rfl
    rw [same, ih, Table.keys_put, List.map_cons]
    -- A name that came in before keeps its place, whatever the later node is.
    by_cases known : node.name ∈ table.keys
    · rw [if_pos known, firstSeen_append_cons_of_mem known]
    · rw [if_neg known, List.append_assoc, List.singleton_append]

theorem withLastGood_cons (nodes : NodeTable) (name : String) (rest : List String)
    (state : NodeTable) :
    (Listing.mk nodes (name :: rest)).withLastGood state =
      (Listing.mk (match nodes.get? name, state.get? name with
        | none, some node => nodes.put name node
        | _, _ => nodes) rest).withLastGood state := rfl

/-- A document asks for the nodes it lists, and for the state as it was where it names a node in
malformed entries only. -/
theorem get?_withLastGood (listing : Listing) (state : NodeTable) (name : String) :
    (listing.withLastGood state).get? name =
      (listing.nodes.get? name).or
        (if name ∈ listing.rejected then state.get? name else none) := by
  obtain ⟨nodes, rejected⟩ := listing
  induction rejected generalizing nodes with
  | nil => simp [withLastGood]
  | cons first rest ih =>
    rw [withLastGood_cons, ih]
    by_cases same : first = name
    · -- The name is kept at once if it is not listed, and then it stays.
      subst same
      cases listed : nodes.get? first <;> cases state.get? first <;> simp [listed]
    · have apart : name ≠ first := Ne.symm same
      cases nodes.get? first <;> cases state.get? first <;>
        simp [apart, Table.get?_put_of_ne _ _ same]

theorem keys_prefix_withLastGood (listing : Listing) (state : NodeTable) :
    listing.nodes.keys <+: (listing.withLastGood state).keys := by
  obtain ⟨nodes, rejected⟩ := listing
  induction rejected generalizing nodes with
  | nil => exact List.prefix_refl _
  | cons first rest ih =>
    rw [withLastGood_cons]
    refine List.IsPrefix.trans ?_ (ih _)
    split
    next =>
      rw [Table.keys_put]
      split
      · exact List.prefix_refl _
      · exact List.prefix_append _ _
    next => exact List.prefix_refl _

theorem get?_withLastGood_withLastGood (listing : Listing) (state : NodeTable) (name : String) :
    (listing.withLastGood (listing.withLastGood state)).get? name =
      (listing.withLastGood state).get? name := by
  simp only [get?_withLastGood]
  cases listing.nodes.get? name <;> by_cases rejected : name ∈ listing.rejected <;> simp [rejected]

/-- Only nodes that a document lists are announced as new or different, in its order. -/
theorem map_name_upserts_sublist (listing : Listing) (state : NodeTable) (revision : String) :
    ((upserts revision state (listing.withLastGood state)).map (·.name)).Sublist
      listing.nodes.keys := by
  obtain ⟨kept, keys⟩ := listing.keys_prefix_withLastGood state
  have distinct := (listing.withLastGood state).nodup_keys
  rw [← keys, List.nodup_append] at distinct
  -- A node behind the listed ones has the state it had, so there is no event about it.
  have silent : ∀ name ∈ kept, state.get? name = (listing.withLastGood state).get? name := by
    intro name member
    have unlisted : listing.nodes.get? name = none := by
      rw [← Option.not_isSome_iff_eq_none, Table.get?_isSome_iff]
      exact fun listed => distinct.2.2 name listed name member rfl
    have present : ((listing.withLastGood state).get? name).isSome := by
      rw [Table.get?_isSome_iff, ← keys]
      exact List.mem_append_right _ member
    rw [get?_withLastGood, unlisted, Option.none_or] at present ⊢
    split at present
    next rejected => rw [if_pos rejected]
    next => cases present
  have none_kept : (kept.filter fun name =>
      state.get? name ≠ (listing.withLastGood state).get? name) = [] := by
    simpa using silent
  rw [map_name_upserts, ← keys, List.filter_append, none_kept, List.append_nil]
  exact List.filter_sublist

end Listing

end NodeDataplane
