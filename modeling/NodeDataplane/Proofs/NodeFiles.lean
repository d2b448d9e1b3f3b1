import NodeDataplane.Proofs.KeptTexts
import NodeDataplane.Proofs.Outline.JsonText
import NodeDataplane.Proofs.Outline.YamlTree
import NodeDataplane.Proofs.Watching

/-!
# Files of nodes in two formats

The same descriptions of nodes can be written to a JSON file, with their texts as strings, and to a
YAML file, with their texts as plain scalars. A watcher passes the texts of the JSON file on as they
are. In the YAML file a text may be read as a number, a truth value or a date, and what is passed on
is the text of that; it comes back if that text is its own.

## Main results

- `ofDocument_meaning_iff`: a node comes back from a YAML file exactly if its texts do.
- `poll_yaml_of_isKept`: looks at the two files agree, in what they hand out and in all else, if all
  texts come back.
- `isKept_of_handled_eq`: otherwise a new watcher hands out something else, unless nodes share a
  name.
- `polls_agree_exactly_if_clear`: of valid nodes, exactly those addresses are lost that are written
  as integers, and names and identifiers that mean something else.

## Proof strategy

Both files list the descriptors if all texts come back. If a new watcher hands out the same for
both, then the YAML file lists as many nodes as it has entries, so no entry is malformed and none
takes the place of another one, and each of them is its own descriptor.
-/

namespace NodeDataplane

open Outline (meaning)
open Yaml (plainValue)

/-! ### Texts that come back -/

open NodeDescriptor (ReadsWords Keeps)

theorem readsWords_string : ReadsWords Document.string := ⟨fun _ => rfl, nofun⟩

theorem readsWords_meaning : ReadsWords meaning := by
  refine ⟨fun kind => by cases kind <;> rfl, ?_⟩
  have text : meaning "None" = .string "None" := rfl
  rw [text]
  nofun

theorem ofDocument_string (d : NodeDescription) :
    NodeDescriptor.ofDocument (d.outline.document .string) = .ok d.descriptor := by
  rw [NodeDescriptor.ofDocument_eq_ok_iff readsWords_string]
  refine ⟨?_, fun t _ => ⟨nofun, rfl⟩⟩
  simpa [Document.truthy] using NodeDescriptor.text_ne_empty d.name

theorem isKept_iff {s : String} : isKept s = true ↔
    plainValue s = .ok (meaning s) ∧ NodeDescriptor.textOf (meaning s) = .ok s := by
  unfold isKept meaning NodeDescriptor.textOf
  cases plainValue s with
  | error fault => simp [Except.toOption]
  | ok d => cases writable : d.isWritable <;> simp [Except.toOption, writable]

theorem ofDocument_meaning_iff (d : NodeDescription) :
    d.isKept = true ↔ Outline.IsMeaningful d.outline.texts ∧
      NodeDescriptor.ofDocument (d.outline.document meaning) = .ok d.descriptor := by
  have name : d.name ∈ d.outline.texts := by
    have all : ∀ t ∈ d.outline.texts, t ∈ d.outline.texts := fun _ mem => mem
    rw [NodeDescription.outline, Outline.forall_texts_ofFields_iff] at all
    exact all _ List.mem_cons_self _ rfl _ (List.mem_singleton.2 rfl)
  have truthy (means : plainValue d.name.text = .ok (meaning d.name.text)) :
      (plainValue d.name.text).toOption.any Document.truthy = (meaning d.name.text).truthy := by
    rw [means]
    rfl
  rw [NodeDescriptor.ofDocument_eq_ok_iff readsWords_meaning]
  simp only [NodeDescription.isKept, NodeDescription.isNamed, Bool.and_eq_true, List.all_eq_true,
    isKept_iff, NodeDescriptor.keeps_iff readsWords_meaning, Outline.IsMeaningful]
  constructor
  · rintro ⟨⟨named, -⟩, kept⟩
    exact ⟨fun t mem => (kept t mem).1, (truthy (kept d.name name).1).symm.trans named,
      fun t mem => (kept t mem).2⟩
  · rintro ⟨means, named, kept⟩
    exact ⟨⟨(truthy (means d.name name)).trans named, means d.name name, kept d.name name⟩,
      fun t mem => ⟨means t mem, kept t mem⟩⟩

/-! ### Files -/

/-- The map that a file of nodes holds. -/
def nodesOutline (ds : List NodeDescription) : Outline :=
  .map [(⟨"nodes", by decide, rfl⟩, .list (ds.map (·.outline)))]

theorem depth_nodesOutline_le (ds : List NodeDescription) : (nodesOutline ds).depth ≤ 5 := by
  have items : Outline.itemsDepth (ds.map (·.outline)) ≤ 3 := by
    simp [Outline.itemsDepth_le_iff, NodeDescription.depth_outline_le]
  simp only [nodesOutline, Outline.depth, Outline.entriesDepth]
  omega

/-- A file with a text, and the time of its last change. -/
def StoredFile.ofText (text : List Char) (modified : String) : StoredFile :=
  ⟨(String.ofList text).toUTF8, modified⟩

theorem text?_ofText {text : List Char} (no_return : '\r' ∉ text) (modified : String) :
    (StoredFile.ofText text modified).text? = some (String.ofList text) := by
  have decoded (s : String) : String.fromUTF8? s.toUTF8 = some s := dif_pos s.isValidUTF8
  rw [StoredFile.text?, StoredFile.ofText, decoded, Option.map_some, String.toList_ofList,
    Text.unifyLines_of_not_mem no_return]

theorem readDocument_json {path : Path} (json : ¬ (path.suffix = ".yaml" ∨ path.suffix = ".yml"))
    (ds : List NodeDescription) (modified : String) :
    Watcher.readDocument path (.ofText (nodesOutline ds).json modified) =
      .ok ((nodesOutline ds).document .string) := by
  have room : (nodesOutline ds).depth ≤ Loader.levels :=
    (depth_nodesOutline_le ds).trans (by decide)
  rw [Watcher.readDocument, text?_ofText (Outline.return_not_mem_json _)]
  simp only [Watcher.documentOf, if_neg json, Outline.parse_json room]

theorem readDocument_yaml_iff {path : Path} (yaml : path.suffix = ".yaml" ∨ path.suffix = ".yml")
    (ds : List NodeDescription) (modified : String) {d : Document} :
    Watcher.readDocument path (.ofText (nodesOutline ds).yaml modified) = .ok d ↔
      Outline.IsMeaningful (nodesOutline ds).texts ∧ d = (nodesOutline ds).document meaning := by
  have room : (nodesOutline ds).depth ≤ Yaml.maxNesting :=
    (depth_nodesOutline_le ds).trans (by decide)
  have parsed {d : Document} : Loader.yaml (String.ofList (nodesOutline ds).yaml) = .ok d ↔
      Outline.IsMeaningful (nodesOutline ds).texts ∧ d = (nodesOutline ds).document meaning :=
    Outline.parse_yaml_iff (List.cons_ne_nil _ _) room
  rw [Watcher.readDocument, text?_ofText (Outline.return_not_mem_yaml _)]
  simp only [Watcher.documentOf, if_pos yaml, Outline.map_eq_ok_iff, parsed]
  constructor
  · rintro ⟨_, ⟨means, rfl⟩, rfl⟩
    exact ⟨means, rfl⟩
  · rintro ⟨means, rfl⟩
    exact ⟨_, ⟨means, rfl⟩, rfl⟩

/-! ### Listings -/

namespace Listing

theorem value_addAll_of_ok {α : Type} {document : α → Document} {node : α → NodeDescriptor}
    {members : List α} (ok : ∀ a ∈ members, NodeDescriptor.ofDocument (document a) = .ok (node a))
    (listing : Listing) :
    (addAll (members.map document) listing).value =
      .ok { listing with nodes := putAll (members.map node) listing.nodes } := by
  have nodes : accepted (members.map document) = members.map node := by
    rw [accepted, List.filterMap_map, ← List.filterMap_eq_map]
    apply List.filterMap_congr
    intro a mem
    simp [ok a mem, Except.toOption]
  have rejected : rejectedNames (members.map document) = [] := by
    rw [rejectedNames, List.filterMap_map, List.filterMap_eq_nil_iff]
    intro a mem
    simp [ok a mem]
  rw [addAll_eq_ok_iff, nodes, rejected, List.append_nil]
  refine ⟨?_, rfl⟩
  rw [CanBeNamed, List.forall_mem_map]
  rintro a mem ⟨fault, bad⟩ name told
  rw [ok a mem] at bad
  cases bad

theorem length_putAll_le (nodes : List NodeDescriptor) (table : NodeTable) :
    (putAll nodes table).size ≤ table.size + nodes.length := by
  induction nodes generalizing table with
  | nil => exact Nat.le_refl _
  | cons node rest ih =>
    have one := table.size_put_le node.name node
    have behind := ih (table.put node.name node)
    rw [List.length_cons]
    simp only [putAll, List.foldl_cons] at behind ⊢
    omega

/-- Where no node takes the place of another one, all of them are listed in turn. -/
theorem entries_putAll (nodes : List NodeDescriptor) (table : NodeTable)
    (apart : table.size + nodes.length ≤ (putAll nodes table).size) :
    (putAll nodes table).entries = table.entries ++ nodes.map fun node => (node.name, node) := by
  induction nodes generalizing table with
  | nil => simp [putAll]
  | cons node rest ih =>
    have one := table.size_put_le node.name node
    have behind := length_putAll_le rest (table.put node.name node)
    have same : putAll (node :: rest) table = putAll rest (table.put node.name node) := rfl
    rw [same, List.length_cons] at apart
    have fresh : node.name ∉ table.keys := by
      intro known
      rw [table.size_put_of_mem known] at behind
      omega
    rw [same, ih _ (by omega), Table.entries_put_of_not_mem fresh]
    simp

theorem forall_of_filterMap_map {α β γ : Type} {f : β → Option γ} {g : α → β} {h : α → γ}
    {members : List α} (same : (members.map g).filterMap f = members.map h) :
    ∀ a ∈ members, f (g a) = some (h a) := by
  induction members with
  | nil => simp
  | cons a rest ih =>
    rw [List.map_cons, List.map_cons] at same
    cases taken : f (g a) with
    | none =>
      -- One that is left out is missing in the end.
      rw [List.filterMap_cons_none taken] at same
      have short := List.length_filterMap_le f (rest.map g)
      rw [same, List.length_cons, List.length_map, List.length_map] at short
      omega
    | some c =>
      rw [List.filterMap_cons_some taken, List.cons.injEq] at same
      exact List.forall_mem_cons.2 ⟨taken.trans (congrArg some same.1), ih same.2⟩

/-- If as many nodes are listed as there are entries, and these nodes, then every entry is one of
them. -/
theorem forall_ofDocument_of_entries {α : Type} {document : α → Document}
    (node : α → NodeDescriptor) {members : List α} {result : Listing}
    (read : (addAll (members.map document) ⟨.empty, []⟩).value = .ok result)
    (all : result.nodes.entries = members.map fun a => ((node a).name, node a)) :
    ∀ a ∈ members, NodeDescriptor.ofDocument (document a) = .ok (node a) := by
  have nodes : result.nodes = putAll (accepted (members.map document)) .empty := by
    rw [(addAll_eq_ok_iff.1 read).2]
  have listed : result.nodes.entries =
      (accepted (members.map document)).map fun node => (node.name, node) := by
    rw [nodes]
    refine (entries_putAll _ _ ?_).trans (List.nil_append _)
    have few := List.length_filterMap_le
      (fun entry => (NodeDescriptor.ofDocument entry).toOption) (members.map document)
    have many : (putAll (accepted (members.map document)) .empty).size = members.length := by
      rw [← nodes, Table.size, all, List.length_map]
    rw [many]
    simpa [Table.size, Table.empty, accepted] using few
  have same : accepted (members.map document) = members.map node := by
    have seconds := congrArg (List.map Prod.snd) (listed.symm.trans all)
    simpa [Function.comp_def] using seconds
  intro a mem
  have taken := forall_of_filterMap_map same a mem
  cases answer : NodeDescriptor.ofDocument (document a) with
  | error fault => simp [answer, Except.toOption] at taken
  | ok found =>
    simp only [answer, Except.toOption, Option.some.injEq] at taken
    rw [taken]

end Listing

/-! ### Polls -/

/-- Note the events that are handed out. -/
def noting (seen : List Record) (event : Record) : Logged (List Record × Option Unit) :=
  pure (seen ++ [event], none)

theorem announce_noting (events : List NodeEvent) (seen : List Record) :
    (announce noting events seen).value = (seen ++ events.map NodeEvent.toRecord, none) := by
  induction events generalizing seen with
  | nil => simp [announce]
  | cons e rest ih =>
    rw [value_announce_cons]
    simp [noting, ih]

theorem withLastGood_empty (listing : Listing) : listing.withLastGood .empty = listing.nodes := by
  obtain ⟨nodes, rejected⟩ := listing
  induction rejected with
  | nil => rfl
  | cons name rest ih =>
    rw [Listing.withLastGood_cons]
    simpa using ih

theorem changes_empty (revision : String) (new : NodeTable) :
    changes revision .empty new =
      new.entries.map fun entry => ⟨entry.1, some entry.2, revision⟩ := by
  have none_gone : goneNames .empty new = [] := by simp [goneNames, Table.empty, Table.keys]
  rw [changes, deletes, none_gone, upserts, List.filter_eq_self.2 (by simp)]
  simp

/-- A new watcher hands out the nodes that are listed. -/
theorem handled_poll_noting {path : Path} {place : Place} {listing : Listing} {revision : String}
    (read : Watcher.listingAt? path place = some (listing, revision)) :
    ((Watcher.new path).poll noting place []).value.handled =
      listing.nodes.entries.map fun entry =>
        (NodeEvent.mk entry.1 (some entry.2) revision).toRecord := by
  have polled : ((Watcher.new path).poll noting place []).value = _ :=
    Watcher.poll_of_listing (w := .new path) read []
  have events : changes revision (Watcher.new path).state
      (listing.withLastGood (Watcher.new path).state) =
        listing.nodes.entries.map fun entry => ⟨entry.1, some entry.2, revision⟩ := by
    rw [Watcher.new, withLastGood_empty, changes_empty]
  rw [polled, events, announce_noting]
  simp [Function.comp_def]

/-! ### The same nodes in both formats -/

/-- What a file of nodes says. -/
def nodesListing (ds : List NodeDescription) : Listing :=
  ⟨Listing.putAll (ds.map (·.descriptor)) .empty, []⟩

theorem value_ofDocument_nodesOutline (value : String → Document) (ds : List NodeDescription) :
    (Listing.ofDocument ((nodesOutline ds).document value)).value =
      (Listing.addAll (ds.map (·.outline.document value)) ⟨.empty, []⟩).value := by
  have items : Listing.entriesOf ((nodesOutline ds).document value) =
      .ok (ds.map (·.outline.document value)) := by
    have same : Listing.entriesOf ((nodesOutline ds).document value) =
        .ok (Outline.itemDocuments value (ds.map (·.outline))) := rfl
    rw [same, Outline.itemDocuments_eq_map, List.map_map]
    rfl
  rw [Listing.ofDocument, items]

theorem ofDocument_nodesOutline {value : String → Document} {ds : List NodeDescription}
    (read : ∀ d ∈ ds, NodeDescriptor.ofDocument (d.outline.document value) = .ok d.descriptor) :
    (Listing.ofDocument ((nodesOutline ds).document value)).value = .ok (nodesListing ds) := by
  rw [value_ofDocument_nodesOutline, Listing.value_addAll_of_ok read]
  rfl

theorem texts_nodesOutline {P : PlainText → Prop} {ds : List NodeDescription} :
    (∀ t ∈ (nodesOutline ds).texts, P t) ↔ ∀ d ∈ ds, ∀ t ∈ d.outline.texts, P t := by
  have same : (nodesOutline ds).texts = (Outline.list (ds.map (·.outline))).texts :=
    List.append_nil _
  rw [same, Outline.forall_texts_list_iff, List.forall_mem_map]

theorem entries_nodesListing {ds : List NodeDescription}
    (distinct : (ds.map (·.name.text)).Nodup) :
    (nodesListing ds).nodes.entries = ds.map fun d => (d.name.text, d.descriptor) := by
  have keys := Listing.keys_putAll (ds.map (·.descriptor)) .empty
  have names : (ds.map (·.descriptor)).map (·.name) = ds.map (·.name.text) := by
    simp [NodeDescription.descriptor]
  have all : (nodesListing ds).nodes.size = ds.length := by
    rw [Table.size_eq_length_keys]
    refine (congrArg List.length keys).trans ?_
    rw [names, Table.keys, Table.empty, List.map_nil, List.nil_append, firstSeen_eq_self distinct,
      List.length_map]
  have listed := Listing.entries_putAll (ds.map (·.descriptor)) .empty
    (by rw [List.length_map]; exact Nat.le_of_eq ((Nat.zero_add _).trans all.symm))
  refine listed.trans ?_
  simp [Table.empty, NodeDescription.descriptor]

theorem Watcher.listingAt?_file_iff {path : Path} {f : StoredFile} {listing : Listing}
    {revision : String} :
    listingAt? path (.file f) = some (listing, revision) ↔ ∃ d, readDocument path f = .ok d ∧
      (Listing.ofDocument d).value = .ok listing ∧ revision = f.modified := by
  simp only [listingAt?, documentAt?, Option.bind_eq_some_iff, Option.map_eq_some_iff,
    toOption_eq_some_iff, Prod.exists, Prod.mk.injEq]
  constructor
  · rintro ⟨_, _, ⟨d, read, rfl, rfl⟩, _, listed, rfl, rfl⟩
    exact ⟨d, read, listed, rfl⟩
  · rintro ⟨d, read, listed, rfl⟩
    exact ⟨d, _, ⟨_, read, rfl, rfl⟩, _, listed, rfl, rfl⟩

section

variable {json yaml : Path} {ds : List NodeDescription}

theorem listingAt?_json (json_name : ¬ (json.suffix = ".yaml" ∨ json.suffix = ".yml"))
    (ds : List NodeDescription) (modified : String) :
    Watcher.listingAt? json (.file (.ofText (nodesOutline ds).json modified)) =
      some (nodesListing ds, modified) :=
  Watcher.listingAt?_file_iff.2 ⟨_, readDocument_json json_name ds modified,
    ofDocument_nodesOutline fun d _ => ofDocument_string d, rfl⟩

theorem listingAt?_yaml (yaml_name : yaml.suffix = ".yaml" ∨ yaml.suffix = ".yml")
    (kept : ∀ d ∈ ds, d.isKept = true) (modified : String) :
    Watcher.listingAt? yaml (.file (.ofText (nodesOutline ds).yaml modified)) =
      some (nodesListing ds, modified) := by
  have means : Outline.IsMeaningful (nodesOutline ds).texts :=
    texts_nodesOutline.2 fun d mem => ((ofDocument_meaning_iff d).1 (kept d mem)).1
  exact Watcher.listingAt?_file_iff.2 ⟨_, (readDocument_yaml_iff yaml_name ds modified).2
    ⟨means, rfl⟩, ofDocument_nodesOutline fun d mem =>
      ((ofDocument_meaning_iff d).1 (kept d mem)).2, rfl⟩

/-- If a YAML file lists the nodes of the descriptions, all their texts came back. -/
theorem isKept_of_listingAt? (yaml_name : yaml.suffix = ".yaml" ∨ yaml.suffix = ".yml")
    {modified revision : String} {listing : Listing}
    (read : Watcher.listingAt? yaml (.file (.ofText (nodesOutline ds).yaml modified)) =
      some (listing, revision))
    (all : listing.nodes.entries = ds.map fun d => (d.name.text, d.descriptor)) :
    ∀ d ∈ ds, d.isKept = true := by
  obtain ⟨document, parsed, listed, -⟩ := Watcher.listingAt?_file_iff.1 read
  obtain ⟨means, rfl⟩ := (readDocument_yaml_iff yaml_name ds modified).1 parsed
  rw [value_ofDocument_nodesOutline] at listed
  have nodes := Listing.forall_ofDocument_of_entries NodeDescription.descriptor listed all
  intro d mem
  exact (ofDocument_meaning_iff d).2 ⟨texts_nodesOutline.1 means d mem, nodes d mem⟩

theorem handled_poll_json (json_name : ¬ (json.suffix = ".yaml" ∨ json.suffix = ".yml"))
    (distinct : (ds.map (·.name.text)).Nodup) (modified : String) :
    ((Watcher.new json).poll noting
        (.file (.ofText (nodesOutline ds).json modified)) []).value.handled =
      ds.map fun d => (NodeEvent.mk d.name.text (some d.descriptor) modified).toRecord := by
  rw [handled_poll_noting (listingAt?_json json_name ds modified), entries_nodesListing distinct,
    List.map_map]
  rfl

/-- If all texts come back, a look at either file does the same, whatever was known before. -/
theorem poll_yaml_of_isKept (json_name : ¬ (json.suffix = ".yaml" ∨ json.suffix = ".yml"))
    (yaml_name : yaml.suffix = ".yaml" ∨ yaml.suffix = ".yml")
    (kept : ∀ d ∈ ds, d.isKept = true) (modified : String) {σ φ : Type}
    (handle : σ → Record → Logged (σ × Option φ)) (state : NodeTable) (s : σ) :
    let first := ((Watcher.mk json state).poll handle
      (.file (.ofText (nodesOutline ds).json modified)) s).value
    let second := ((Watcher.mk yaml state).poll handle
      (.file (.ofText (nodesOutline ds).yaml modified)) s).value
    second.watcher.state = first.watcher.state ∧ second.handled = first.handled ∧
      second.fault = first.fault := by
  have first : ((Watcher.mk json state).poll handle
      (.file (.ofText (nodesOutline ds).json modified)) s).value = _ :=
    Watcher.poll_of_listing (w := ⟨json, state⟩) (listingAt?_json json_name ds modified) s
  have second : ((Watcher.mk yaml state).poll handle
      (.file (.ofText (nodesOutline ds).yaml modified)) s).value = _ :=
    Watcher.poll_of_listing (w := ⟨yaml, state⟩) (listingAt?_yaml yaml_name kept modified) s
  simp only [first, second]
  split <;> exact ⟨rfl, rfl, rfl⟩

/-- A new watcher of the YAML file tells whether all texts came back by what it hands out. -/
theorem isKept_of_handled_eq (json_name : ¬ (json.suffix = ".yaml" ∨ json.suffix = ".yml"))
    (yaml_name : yaml.suffix = ".yaml" ∨ yaml.suffix = ".yml")
    (distinct : (ds.map (·.name.text)).Nodup) {modified : String}
    (same : ((Watcher.new yaml).poll noting
        (.file (.ofText (nodesOutline ds).yaml modified)) []).value.handled =
      ((Watcher.new json).poll noting
        (.file (.ofText (nodesOutline ds).json modified)) []).value.handled) :
    ∀ d ∈ ds, d.isKept = true := by
  rw [handled_poll_json json_name distinct] at same
  cases read : Watcher.listingAt? yaml (.file (.ofText (nodesOutline ds).yaml modified)) with
  | none =>
    -- Nothing is handed out, so there are no nodes.
    obtain ⟨fault, -, polled⟩ := Watcher.poll_of_no_listing (φ := Unit) (w := .new yaml) read
    rw [polled, eq_comm, List.map_eq_nil_iff] at same
    simp [same]
  | some found =>
    obtain ⟨listing, revision⟩ := found
    have told : revision = modified := by
      obtain ⟨_, -, -, told⟩ := Watcher.listingAt?_file_iff.1 read
      exact told
    subst told
    rw [handled_poll_noting read] at same
    refine isKept_of_listingAt? yaml_name read ?_
    let record (entry : String × NodeDescriptor) : Record :=
      (NodeEvent.mk entry.1 (some entry.2) revision).toRecord
    have injective : Function.Injective record := by
      intro a b equal
      have events := congrArg NodeEvent.ofRecord equal
      simp only [record, NodeEvent.ofRecord_toRecord, Except.ok.injEq, NodeEvent.mk.injEq,
        Option.some.injEq, and_true] at events
      exact Prod.ext events.1 events.2
    apply List.map_injective_iff.2 injective
    rw [List.map_map]
    exact same

/-- Looks at a file of valid nodes in YAML and at the same texts in JSON agree exactly if no address
is an integer, and names and identifiers mean themselves. -/
theorem polls_agree_exactly_if_clear
    (json_name : ¬ (json.suffix = ".yaml" ∨ json.suffix = ".yml"))
    (yaml_name : yaml.suffix = ".yaml" ∨ yaml.suffix = ".yml")
    (accepted : ∀ d ∈ ds, d.isAccepted = true) (modified : String) :
    ((∀ d ∈ ds, d.isClear = true) →
      ∀ (σ φ : Type) (handle : σ → Record → Logged (σ × Option φ)) (state : NodeTable) (s : σ),
        let first := ((Watcher.mk json state).poll handle
          (.file (.ofText (nodesOutline ds).json modified)) s).value
        let second := ((Watcher.mk yaml state).poll handle
          (.file (.ofText (nodesOutline ds).yaml modified)) s).value
        second.watcher.state = first.watcher.state ∧ second.handled = first.handled ∧
          second.fault = first.fault) ∧
    ((ds.map (·.name.text)).Nodup →
      ((Watcher.new yaml).poll noting
          (.file (.ofText (nodesOutline ds).yaml modified)) []).value.handled =
        ((Watcher.new json).poll noting
          (.file (.ofText (nodesOutline ds).json modified)) []).value.handled →
      ∀ d ∈ ds, d.isClear = true) := by
  have clear (d : NodeDescription) (mem : d ∈ ds) : d.isKept = d.isClear :=
    NodeDescription.isKept_eq_isClear (accepted d mem)
  refine ⟨fun all σ φ handle state s => ?_, fun distinct same d mem => ?_⟩
  · exact poll_yaml_of_isKept json_name yaml_name (fun d mem => (clear d mem).trans (all d mem))
      modified handle state s
  · exact (clear d mem).symm.trans (isKept_of_handled_eq json_name yaml_name distinct same d mem)

end

namespace Sample

/-- A node with a hardware address that is no number. -/
def letteredNode : NodeDescription where
  name := ⟨"a", by decide⟩
  vxlanTunnelMac4 := some ⟨"66:00:00:00:00:0a", by decide⟩
  podBlocks := some [⟨"10.0.0.0/24", by decide⟩]

theorem polls_agree_of_letteredNode :
    (¬ ((Path.ofText "nodes.json").suffix = ".yaml" ∨ (Path.ofText "nodes.json").suffix = ".yml") ∧
      ((Path.ofText "nodes.yaml").suffix = ".yaml" ∨ (Path.ofText "nodes.yaml").suffix = ".yml") ∧
      (∀ d ∈ [letteredNode], d.isAccepted = true) ∧ ([letteredNode].map (·.name.text)).Nodup ∧
      ∀ d ∈ [letteredNode], d.isClear = true) ∧
    ((Watcher.new (.ofText "nodes.yaml")).poll noting
        (.file (.ofText (nodesOutline [letteredNode]).yaml "1")) []).value.handled =
      ((Watcher.new (.ofText "nodes.json")).poll noting
        (.file (.ofText (nodesOutline [letteredNode]).json "1")) []).value.handled := by
  have json : ¬ ((Path.ofText "nodes.json").suffix = ".yaml" ∨
      (Path.ofText "nodes.json").suffix = ".yml") := by decide +kernel
  have yaml : (Path.ofText "nodes.yaml").suffix = ".yaml" ∨
      (Path.ofText "nodes.yaml").suffix = ".yml" := by decide +kernel
  have texts : letteredNode.descriptor.fieldTexts =
      [⟨.identifier, none, "66:00:00:00:00:0a"⟩, ⟨.cidr, none, "10.0.0.0/24"⟩] := by
    decide +kernel
  have accepted : ∀ d ∈ [letteredNode], d.isAccepted = true := by
    rw [List.forall_mem_singleton, NodeDescription.isAccepted, texts]
    decide +kernel
  have clear : ∀ d ∈ [letteredNode], d.isClear = true := by
    rw [List.forall_mem_singleton, NodeDescription.isClear, texts]
    decide +kernel
  have distinct : ([letteredNode].map (·.name.text)).Nodup := by decide
  have agree := polls_agree_exactly_if_clear json yaml accepted "1"
  have same : ((Watcher.new (.ofText "nodes.yaml")).poll noting
        (.file (.ofText (nodesOutline [letteredNode]).yaml "1")) []).value.handled =
      ((Watcher.new (.ofText "nodes.json")).poll noting
        (.file (.ofText (nodesOutline [letteredNode]).json "1")) []).value.handled := by
    simpa only [Watcher.new] using (agree.1 clear _ _ noting .empty []).2.1
  exact ⟨⟨json, yaml, accepted, distinct, agree.2 distinct same⟩, same⟩

/-- A node with a hardware address of decimal digits. -/
def decimalNode : NodeDescription where
  name := ⟨"a", by decide⟩
  vxlanTunnelMac4 := some ⟨"66:00:00:00:00:04", by decide⟩

theorem polls_of_decimalNode_differ :
    decimalNode.isAccepted = true ∧
      ((Watcher.new (.ofText "nodes.json")).poll noting
        (.file (.ofText (nodesOutline [decimalNode]).json "1")) []).value.handled =
          [(NodeEvent.mk "a" (some { name := "a", vxlanTunnelMac4 := some "66:00:00:00:00:04" })
            "1").toRecord] ∧
      ((Watcher.new (.ofText "nodes.yaml")).poll noting
        (.file (.ofText (nodesOutline [decimalNode]).yaml "1")) []).value.handled =
          [(NodeEvent.mk "a" (some { name := "a", vxlanTunnelMac4 := some "51321600004" })
            "1").toRecord] := by
  have fields : decimalNode.descriptor.fieldTexts =
      [⟨.identifier, none, "66:00:00:00:00:04"⟩] := by decide +kernel
  have accepted : decimalNode.isAccepted = true := by
    rw [NodeDescription.isAccepted, fields]
    decide +kernel
  refine ⟨accepted, handled_poll_json (by decide +kernel) (by decide) "1", ?_⟩
  have texts : (nodesOutline [decimalNode]).texts =
      [⟨"a", by decide⟩, ⟨"66:00:00:00:00:04", by decide⟩] := by decide +kernel
  have means : Outline.IsMeaningful (nodesOutline [decimalNode]).texts := by
    rw [texts]
    exact List.forall_mem_cons.2 ⟨rfl, List.forall_mem_cons.2 ⟨rfl, nofun⟩⟩
  have listed :
      (Listing.ofDocument ((nodesOutline [decimalNode]).document meaning)).value.toOption = some
        ⟨Table.empty.put "a" { name := "a", vxlanTunnelMac4 := some "51321600004" }, []⟩ := by
    decide +kernel
  rw [toOption_eq_some_iff] at listed
  have yaml : (Path.ofText "nodes.yaml").suffix = ".yaml" ∨
      (Path.ofText "nodes.yaml").suffix = ".yml" := by decide +kernel
  have read := (readDocument_yaml_iff yaml [decimalNode] "1").2 ⟨means, rfl⟩
  rw [handled_poll_noting (Watcher.listingAt?_file_iff.2 ⟨_, read, listed, rfl⟩)]
  rfl

end Sample

end NodeDataplane
