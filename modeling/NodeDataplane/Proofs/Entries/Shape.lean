import NodeDataplane.Proofs.JsonValues
import NodeDataplane.Proofs.NodeDescription

/-!
# The shape of an entry

The entry of a node is checked for its shape alone. What shape it has to have is written out here
apart from the reader, and so is what can be wrong with it.

## Main results

- `isWellFormed_of_ofDocument`: what is read as a node has the shape of one.
- `isOf_of_ofDocument`: what is not read has the very thing wrong with it that is reported, provided
  that all in it has a text and none of it is a knot.

## Proof strategy

A part of an entry fails for a fault of the entry only: of all that can be wrong with an entry, each
part looks at one thing, and at nothing else as long as the entry is simple. No fault is one of a
well-formed entry (`not_isWellFormed_of_isOf`), so that these are all read.
-/

namespace NodeDataplane

open Document (lookup? everyItem everyEntry isPlainPart)
open NodeDescriptor (Entries)

/-! ### The shape of an entry -/

namespace NodeDescriptor

/-- A section is not there: it is left out, or it is null. -/
inductive IsNoSection : Option Document → Prop
  | missing : IsNoSection none
  | null : IsNoSection (some .null)

/-- A section is a map, unless it is not there. -/
def FitsSection (part : Option Document) : Prop :=
  IsNoSection part ∨ ∃ inner, part = some (.map inner)

/-- An address entry tells its address, and its class by name if at all. -/
def FitsAddress (d : Document) : Prop :=
  ∃ entries, d = .map entries ∧ (∃ value, lookup? "address" entries = some value) ∧
    ∀ value ∈ lookup? "type" entries, ∃ kind : AddressKind, value = .string kind.name

structure EntriesFit (entries : Entries) : Prop where
  name : ∃ value ∈ lookup? "name" entries, value.truthy = true
  bgp : FitsSection (lookup? "bgp" entries)
  mesh : FitsSection (lookup? "mesh" entries)
  podBlocks : ∀ value ∈ lookup? "pod_cidrs" entries, ∃ items, value = .list items
  addresses : ∀ value ∈ lookup? "addresses" entries, ∃ items, value = .list items ∧
    ∀ item ∈ items, FitsAddress item

/-- A document has the shape of a node. -/
def IsWellFormed (d : Document) : Prop := ∃ entries, d = .map entries ∧ EntriesFit entries

end NodeDescriptor

/-- What is wrong with an entry. Several things may be. -/
inductive EntryFault.IsOf : Document → EntryFault → Prop
  | notMap {d : Document} (other : ∀ entries, d ≠ .map entries) : IsOf d .notMap
  | noName {entries : Entries}
      (nameless : ∀ value ∈ lookup? "name" entries, value.truthy = false) :
      IsOf (.map entries) .noName
  | sectionNotMap {entries : Entries} {key : String} {value : Document}
      (part : key = "bgp" ∨ key = "mesh") (there : lookup? key entries = some value)
      (not_null : value ≠ .null) (not_map : ∀ inner, value ≠ .map inner) :
      IsOf (.map entries) (.sectionNotMap key)
  | notList {entries : Entries} {key : String} {value : Document}
      (part : key = "pod_cidrs" ∨ key = "addresses") (there : lookup? key entries = some value)
      (not_list : ∀ items, value ≠ .list items) : IsOf (.map entries) (.notList key)
  | noAddress {entries : Entries} {items : List Document} {item : Document}
      (there : lookup? "addresses" entries = some (.list items)) (member : item ∈ items)
      (silent : ∀ inner, item = .map inner → lookup? "address" inner = none) :
      IsOf (.map entries) .noAddress
  | unknownAddressKind {entries inner : Entries} {items : List Document} {value : Document}
      (there : lookup? "addresses" entries = some (.list items)) (member : .map inner ∈ items)
      (told : lookup? "type" inner = some value)
      (unknown : ∀ kind : AddressKind, value ≠ .string kind.name) :
      IsOf (.map entries) (.unknownAddressKind value.shown)

namespace NodeDescriptor

/-! ### The parts of an entry -/

variable {entries : Entries}

theorem sectionAt_eq_ok_iff {key : String} {part : Option Entries} :
    sectionAt entries key = .ok part ↔ IsNoSection (lookup? key entries) ∧ part = none ∨
      ∃ value inner, lookup? key entries = some value ∧ value.entries? = some inner ∧
        part = some inner := by
  constructor
  · intro read
    unfold sectionAt at read
    split at read
    next missing =>
      cases read
      exact .inl ⟨missing ▸ .missing, rfl⟩
    next null =>
      cases read
      exact .inl ⟨null ▸ .null, rfl⟩
    next value _ there =>
      split at read
      next inner map =>
        cases read
        exact .inr ⟨value, inner, there, map, rfl⟩
      next => cases read
  · unfold sectionAt
    generalize lookup? key entries = told
    rintro (⟨nothing, rfl⟩ | ⟨value, inner, rfl, map, rfl⟩)
    · cases nothing <;> rfl
    · split
      next missing => cases missing
      next null =>
        cases null
        cases map
      next other same =>
        cases same
        rw [map]

theorem listAt_eq_ok_iff {key : String} {items : List Document} :
    listAt entries key = .ok items ↔ lookup? key entries = none ∧ items = [] ∨
      ∃ value, lookup? key entries = some value ∧ value.items? = some items := by
  unfold listAt
  cases lookup? key entries with
  | none => simp [eq_comm]
  | some value => cases listed : value.items? <;> simp [listed]

/-- A class of addresses is told by its name and by nothing else. -/
theorem bind_ofName?_eq_some_iff {value : Document} {kind : AddressKind} :
    value.string?.bind AddressKind.ofName? = some kind ↔ value = .string kind.name := by
  cases value with
  | string s => simp [Document.string?, AddressKind.ofName?_eq_some_iff]
  | _ => simp [Document.string?]

theorem addressKind_eq_ok_iff {kind : AddressKind} :
    addressKind entries = .ok kind ↔ lookup? "type" entries = some (.string kind.name) ∨
      lookup? "type" entries = none ∧ kind = .internal := by
  unfold addressKind
  cases lookup? "type" entries with
  | none => simp [eq_comm]
  | some value =>
    simp only [Option.some.injEq, ← bind_ofName?_eq_some_iff, reduceCtorEq, false_and, or_false]
    cases value.string?.bind AddressKind.ofName? <;> simp

/-! ### What is wrong with an entry -/

variable {fault : EntryFault}

theorem not_isWellFormed_of_isOf {d : Document} (wrong : fault.IsOf d) : ¬ IsWellFormed d := by
  rintro ⟨entries, rfl, fits⟩
  -- Every fault is against one of the conditions on the shape.
  cases wrong with
  | notMap other => exact other _ rfl
  | noName nameless =>
    obtain ⟨value, there, truthy⟩ := fits.name
    exact Bool.noConfusion ((nameless value there).symm.trans truthy)
  | @sectionNotMap _ key _ part there not_null not_map =>
    have fit : FitsSection (lookup? key entries) := by
      rcases part with rfl | rfl
      · exact fits.bgp
      · exact fits.mesh
    rw [FitsSection, there] at fit
    rcases fit with nothing | ⟨inner, map⟩
    · cases nothing
      exact not_null rfl
    · exact not_map inner (Option.some.inj map)
  | notList part there not_list =>
    rcases part with rfl | rfl
    · obtain ⟨items, list⟩ := fits.podBlocks _ there
      exact not_list items list
    · obtain ⟨items, list, -⟩ := fits.addresses _ there
      exact not_list items list
  | noAddress there member silent =>
    obtain ⟨items, list, each⟩ := fits.addresses _ there
    -- The list that fits is the one in which the fault is.
    cases list
    obtain ⟨inner, rfl, ⟨value, told⟩, -⟩ := each _ member
    cases (silent inner rfl).symm.trans told
  | unknownAddressKind there member told unknown =>
    obtain ⟨items, list, each⟩ := fits.addresses _ there
    cases list
    obtain ⟨_, map, -, known⟩ := each _ member
    cases map
    obtain ⟨kind, named⟩ := known _ told
    exact unknown kind named

theorem textOf_ne_error {value : Document} (simple : value.isSimple = true) :
    textOf value ≠ .error fault := by
  simp [textOf, Document.isWritable_of_isSimple value simple]

theorem textAt_ne_error (simple : everyEntry isPlainPart entries = true) {key : String} :
    textAt entries key ≠ .error fault := by
  unfold textAt
  split
  next => nofun
  next => nofun
  next value there => exact textOf_ne_error (Document.every_of_lookup? simple there)

theorem bgpOf_ne_error (simple : everyEntry isPlainPart entries = true) :
    bgpOf entries ≠ .error fault := by
  simp [bgpOf, bind_eq_error_iff, textAt_ne_error simple, pure, Except.pure]

theorem meshOf_ne_error (simple : everyEntry isPlainPart entries = true) :
    meshOf entries ≠ .error fault := by
  simp [meshOf, bind_eq_error_iff, textAt_ne_error simple, pure, Except.pure]

theorem isOf_of_nameAt (simple : everyEntry isPlainPart entries = true)
    (failed : nameAt entries = .error fault) : fault.IsOf (.map entries) := by
  unfold nameAt at failed
  split at failed
  next missing =>
    cases failed
    exact .noName (by simp [missing])
  next value there =>
    split at failed
    next => exact absurd failed (textOf_ne_error (Document.every_of_lookup? simple there))
    next blank =>
      cases failed
      exact .noName (by simpa [there] using blank)

/-- A section fails for being no map only, since all its texts can be written. -/
theorem isOf_of_section {α : Type} {read : Entries → Except EntryFault α} {key : String}
    (part : key = "bgp" ∨ key = "mesh") (simple : everyEntry isPlainPart entries = true)
    (reads : ∀ inner, everyEntry isPlainPart inner = true → read inner ≠ .error fault)
    (failed : (sectionAt entries key >>= (·.mapM read)) = .error fault) :
    fault.IsOf (.map entries) := by
  unfold sectionAt at failed
  split at failed
  next => cases failed
  next => cases failed
  next value not_null there =>
    have here : value.isSimple = true := Document.every_of_lookup? simple there
    split at failed
    next inner map =>
      -- A section that is a map is read, as everything in it has a text.
      obtain rfl := (Document.entries?_eq_some_iff here).1 map
      have inside := reads inner here
      cases result : read inner with
      | error other => simp_all [bind, Except.bind, Functor.map, Except.map]
      | ok a => simp [bind, Except.bind, Functor.map, Except.map, result] at failed
    next not_map =>
      cases failed
      refine .sectionNotMap part there (fun same => not_null same) ?_
      rintro inner rfl
      cases not_map

theorem isOf_of_listAt {key : String} (part : key = "pod_cidrs" ∨ key = "addresses")
    (failed : listAt entries key = .error fault) : fault.IsOf (.map entries) := by
  unfold listAt at failed
  split at failed
  next => cases failed
  next value there =>
    split at failed
    next => cases failed
    next not_list =>
      cases failed
      refine .notList part there ?_
      rintro items rfl
      cases not_list

theorem isOf_of_addressKind {items : List Document} {inner : Entries}
    (there : lookup? "addresses" entries = some (.list items)) (member : .map inner ∈ items)
    (simple : everyEntry isPlainPart inner = true) (failed : addressKind inner = .error fault) :
    fault.IsOf (.map entries) := by
  unfold addressKind at failed
  split at failed
  next => cases failed
  next value told =>
    split at failed
    next => cases failed
    next nameless =>
      have here : value.isSimple = true := Document.every_of_lookup? simple told
      rw [if_pos (Document.isWritable_of_isSimple value here)] at failed
      cases failed
      refine .unknownAddressKind there member told fun kind named => ?_
      cases nameless.symm.trans (bind_ofName?_eq_some_iff.2 named)

theorem isOf_of_addressOf {items : List Document} {item : Document}
    (there : lookup? "addresses" entries = some (.list items)) (member : item ∈ items)
    (simple : item.isSimple = true) (failed : addressOf item = .error fault) :
    fault.IsOf (.map entries) := by
  unfold addressOf at failed
  split at failed
  next inner map =>
    obtain rfl := (Document.entries?_eq_some_iff simple).1 map
    have inside : everyEntry isPlainPart inner = true := simple
    split at failed
    next missing =>
      cases failed
      exact .noAddress there member fun other same => by cases same; exact missing
    next address given =>
      rcases bind_eq_error_iff.1 failed with failed | ⟨text, -, failed⟩
      · exact absurd failed (textOf_ne_error (Document.every_of_lookup? inside given))
      rcases bind_eq_error_iff.1 failed with failed | ⟨kind, -, returned⟩
      · exact isOf_of_addressKind there member inside failed
      · cases returned
  next not_map =>
    cases failed
    refine .noAddress there member ?_
    rintro inner rfl
    cases not_map

/-- The steps in which an entry is read, each of them for one part. -/
theorem ofEntries_eq (entries : Entries) : ofEntries entries = (do
    let name ← nameAt entries
    let bgp ← sectionAt entries "bgp" >>= (·.mapM bgpOf)
    let mesh ← sectionAt entries "mesh" >>= (·.mapM meshOf)
    let podBlocks ← listAt entries "pod_cidrs"
    let addresses ← listAt entries "addresses" >>= (·.mapM addressOf)
    let vxlanTunnelAddress4 ← textAt entries "ipv4_vxlan_tunnel_addr"
    let vxlanTunnelAddress6 ← textAt entries "ipv6_vxlan_tunnel_addr"
    let vxlanTunnelMac4 ← textAt entries "vxlan_tunnel_mac_v4"
    let vxlanTunnelMac6 ← textAt entries "vxlan_tunnel_mac_v6"
    let meshPublicKey ← textAt entries "mesh_public_key"
    let podBlocks ← podBlocks.mapM textOf
    return {
      name, bgp, addresses, mesh, podBlocks
      vxlanTunnelAddress4 := some vxlanTunnelAddress4
      vxlanTunnelAddress6 := some vxlanTunnelAddress6
      vxlanTunnelMac4 := some vxlanTunnelMac4
      vxlanTunnelMac6 := some vxlanTunnelMac6
      meshPublicKey := some meshPublicKey }) := by
  simp only [ofEntries, bind_assoc]

/-- A list in a simple map is one as it stands there, and its members are simple. -/
theorem eq_list_of_listAt (simple : everyEntry isPlainPart entries = true) {key : String}
    {items : List Document} (read : listAt entries key = .ok items) :
    (∀ value ∈ lookup? key entries, value = .list items) ∧
      ∀ item ∈ items, item.isSimple = true := by
  rcases listAt_eq_ok_iff.1 read with ⟨missing, rfl⟩ | ⟨value, there, listed⟩
  · simp [missing]
  · have here : value.isSimple = true := Document.every_of_lookup? simple there
    obtain rfl := (Document.items?_eq_some_iff here).1 listed
    exact ⟨by simp [there], Document.everyItem_iff.1 here⟩

theorem isOf_of_addresses (simple : everyEntry isPlainPart entries = true)
    (failed : (listAt entries "addresses" >>= (·.mapM addressOf)) = .error fault) :
    fault.IsOf (.map entries) := by
  rcases bind_eq_error_iff.1 failed with failed | ⟨items, read, failed⟩
  · exact isOf_of_listAt (.inr rfl) failed
  obtain ⟨before, item, after, rfl, -, failed⟩ := mapM_eq_error_iff.1 failed
  have member : item ∈ before ++ item :: after := by simp
  obtain ⟨list, members⟩ := eq_list_of_listAt simple read
  rcases listAt_eq_ok_iff.1 read with ⟨-, empty⟩ | ⟨value, there, -⟩
  · simp at empty
  · rw [list value there] at there
    exact isOf_of_addressOf there member (members item member) failed

theorem podBlocks_ne_error (simple : everyEntry isPlainPart entries = true) {items : List Document}
    (read : listAt entries "pod_cidrs" = .ok items) : items.mapM textOf ≠ .error fault := by
  intro failed
  obtain ⟨before, item, after, rfl, -, failed⟩ := mapM_eq_error_iff.1 failed
  exact textOf_ne_error ((eq_list_of_listAt simple read).2 item (by simp)) failed

/-- A simple map fails for what is wrong with it. -/
theorem isOf_of_ofEntries (simple : everyEntry isPlainPart entries = true)
    (failed : ofEntries entries = .error fault) : fault.IsOf (.map entries) := by
  rw [ofEntries_eq] at failed
  -- The parts are gone through in the order in which they are read.
  rcases bind_eq_error_iff.1 failed with failed | ⟨name, -, failed⟩
  · exact isOf_of_nameAt simple failed
  rcases bind_eq_error_iff.1 failed with failed | ⟨bgp, -, failed⟩
  · exact isOf_of_section (.inl rfl) simple (fun _ inside => bgpOf_ne_error inside) failed
  rcases bind_eq_error_iff.1 failed with failed | ⟨mesh, -, failed⟩
  · exact isOf_of_section (.inr rfl) simple (fun _ inside => meshOf_ne_error inside) failed
  rcases bind_eq_error_iff.1 failed with failed | ⟨podBlocks, listed, failed⟩
  · exact isOf_of_listAt (.inl rfl) failed
  rcases bind_eq_error_iff.1 failed with failed | ⟨addresses, -, failed⟩
  · exact isOf_of_addresses simple failed
  -- What is left are texts, and these can be written.
  simp only [bind_eq_error_iff, textAt_ne_error simple, podBlocks_ne_error simple listed, pure,
    Except.pure, reduceCtorEq, and_false, exists_false, or_self] at failed

/-- A simple entry fails for what is wrong with it. -/
theorem isOf_of_ofDocument {d : Document} (simple : d.isSimple = true)
    (failed : ofDocument d = .error fault) : fault.IsOf d := by
  unfold ofDocument at failed
  split at failed
  next entries map =>
    obtain rfl := (Document.entries?_eq_some_iff simple).1 map
    exact isOf_of_ofEntries simple failed
  next not_map =>
    cases failed
    refine .notMap ?_
    rintro entries rfl
    cases not_map

/-! ### What is read -/

theorem fitsSection_of_sectionAt (simple : everyEntry isPlainPart entries = true) {key : String}
    {part : Option Entries} (read : sectionAt entries key = .ok part) :
    FitsSection (lookup? key entries) := by
  rcases sectionAt_eq_ok_iff.1 read with ⟨nothing, -⟩ | ⟨value, inner, there, map, -⟩
  · exact .inl nothing
  · have here : value.isSimple = true := Document.every_of_lookup? simple there
    exact .inr ⟨inner, by rw [there, (Document.entries?_eq_some_iff here).1 map]⟩

theorem fitsAddress_of_addressOf {item : Document} {a : NodeAddress} (simple : item.isSimple = true)
    (read : addressOf item = .ok a) : FitsAddress item := by
  unfold addressOf at read
  split at read
  next inner map =>
    split at read
    next => cases read
    next address given =>
      obtain ⟨_, -, read⟩ := bind_eq_ok_iff.1 read
      obtain ⟨kind, known, -⟩ := bind_eq_ok_iff.1 read
      refine ⟨inner, (Document.entries?_eq_some_iff simple).1 map, ⟨address, given⟩,
        fun value told => ⟨kind, ?_⟩⟩
      rcases addressKind_eq_ok_iff.1 known with named | ⟨missing, -⟩
      · exact Option.some.inj (told.symm.trans named)
      · cases missing.symm.trans told
  next => cases read

/-- A simple entry that is read has the shape of a node. -/
theorem isWellFormed_of_ofDocument {d : Document} {node : NodeDescriptor}
    (simple : d.isSimple = true) (read : ofDocument d = .ok node) : IsWellFormed d := by
  unfold ofDocument at read
  split at read
  next entries map =>
    obtain rfl := (Document.entries?_eq_some_iff simple).1 map
    have inside : everyEntry isPlainPart entries = true := simple
    obtain ⟨name, ⟨bgp, of_bgp, -⟩, ⟨mesh, of_mesh, -⟩, ⟨blocks, of_blocks, -⟩,
      ⟨items, of_items, each⟩, -⟩ := ofEntries_eq_ok_iff.1 read
    have addresses := eq_list_of_listAt inside of_items
    refine ⟨entries, rfl, ?_, fitsSection_of_sectionAt inside of_bgp,
      fitsSection_of_sectionAt inside of_mesh,
      fun value there => ⟨blocks, (eq_list_of_listAt inside of_blocks).1 value there⟩,
      fun value there => ⟨items, addresses.1 value there, fun item member => ?_⟩⟩
    · unfold nameAt at name
      split at name
      next => cases name
      next value there =>
        split at name
        next truthy => exact ⟨value, there, truthy⟩
        next => cases name
    · obtain ⟨a, read⟩ := exists_of_mapM_eq_ok each item member
      exact fitsAddress_of_addressOf (addresses.2 item member) read
  next => cases read

end NodeDescriptor

end NodeDataplane
