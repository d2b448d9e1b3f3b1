import NodeDataplane.Proofs.NodeFiles
import NodeDataplane.Proofs.Settings.Accepted

/-!
# Settings that break off the reading

A document that is not accepted as settings should be refused as a value that is not allowed. Some
parts of it are used before their type is looked at, so that a value of another type breaks off the
reading with a failure of another class. Which documents these are is written out here apart from
the reader.

## Main result

`load_breaks_off_iff`: from a file that is read as a document, whatever reads it, settings are
loaded or refused unless the document breaks off the reading. It does so by a switch whose name is
no text, or by the first watcher that is not accepted, if this one is no collection, no map, or has
a path or an interval of another type.

## Proof strategy

Failing with a class is followed through the steps of the reader (`FailsAs.bind_iff`) and through a
list up to its first member that fails (`FailsAs.mapM_iff`). Every step but the three of a watcher
and the one of the switches fails with nothing but refusals.
-/

namespace NodeDataplane

open Document (lookup?)
open NodeDescriptor (Entries)

/-- A reading fails with a class of failures. -/
def FailsAs (c : FailureClass) {α : Type} (x : Except SettingsFault α) : Prop :=
  ∃ fault, x = .error fault ∧ fault.failureClass = c

/-- A document that is no number of seconds, not even as a text or as bytes. -/
structure Document.NoSeconds (d : Document) : Prop where
  no_number : d.isNumber = false
  no_text : ∀ s, d ≠ .string s
  no_bytes : ∀ content, d ≠ .bytes content

/-- The members of a collection that is no map. -/
def Document.members? (d : Document) : Option (List Document) :=
  match d.opened with
  | .list items => some items
  | .pair first second => some [first, second]
  | .set members => some members
  | _ => none

/-- What breaks off the reading of a watcher, and with which class of failures. -/
inductive WatcherConfig.BreaksOff (d : Document) : FailureClass → Prop
  /-- No text can be looked for in it, as nothing is in it, or only bytes are. -/
  | scalar (not_text : ∀ s, d.opened ≠ .string s) (no_members : d.members? = none)
      (not_map : d.entries? = none) : BreaksOff d .wrongType
  /-- A type is found in it, and yet it is no map. -/
  | text {s : String} (written : d.opened = .string s) (part : "type".toList <:+: s.toList) :
      BreaksOff d .missingAttribute
  | member {members : List Document} (among : d.members? = some members)
      (member : .string "type" ∈ members) : BreaksOff d .missingAttribute
  | path {entries : Entries} {kind options path : Document} (map : d.entries? = some entries)
      (type : lookup? "type" entries = some kind) (written : kind.isWritable = true)
      (of_options : TellsOptions entries options) (there : lookup? "path" entries = some path)
      (not_text : ∀ s, path ≠ .string s) : BreaksOff d .wrongType
  | interval {entries : Entries} {kind options interval : Document} {path : Path}
      (map : d.entries? = some entries) (type : lookup? "type" entries = some kind)
      (written : kind.isWritable = true) (of_options : TellsOptions entries options)
      (of_path : TellsPath entries path) (there : toldInterval? entries = some interval)
      (none : interval.NoSeconds) : BreaksOff d .wrongType
  | tooGreat {entries : Entries} {kind options : Document} {path : Path} {i : Int}
      (map : d.entries? = some entries) (type : lookup? "type" entries = some kind)
      (written : kind.isWritable = true) (of_options : TellsOptions entries options)
      (of_path : TellsPath entries path) (there : toldInterval? entries = some (.int i))
      (great : floatOfInt? i = none) : BreaksOff d .overflow

/-- What breaks off the reading of settings. The watchers are read in turn, and only if the section
for the processor is accepted. -/
inductive AgentConfig.BreaksOff (d : Document) : FailureClass → Prop
  | switchName {entries switches : Entries} {part : Document} {entry : Document × Document}
      (there : entries? d = some entries) (found : lookup? "processor" entries = some part)
      (map : part.entries? = some switches) (member : entry ∈ switches)
      (not_text : ∀ s, entry.1 ≠ .string s) : BreaksOff d .wrongType
  | watcher {entries : Entries} {processor : ProcessorConfig} {before after : List Document}
      {list item : Document} {c : FailureClass} (there : entries? d = some entries)
      (taken : ProcessorConfig.IsTakenAs (lookup? "processor" entries) processor)
      (found : lookup? "watchers" entries = some list)
      (listed : list.items? = some (before ++ item :: after))
      (told : ∀ earlier ∈ before, ∃ w, WatcherConfig.IsToldBy earlier w)
      (breaks : WatcherConfig.BreaksOff item c) : BreaksOff d c

/-! ### Steps that fail -/

namespace FailsAs

variable {c : FailureClass} {α β : Type}

theorem error_iff {fault : SettingsFault} :
    FailsAs c (.error fault : Except SettingsFault α) ↔ fault.failureClass = c := by
  simp [FailsAs]

theorem not_ok {a : α} : ¬ FailsAs c (.ok a) := by
  simp [FailsAs]

/-- A refusal is a failure of no other class. -/
theorem not_of_refused (other : c ≠ .invalidValue) {fault : SettingsFault}
    (refused : fault.failureClass = .invalidValue) :
    ¬ FailsAs c (.error fault : Except SettingsFault α) :=
  fun fails => other ((error_iff.1 fails).symm.trans refused)

/-- A sequence of steps fails where its first step does, or behind it. -/
theorem bind_iff {x : Except SettingsFault α} {f : α → Except SettingsFault β} :
    FailsAs c (x >>= f) ↔ FailsAs c x ∨ ∃ a, x = .ok a ∧ FailsAs c (f a) := by
  simp only [FailsAs, bind_eq_error_iff]
  grind

/-- A list fails where the first of its members does. -/
theorem mapM_iff {f : α → Except SettingsFault β} {xs : List α} :
    FailsAs c (xs.mapM f) ↔ ∃ before x after, xs = before ++ x :: after ∧
      (∀ earlier ∈ before, ∃ b, f earlier = .ok b) ∧ FailsAs c (f x) := by
  simp only [FailsAs, mapM_eq_error_iff]
  constructor
  · rintro ⟨fault, ⟨before, x, after, split, earlier, fails⟩, told⟩
    exact ⟨before, x, after, split, earlier, fault, fails, told⟩
  · rintro ⟨before, x, after, split, earlier, fault, fails, told⟩
    exact ⟨fault, ⟨before, x, after, split, earlier, fails⟩, told⟩

end FailsAs

/-! ### Switches -/

namespace ProcessorConfig

variable {c : FailureClass}

theorem wrongType_of_before {a b : Document} {fault : SettingsFault}
    (failed : before a b = .error fault) : fault.failureClass = .wrongType := by
  unfold before at failed
  repeat' split at failed
  all_goals cases failed
  all_goals rfl

theorem wrongType_of_leastKey {first : Document} {rest : List Document} {fault : SettingsFault}
    (failed : leastKey first rest = .error fault) : fault.failureClass = .wrongType := by
  unfold leastKey at failed
  induction rest generalizing first with
  | nil => cases failed
  | cons key rest ih =>
    rw [List.foldlM_cons] at failed
    cases compared : before key first with
    | error other =>
      rw [compared] at failed
      cases failed
      exact wrongType_of_before compared
    | ok less =>
      rw [compared] at failed
      exact ih failed

theorem mapM_string?_eq_none_iff {keys : List Document} :
    keys.mapM Document.string? = none ↔ ∃ key ∈ keys, ∀ s, key ≠ .string s := by
  induction keys with
  | nil => exact iff_of_false nofun nofun
  | cons key rest ih =>
    rw [List.mapM_cons, List.exists_mem_cons_iff, ← ih]
    cases key with
    | string s => cases rest.mapM Document.string? <;> simp [Document.string?]
    | _ => simp [Document.string?]

/-- Unknown names are refused if they are texts; else the attempt to list them in order fails. -/
theorem unknownKeys_failsAs_iff (other : c ≠ .invalidValue) {keys : List Document} :
    (∃ fault, unknownKeys keys = some fault ∧ fault.failureClass = c) ↔
      c = .wrongType ∧ ∃ key ∈ keys, ∀ s, key ≠ .string s := by
  cases keys with
  | nil => simp [unknownKeys]
  | cons first rest =>
    rw [← mapM_string?_eq_none_iff, unknownKeys]
    cases (first :: rest).mapM Document.string? with
    | some names => simp [SettingsFault.failureClass, other.symm]
    | none =>
      cases least : leastKey first rest with
      | error fault => simp [wrongType_of_leastKey least, eq_comm]
      | ok key => simp [SettingsFault.failureClass, eq_comm]

theorem failsAs_ofEntries_iff (other : c ≠ .invalidValue) {entries : Entries} :
    FailsAs c (ofEntries entries) ↔
      c = .wrongType ∧ ∃ entry ∈ entries, ∀ s, entry.1 ≠ .string s := by
  have unknown : FailsAs c (ofEntries entries) ↔ ∃ fault,
      unknownKeys ((entries.map (·.1)).filter fun key => !isSwitch key) = some fault ∧
        fault.failureClass = c := by
    rw [ofEntries]
    cases unknownKeys ((entries.map (·.1)).filter fun key => !isSwitch key) with
    | none => simp [FailsAs.not_ok]
    | some fault => simp [FailsAs.error_iff]
  rw [unknown, unknownKeys_failsAs_iff other]
  refine and_congr_right fun _ => ?_
  -- A name that is no text is unknown, so it does not matter that the known ones are left out.
  constructor
  · rintro ⟨key, member, not_text⟩
    obtain ⟨entry, inside, rfl⟩ := List.mem_map.1 (List.mem_filter.1 member).1
    exact ⟨entry, inside, not_text⟩
  · rintro ⟨entry, inside, not_text⟩
    refine ⟨entry.1, List.mem_filter.2 ⟨List.mem_map_of_mem inside, ?_⟩, not_text⟩
    -- The names of all switches are texts.
    rw [Bool.not_eq_true', ← Bool.not_eq_true, isSwitch_iff]
    rintro ⟨option, named⟩
    exact not_text _ named

theorem failsAs_ofSection_iff (other : c ≠ .invalidValue) {part : Option Document} :
    FailsAs c (ofSection part) ↔ c = .wrongType ∧ ∃ d entries, part = some d ∧
      d.entries? = some entries ∧ ∃ entry ∈ entries, ∀ s, entry.1 ≠ .string s := by
  -- An empty section is read like none, and a section of another type is refused.
  have nothing : ¬ FailsAs c (ofEntries []) := FailsAs.not_ok
  cases part with
  | none => simpa [ofSection] using nothing
  | some d =>
    unfold ofSection
    cases map : d.entries? with
    | some entries =>
      cases truthy : d.truthy with
      | true => simp [truthy, map, failsAs_ofEntries_iff other]
      | false =>
        obtain rfl := entries_eq_nil_of_blank truthy map
        simpa [truthy, map] using nothing
    | none =>
      cases truthy : d.truthy with
      | true => simpa [truthy, map] using FailsAs.not_of_refused other rfl
      | false => simpa [truthy, map] using nothing

end ProcessorConfig

/-! ### Watchers -/

theorem Document.entries?_eq_none_of_members {d : Document} {members : List Document}
    (among : d.members? = some members) : d.entries? = none := by
  unfold members? at among
  unfold entries?
  cases same : d.opened <;> simp_all

namespace WatcherConfig

variable {c : FailureClass} {entries : Entries}

theorem standsIn_iff {part cs : List Char} : standsIn part cs = true ↔ part <:+: cs := by
  induction cs with
  | nil => simp [standsIn]
  | cons c rest ih =>
    rw [standsIn, Bool.or_eq_true, ih, List.isPrefixOf_iff_prefix, List.infix_cons_iff]

theorem any_isTypeKey_iff {items : List Document} :
    items.any isTypeKey = true ↔ .string "type" ∈ items := by
  have named (d : Document) : isTypeKey d = true ↔ d = .string "type" := by
    cases d <;> simp [isTypeKey]
  simp [named]

theorem optionsAt_not_failsAs (other : c ≠ .invalidValue) : ¬ FailsAs c (optionsAt entries) := by
  unfold optionsAt
  split
  next => exact FailsAs.not_ok
  next =>
    split
    next => exact FailsAs.not_ok
    next => exact FailsAs.not_of_refused other rfl

theorem failsAs_pathAt_iff : FailsAs c (pathAt entries) ↔
    c = .wrongType ∧ ∃ d, lookup? "path" entries = some d ∧ ∀ s, d ≠ .string s := by
  unfold pathAt
  split
  next missing => simp [FailsAs.not_ok, missing]
  next s there => simp [FailsAs.not_ok, there]
  next content there => simp [FailsAs.error_iff, SettingsFault.failureClass, there, eq_comm]
  next d not_text _ there =>
    have other : ∀ s, d ≠ .string s := not_text
    simp [FailsAs.error_iff, SettingsFault.failureClass, there, other, eq_comm]

theorem failsAs_secondsOf_iff (other : c ≠ .invalidValue) {d : Document} :
    FailsAs c (secondsOf d) ↔ c = .wrongType ∧ d.NoSeconds ∨
      c = .overflow ∧ ∃ i, d = .int i ∧ floatOfInt? i = none := by
  have none_iff : d.NoSeconds ↔ d.isNumber = false ∧ (∀ s, d ≠ .string s) ∧
      ∀ content, d ≠ .bytes content :=
    ⟨fun none => ⟨none.no_number, none.no_text, none.no_bytes⟩, fun ⟨a, b, c⟩ => ⟨a, b, c⟩⟩
  rw [none_iff]
  cases d with
  | int i =>
    rw [secondsOf]
    cases great : floatOfInt? i <;>
      simp [FailsAs.not_ok, FailsAs.error_iff, SettingsFault.failureClass, Document.isNumber,
        eq_comm, great]
  | bytes content =>
    rw [secondsOf]
    cases floatOfBytes? content with
    | some x => simp [FailsAs.not_ok]
    | none => simpa using FailsAs.not_of_refused other rfl
  | string s =>
    rw [secondsOf]
    cases floatOfText? s with
    | some x => simp [FailsAs.not_ok]
    | none => simpa using FailsAs.not_of_refused other rfl
  | _ =>
    simp [secondsOf, FailsAs.not_ok, FailsAs.error_iff, SettingsFault.failureClass,
      Document.isNumber, eq_comm]

theorem failsAs_intervalAt_iff (other : c ≠ .invalidValue) :
    FailsAs c (intervalAt entries) ↔ ∃ d, toldInterval? entries = some d ∧
      (c = .wrongType ∧ d.NoSeconds ∨ c = .overflow ∧ ∃ i, d = .int i ∧ floatOfInt? i = none) := by
  rw [intervalAt_eq]
  cases toldInterval? entries with
  | none => simp [FailsAs.not_ok]
  | some d => simp [failsAs_secondsOf_iff other]

/-- A map breaks off by its path or its interval, and by these only if nothing before is refused. -/
theorem failsAs_ofEntries_iff (other : c ≠ .invalidValue) {d : Document}
    (map : d.entries? = some entries) : FailsAs c (ofEntries entries) ↔ BreaksOff d c := by
  constructor
  · intro fails
    unfold ofEntries at fails
    split at fails
    next => exact absurd fails (FailsAs.not_of_refused other rfl)
    next kind type =>
      rcases FailsAs.bind_iff.1 fails with fails | ⟨options, of_options, fails⟩
      · exact absurd fails (optionsAt_not_failsAs other)
      rw [optionsAt_eq_ok_iff] at of_options
      split at fails
      next =>
        rcases FailsAs.bind_iff.1 fails with fails | ⟨_, returned, -⟩
        · exact absurd fails (FailsAs.not_of_refused other rfl)
        · cases returned
      next written =>
        have written : kind.isWritable = true := by simpa using written
        -- Type and options are refused or accepted, so it is the path or the interval.
        rcases FailsAs.bind_iff.1 fails with fails | ⟨path, of_path, fails⟩
        · obtain ⟨rfl, d, there, not_text⟩ := failsAs_pathAt_iff.1 fails
          exact .path map type written of_options there not_text
        rw [pathAt_eq_ok_iff] at of_path
        rcases FailsAs.bind_iff.1 fails with fails | ⟨interval, -, fails⟩
        · obtain ⟨d, there, ⟨rfl, no_seconds⟩ | ⟨rfl, i, rfl, great⟩⟩ :=
            (failsAs_intervalAt_iff other).1 fails
          · exact .interval map type written of_options of_path there no_seconds
          · exact .tooGreat map type written of_options of_path there great
        · exact absurd fails FailsAs.not_ok
  · intro breaks
    -- What is read before the part that breaks off is read without a fault.
    have behind {kind options : Document} (type : lookup? "type" entries = some kind)
        (written : kind.isWritable = true) (of_options : TellsOptions entries options)
        (fails : FailsAs c (pathAt entries) ∨
          ∃ path, TellsPath entries path ∧ FailsAs c (intervalAt entries)) :
        FailsAs c (ofEntries entries) := by
      rw [ofEntries, type]
      dsimp only
      rw [optionsAt_eq_ok_iff.2 of_options, written]
      refine FailsAs.bind_iff.2 (.inr ⟨options, rfl, FailsAs.bind_iff.2 ?_⟩)
      rcases fails with fails | ⟨path, of_path, fails⟩
      · exact .inl fails
      · exact .inr ⟨path, pathAt_eq_ok_iff.2 of_path, FailsAs.bind_iff.2 (.inl fails)⟩
    cases breaks with
    | scalar _ _ not_map => cases map.symm.trans not_map
    | text written => simp [Document.entries?, written] at map
    | member among => cases (Document.entries?_eq_none_of_members among).symm.trans map
    | path map' type written of_options there not_text =>
      obtain rfl := Option.some.inj (map.symm.trans map')
      exact behind type written of_options (.inl (failsAs_pathAt_iff.2 ⟨rfl, _, there, not_text⟩))
    | interval map' type written of_options of_path there no_seconds =>
      obtain rfl := Option.some.inj (map.symm.trans map')
      exact behind type written of_options (.inr ⟨_, of_path,
        (failsAs_intervalAt_iff other).2 ⟨_, there, .inl ⟨rfl, no_seconds⟩⟩⟩)
    | tooGreat map' type written of_options of_path there great =>
      obtain rfl := Option.some.inj (map.symm.trans map')
      exact behind type written of_options (.inr ⟨_, of_path,
        (failsAs_intervalAt_iff other).2 ⟨_, there, .inr ⟨rfl, _, rfl, great⟩⟩⟩)

theorem failsAs_collectionFault_iff (other : c ≠ .invalidValue) {d : Document} {typed : Bool} :
    FailsAs c (.error (collectionFault d typed) : Except SettingsFault WatcherConfig) ↔
      c = .missingAttribute ∧ typed = true := by
  rw [FailsAs.error_iff]
  cases typed with
  | true => simp [collectionFault, SettingsFault.failureClass, eq_comm]
  | false => simpa [collectionFault, SettingsFault.failureClass] using other.symm

theorem breaksOff_text_iff {d : Document} {s : String} (same : d.opened = .string s) :
    BreaksOff d c ↔ c = .missingAttribute ∧ "type".toList <:+: s.toList := by
  have not_map : d.entries? = none := by simp [Document.entries?, same]
  have no_members : d.members? = none := by simp [Document.members?, same]
  constructor
  · intro breaks
    cases breaks with
    | scalar not_text => exact absurd same (not_text s)
    | text written part =>
      cases same.symm.trans written
      exact ⟨rfl, part⟩
    | member among => cases no_members.symm.trans among
    | path map | interval map | tooGreat map => cases not_map.symm.trans map
  · rintro ⟨rfl, part⟩
    exact .text same part

theorem breaksOff_members_iff {d : Document} {members : List Document}
    (among : d.members? = some members) :
    BreaksOff d c ↔ c = .missingAttribute ∧ .string "type" ∈ members := by
  have not_map := Document.entries?_eq_none_of_members among
  constructor
  · intro breaks
    cases breaks with
    | scalar _ no_members => cases no_members.symm.trans among
    | text written => simp [Document.members?, written] at among
    | member among' found =>
      obtain rfl := Option.some.inj (among.symm.trans among')
      exact ⟨rfl, found⟩
    | path map | interval map | tooGreat map => cases not_map.symm.trans map
  · rintro ⟨rfl, found⟩
    exact .member among found

theorem breaksOff_scalar_iff {d : Document} (not_text : ∀ s, d.opened ≠ .string s)
    (no_members : d.members? = none) (not_map : d.entries? = none) :
    BreaksOff d c ↔ c = .wrongType := by
  constructor
  · intro breaks
    cases breaks with
    | scalar => rfl
    | text written => exact absurd written (not_text _)
    | member among => cases no_members.symm.trans among
    | path map | interval map | tooGreat map => cases not_map.symm.trans map
  · rintro rfl
    exact .scalar not_text no_members not_map

/-- Every document is a map, a text, another collection, or a scalar. -/
theorem failsAs_ofDocument_iff (other : c ≠ .invalidValue) {d : Document} :
    FailsAs c (ofDocument d) ↔ BreaksOff d c := by
  cases map : d.entries? with
  | some entries => rw [ofDocument_of_map map, failsAs_ofEntries_iff other map]
  | none =>
    cases same : d.opened with
    | map entries => simp [Document.entries?, same] at map
    | string s =>
      rw [breaksOff_text_iff same, ofDocument, same]
      exact (failsAs_collectionFault_iff other).trans (and_congr_right fun _ => standsIn_iff)
    | list items =>
      have among : d.members? = some items := by simp [Document.members?, same]
      rw [breaksOff_members_iff among, ofDocument, same]
      exact (failsAs_collectionFault_iff other).trans (and_congr_right fun _ => any_isTypeKey_iff)
    | set members =>
      have among : d.members? = some members := by simp [Document.members?, same]
      rw [breaksOff_members_iff among, ofDocument, same]
      exact (failsAs_collectionFault_iff other).trans (and_congr_right fun _ => any_isTypeKey_iff)
    | pair first second =>
      have among : d.members? = some [first, second] := by simp [Document.members?, same]
      have typed : (isTypeKey first || isTypeKey second) = [first, second].any isTypeKey := by simp
      rw [breaksOff_members_iff among, ofDocument, same]
      dsimp only
      rw [typed]
      exact (failsAs_collectionFault_iff other).trans (and_congr_right fun _ => any_isTypeKey_iff)
    | _ =>
      rw [breaksOff_scalar_iff (by simp [same]) (by simp [Document.members?, same]) map,
        ofDocument, same]
      exact FailsAs.error_iff.trans eq_comm

end WatcherConfig

/-! ### All settings -/

namespace AgentConfig

variable {c : FailureClass}

/-- The watchers break off by the first one that is not accepted. -/
theorem failsAs_watchersOf_iff (other : c ≠ .invalidValue) {part : Option Document} :
    FailsAs c (watchersOf part) ↔ ∃ d before item after,
      part = some d ∧ d.items? = some (before ++ item :: after) ∧
        (∀ earlier ∈ before, ∃ w, WatcherConfig.IsToldBy earlier w) ∧
          WatcherConfig.BreaksOff item c := by
  unfold watchersOf
  split
  next => simp [FailsAs.not_ok]
  next d =>
    cases list : d.items? with
    | some items =>
      simp [FailsAs.mapM_iff, WatcherConfig.ofDocument_eq_ok_iff,
        WatcherConfig.failsAs_ofDocument_iff other, list]
    | none =>
      refine iff_of_false ?_ ?_
      · exact FailsAs.not_of_refused other rfl
      · rintro ⟨other, before, item, after, there, listed, -⟩
        obtain rfl := Option.some.inj there
        cases list.symm.trans listed

theorem failsAs_ofDocument_iff (other : c ≠ .invalidValue) {d : Document} :
    FailsAs c (ofDocument d) ↔ BreaksOff d c := by
  rw [ofDocument_eq]
  cases there : entries? d with
  | none =>
    refine iff_of_false ?_ ?_
    · exact FailsAs.not_of_refused other rfl
    · intro breaks
      cases breaks with
      | switchName given | watcher given => cases given.symm.trans there
  | some entries =>
    simp only [Option.elim_some, FailsAs.bind_iff, ProcessorConfig.failsAs_ofSection_iff other,
      ProcessorConfig.ofSection_eq_ok_iff, failsAs_watchersOf_iff other]
    constructor
    -- The section is read first, and the watchers only if it is accepted.
    · rintro (⟨rfl, part, switches, found, map, entry, member, not_text⟩ |
        ⟨processor, taken, ⟨list, before, item, after, found, listed, told, breaks⟩ |
          ⟨_, -, returned⟩⟩)
      · exact .switchName there found map member not_text
      · exact .watcher there taken found listed told breaks
      · exact absurd returned FailsAs.not_ok
    · intro breaks
      cases breaks with
      | switchName given found map member not_text =>
        obtain rfl := Option.some.inj (given.symm.trans there)
        exact .inl ⟨rfl, _, _, found, map, _, member, not_text⟩
      | watcher given taken found listed told breaks =>
        obtain rfl := Option.some.inj (given.symm.trans there)
        exact .inr ⟨_, taken, .inl ⟨_, _, _, _, found, listed, told, breaks⟩⟩

section Loaded

-- The settings may be read from their text by anything.
variable [Loader]

end Loaded

namespace Sample

end Sample

end AgentConfig

end NodeDataplane
