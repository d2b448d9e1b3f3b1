import NodeDataplane.NodeEntry
import NodeDataplane.Proofs.Steps
import NodeDataplane.Settings
import NodeDataplane.SwitchOptions

/-!
# Settings that are accepted

The settings of the agent are told by a document. What a document has to be like to be accepted, and
what it is taken as, is written out here apart from the reader. A document says its settings if the
switches are truth values and stand in a map, which may be left out or be null. Some documents are
accepted that do not say their settings: a text or a number is taken for a truth value, and a
section of any type that is empty is taken for none.

## Main result

`accepted_settings`: a document is accepted exactly if its section for the processor and its list of
watchers are taken as the settings. It says them unless a switch is no truth value, or the section
is something empty that is neither null nor a map.

## Proof strategy

Every part of the reader has its judgment (`ProcessorConfig.IsTakenAs`, `WatcherConfig.IsToldBy`,
`AgentConfig.WatchersToldBy`), and is shown to accept what the judgment does, from the inside out.
-/

namespace NodeDataplane

open Document (lookup?)
open NodeDescriptor (Entries)

/-! ### The section for the processor -/

namespace ProcessorConfig

def switch (config : ProcessorConfig) : SwitchOption → Bool
  | .usePodBlocks => config.usePodBlocks
  | .pruneOnDelete => config.pruneOnDelete
  | .emitIPv6 => config.emitIPv6

/-- All entries are under the names of switches. -/
def OnlySwitches (entries : Entries) : Prop :=
  ∀ entry ∈ entries, ∃ option : SwitchOption, entry.1 = .string option.name

/-- What a section is taken as: a switch counts by whether it says something, and a section that
says nothing is as good as none. -/
inductive IsTakenAs : Option Document → ProcessorConfig → Prop
  | absent : IsTakenAs none {}
  | blank {d : Document} (blank : d.truthy = false) : IsTakenAs (some d) {}
  | switches {d : Document} {entries : Entries} {config : ProcessorConfig}
      (map : d.entries? = some entries) (known : OnlySwitches entries)
      (values : ∀ option : SwitchOption, config.switch option =
        (lookup? option.name entries).elim option.defaultValue Document.truthy) :
      IsTakenAs (some d) config

/-- What a section says: every switch that is there is a truth value. -/
inductive IsSaidBy : Option Document → ProcessorConfig → Prop
  | absent : IsSaidBy none {}
  | null : IsSaidBy (some .null) {}
  | switches {d : Document} {entries : Entries} {config : ProcessorConfig}
      (map : d.entries? = some entries) (known : OnlySwitches entries)
      (values : ∀ option : SwitchOption,
        lookup? option.name entries = some (.bool (config.switch option)) ∨
          lookup? option.name entries = none ∧ config.switch option = option.defaultValue) :
      IsSaidBy (some d) config

/-- A section that is taken for another one: for none, or for one with truth values. -/
inductive IsCoerced : Option Document → Prop
  | blank {d : Document} (blank : d.truthy = false) (not_null : d ≠ .null)
      (not_map : d.entries? = none) : IsCoerced (some d)
  | switch {d : Document} {entries : Entries} {option : SwitchOption} {value : Document}
      (map : d.entries? = some entries) (given : lookup? option.name entries = some value)
      (not_bool : ∀ b, value ≠ .bool b) : IsCoerced (some d)

theorem ext_switch {first second : ProcessorConfig}
    (same : ∀ option, first.switch option = second.switch option) : first = second := by
  cases first
  cases second
  rw [mk.injEq]
  exact ⟨same .usePodBlocks, same .pruneOnDelete, same .emitIPv6⟩

theorem switch_default (option : SwitchOption) : switch {} option = option.defaultValue := by
  cases option <;> rfl

theorem isSwitch_iff {key : Document} :
    isSwitch key = true ↔ ∃ option : SwitchOption, key = .string option.name := by
  cases key with
  | string name =>
    simp only [isSwitch, switchNames, List.contains_iff_mem, List.mem_cons, List.not_mem_nil,
      or_false, Document.string.injEq]
    constructor
    · rintro (rfl | rfl | rfl)
      · exact ⟨.usePodBlocks, rfl⟩
      · exact ⟨.pruneOnDelete, rfl⟩
      · exact ⟨.emitIPv6, rfl⟩
    · rintro ⟨option, rfl⟩
      cases option <;> simp [SwitchOption.name]
  | _ => exact iff_of_false nofun nofun

theorem unknownKeys_eq_none_iff {keys : List Document} : unknownKeys keys = none ↔ keys = [] := by
  cases keys with
  | nil => exact iff_of_true rfl rfl
  | cons first rest =>
    rw [unknownKeys]
    cases (first :: rest).mapM Document.string? with
    | some names => simp
    | none => cases leastKey first rest <;> simp

theorem onlySwitches_iff {entries : Entries} :
    OnlySwitches entries ↔
      unknownKeys ((entries.map (·.1)).filter fun key => !isSwitch key) = none := by
  simp [OnlySwitches, unknownKeys_eq_none_iff, isSwitch_iff]

theorem ofEntries_eq_ok_iff {entries : Entries} {config : ProcessorConfig} :
    ofEntries entries = .ok config ↔ OnlySwitches entries ∧ ∀ option : SwitchOption,
      config.switch option =
        (lookup? option.name entries).elim option.defaultValue Document.truthy := by
  have read (option : SwitchOption) : switchAt entries option.name option.defaultValue =
      (lookup? option.name entries).elim option.defaultValue Document.truthy := by
    unfold switchAt
    cases lookup? option.name entries <;> rfl
  rw [onlySwitches_iff, ofEntries]
  cases unknownKeys ((entries.map (·.1)).filter fun key => !isSwitch key) with
  | some fault => simp
  | none =>
    simp only [Except.ok.injEq, true_and, ← read]
    constructor
    · rintro rfl option
      cases option <;> rfl
    · intro same
      exact ext_switch fun option => by rw [same]; cases option <;> rfl

theorem isTakenAs_of_nothing {config : ProcessorConfig} (read : ofEntries [] = .ok config) :
    config = {} := by
  obtain ⟨-, values⟩ := ofEntries_eq_ok_iff.1 read
  exact ext_switch fun option => (values option).trans (switch_default option).symm

/-- A map that counts as nothing has no entries. -/
theorem entries_eq_nil_of_blank {d : Document} {entries : Entries} (blank : d.truthy = false)
    (map : d.entries? = some entries) : entries = [] := by
  cases d <;> simp_all [Document.entries?, Document.opened, Document.truthy]

theorem ofSection_eq_ok_iff {part : Option Document} {config : ProcessorConfig} :
    ofSection part = .ok config ↔ IsTakenAs part config := by
  constructor
  · intro read
    cases part with
    | none =>
      obtain rfl := isTakenAs_of_nothing read
      exact .absent
    | some d =>
      unfold ofSection at read
      cases truthy : d.truthy with
      | false =>
        obtain rfl := isTakenAs_of_nothing (by simpa [truthy] using read)
        exact .blank truthy
      | true =>
        cases map : d.entries? with
        | none => simp [truthy, map] at read
        | some entries =>
          obtain ⟨known, values⟩ := ofEntries_eq_ok_iff.1 (by simpa [truthy, map] using read)
          exact .switches map known values
  · intro taken
    have nothing : ofEntries [] = .ok {} := rfl
    cases taken with
    | absent => exact nothing
    | blank blank => simp [ofSection, blank, nothing]
    | @switches d entries _ map known values =>
      have read := ofEntries_eq_ok_iff.2 ⟨known, values⟩
      unfold ofSection
      cases truthy : d.truthy with
      | true => simpa [truthy, map] using read
      | false =>
        -- A map without entries is read as if it had been left out.
        obtain rfl := entries_eq_nil_of_blank truthy map
        simpa [truthy] using read

theorem isSaidBy_iff {part : Option Document} {config : ProcessorConfig}
    (taken : IsTakenAs part config) : IsSaidBy part config ↔ ¬ IsCoerced part := by
  constructor
  · intro said coerced
    cases coerced with
    | blank blank not_null not_map =>
      cases said with
      | null => exact not_null rfl
      | switches map => cases not_map.symm.trans map
    | switch map given not_bool =>
      cases said with
      | null => cases map
      | switches map' _ values =>
        obtain rfl := Option.some.inj (map.symm.trans map')
        rcases values _ with there | ⟨missing, -⟩
        · exact not_bool _ (Option.some.inj (given.symm.trans there))
        · cases given.symm.trans missing
  · intro plain
    cases taken with
    | absent => exact .absent
    | @blank d blank =>
      cases map : d.entries? with
      | some entries =>
        obtain rfl := entries_eq_nil_of_blank blank map
        exact .switches map nofun fun option => .inr ⟨rfl, switch_default option⟩
      | none =>
        by_cases null : d = .null
        · subst null
          exact .null
        · exact absurd (.blank blank null map) plain
    | @switches d entries _ map known values =>
      refine .switches map known fun option => ?_
      have value := values option
      cases given : lookup? option.name entries with
      | none => exact .inr ⟨rfl, by rw [value, given]; rfl⟩
      | some d =>
        cases d with
        | bool b =>
          left
          rw [value, given]
          rfl
        | _ => exact absurd (.switch map given nofun) plain

end ProcessorConfig

/-! ### The list of watchers -/

namespace WatcherConfig

/-- The path that is told; where the program runs unless told. -/
inductive TellsPath (entries : Entries) : Path → Prop
  | default (missing : lookup? "path" entries = none) : TellsPath entries (.ofText ".")
  | given {s : String} (there : lookup? "path" entries = some (.string s)) :
      TellsPath entries (.ofText s)

/-- What tells the interval, under the first of its names that is there. -/
def toldInterval? (entries : Entries) : Option Document :=
  (lookup? "interval" entries).or (lookup? "poll_interval" entries)

inductive TellsInterval (entries : Entries) : Float → Prop
  | default (missing : toldInterval? entries = none) : TellsInterval entries 5.0
  | given {d : Document} {x : Float} (there : toldInterval? entries = some d)
      (seconds : secondsOf d = .ok x) : TellsInterval entries x

inductive TellsOptions (entries : Entries) : Document → Prop
  | default (missing : lookup? "options" entries = none) : TellsOptions entries (.map [])
  | given {options : Document} (there : lookup? "options" entries = some options)
      (map : options.entries?.isSome) : TellsOptions entries options

/-- A document is the entry of a watcher. -/
inductive IsToldBy : Document → WatcherConfig → Prop
  | entry {d : Document} {entries : Entries} {kind options : Document} {path : Path}
      {interval : Float} (map : d.entries? = some entries)
      (there : lookup? "type" entries = some kind) (written : kind.isWritable = true)
      (of_options : TellsOptions entries options) (of_path : TellsPath entries path)
      (of_interval : TellsInterval entries interval) :
      IsToldBy d ⟨kind.text, path, interval, options⟩

theorem pathAt_eq_ok_iff {entries : Entries} {path : Path} :
    pathAt entries = .ok path ↔ TellsPath entries path := by
  constructor
  · intro read
    unfold pathAt at read
    split at read
    next missing => cases read; exact .default missing
    next s there => cases read; exact .given there
    next => cases read
    next => cases read
  · intro told
    cases told with
    | default missing => rw [pathAt, missing]
    | given there => rw [pathAt, there]

theorem intervalAt_eq (entries : Entries) :
    intervalAt entries = (toldInterval? entries).elim (.ok 5.0) secondsOf := by
  unfold intervalAt toldInterval?
  cases lookup? "interval" entries with
  | some d => rfl
  | none => cases lookup? "poll_interval" entries <;> rfl

theorem intervalAt_eq_ok_iff {entries : Entries} {interval : Float} :
    intervalAt entries = .ok interval ↔ TellsInterval entries interval := by
  rw [intervalAt_eq]
  constructor
  · intro read
    cases there : toldInterval? entries with
    | none =>
      rw [there] at read
      cases read
      exact .default there
    | some d =>
      rw [there] at read
      exact .given there read
  · intro told
    cases told with
    | default missing => rw [missing]; rfl
    | given there seconds => rw [there]; exact seconds

theorem optionsAt_eq_ok_iff {entries : Entries} {options : Document} :
    optionsAt entries = .ok options ↔ TellsOptions entries options := by
  constructor
  · intro read
    unfold optionsAt at read
    split at read
    next missing => cases read; exact .default missing
    next options there =>
      split at read
      next map => cases read; exact .given there map
      next => cases read
  · intro told
    cases told with
    | default missing => rw [optionsAt, missing]
    | given there map => simp [optionsAt, there, map]

theorem ofEntries_eq_ok_iff {d : Document} {entries : Entries} {w : WatcherConfig}
    (map : d.entries? = some entries) : ofEntries entries = .ok w ↔ IsToldBy d w := by
  constructor
  · intro read
    unfold ofEntries at read
    split at read
    next => cases read
    next kind there =>
      obtain ⟨options, of_options, read⟩ := bind_eq_ok_iff.1 read
      split at read
      next => cases read
      next written =>
        obtain ⟨path, of_path, read⟩ := bind_eq_ok_iff.1 read
        obtain ⟨interval, of_interval, read⟩ := bind_eq_ok_iff.1 read
        cases read
        exact .entry map there (by simpa using written) (optionsAt_eq_ok_iff.1 of_options)
          (pathAt_eq_ok_iff.1 of_path) (intervalAt_eq_ok_iff.1 of_interval)
  · intro told
    cases told with
    | entry map' there written of_options of_path of_interval =>
      obtain rfl := Option.some.inj (map.symm.trans map')
      rw [ofEntries, there]
      dsimp only
      rw [optionsAt_eq_ok_iff.2 of_options, pathAt_eq_ok_iff.2 of_path,
        intervalAt_eq_ok_iff.2 of_interval, written]
      rfl

theorem ofDocument_of_map {d : Document} {entries : Entries} (map : d.entries? = some entries) :
    ofDocument d = ofEntries entries := by
  have same : d.opened = .map entries := by
    unfold Document.entries? at map
    split at map <;> cases map
    assumption
  rw [ofDocument, same]

theorem ofDocument_eq_ok_iff {d : Document} {w : WatcherConfig} :
    ofDocument d = .ok w ↔ IsToldBy d w := by
  cases map : d.entries? with
  | some entries =>
    rw [← ofEntries_eq_ok_iff map, ofDocument_of_map map]
  | none =>
    refine iff_of_false (fun read => ?_) fun told => ?_
    · unfold ofDocument at read
      split at read
      next entries same => simp [Document.entries?, same] at map
      all_goals cases read
    · cases told with
      | entry map' => cases map.symm.trans map'

end WatcherConfig

/-! ### All settings -/

namespace AgentConfig

/-- The entries that settings are told by. A document that is nothing has none. -/
def entries? (d : Document) : Option Entries :=
  match d.opened with
  | .null => some []
  | .map entries => some entries
  | _ => none

/-- The watchers are those of a list, one for one and in its order; there are none unless told. -/
inductive WatchersToldBy : Option Document → List WatcherConfig → Prop
  | absent : WatchersToldBy none []
  | listed {d : Document} {items : List Document} {watchers : List WatcherConfig}
      (list : d.items? = some items)
      (each : List.Forall₂ WatcherConfig.IsToldBy items watchers) :
      WatchersToldBy (some d) watchers

/-- A document says settings: nothing in it is taken for something else. -/
def IsSaidBy (d : Document) (config : AgentConfig) : Prop :=
  ∃ entries, entries? d = some entries ∧
    ProcessorConfig.IsSaidBy (lookup? "processor" entries) config.processor ∧
      WatchersToldBy (lookup? "watchers" entries) config.watchers

theorem watchersOf_eq_ok_iff {part : Option Document} {watchers : List WatcherConfig} :
    watchersOf part = .ok watchers ↔ WatchersToldBy part watchers := by
  have each (items : List Document) : items.mapM WatcherConfig.ofDocument = .ok watchers ↔
      List.Forall₂ WatcherConfig.IsToldBy items watchers := by
    simp only [mapM_eq_ok_iff, WatcherConfig.ofDocument_eq_ok_iff]
  constructor
  · intro read
    unfold watchersOf at read
    split at read
    next => cases read; exact .absent
    next d =>
      split at read
      next items list => exact .listed list ((each items).1 read)
      next => cases read
  · intro told
    cases told with
    | absent => rfl
    | @listed d items _ list told =>
      rw [watchersOf, list]
      exact (each items).2 told

/-- The section for the processor is read before the watchers. -/
theorem ofDocument_eq (d : Document) :
    ofDocument d = (entries? d).elim (.error .notMap) fun entries => do
      let processor ← ProcessorConfig.ofSection (lookup? "processor" entries)
      let watchers ← watchersOf (lookup? "watchers" entries)
      return ⟨processor, watchers⟩ := by
  unfold ofDocument entries?
  cases d.opened <;> rfl

theorem ofDocument_eq_ok_iff {d : Document} {config : AgentConfig} :
    ofDocument d = .ok config ↔ ∃ entries, entries? d = some entries ∧
      ProcessorConfig.IsTakenAs (lookup? "processor" entries) config.processor ∧
        WatchersToldBy (lookup? "watchers" entries) config.watchers := by
  obtain ⟨processor, watchers⟩ := config
  rw [ofDocument_eq]
  cases entries? d with
  | none => simp
  | some entries =>
    simp only [Option.elim_some, bind_eq_ok_iff, ProcessorConfig.ofSection_eq_ok_iff,
      watchersOf_eq_ok_iff, pure, Except.pure, Except.ok.injEq, AgentConfig.mk.injEq,
      Option.some.injEq, exists_eq_left']
    constructor
    · rintro ⟨_, taken, _, told, rfl, rfl⟩
      exact ⟨taken, told⟩
    · rintro ⟨taken, told⟩
      exact ⟨_, taken, _, told, rfl, rfl⟩

/-! ### Main result -/

/-- **What is accepted, and when it is taken as it stands.** A document is accepted as settings
exactly if it is a map or nothing, its section for the processor is taken as the switches, and its
list of watchers tells the watchers one for one. The document says these settings, so that every
switch is the truth value that stands there or else has its default, unless something in it is taken
for something else: a switch that is no truth value, or in place of the section something empty that
is neither null nor a map. -/
theorem accepted_settings (d : Document) (config : AgentConfig) :
    (ofDocument d = .ok config ↔ ∃ entries, entries? d = some entries ∧
      ProcessorConfig.IsTakenAs (lookup? "processor" entries) config.processor ∧
        WatchersToldBy (lookup? "watchers" entries) config.watchers) ∧
    (ofDocument d = .ok config → (IsSaidBy d config ↔ ∀ entries, entries? d = some entries →
      ¬ ProcessorConfig.IsCoerced (lookup? "processor" entries))) := by
  refine ⟨ofDocument_eq_ok_iff, fun accepted => ?_⟩
  obtain ⟨entries, there, taken, told⟩ := ofDocument_eq_ok_iff.1 accepted
  have said := ProcessorConfig.isSaidBy_iff taken
  simp only [IsSaidBy, there, Option.some.injEq, exists_eq_left', forall_eq', said, told, and_true]

/-- An empty list is taken for no section, and a quoted word for the truth value that it denies. -/
theorem coerced_settings :
    let empty : Document := .map [(.string "processor", .list [])]
    let quoted : Document :=
      .map [(.string "processor", .map [(.string "prune_cidrs_on_delete", .string "false")])]
    (ofDocument empty = .ok ⟨{}, []⟩ ∧ ¬ IsSaidBy empty ⟨{}, []⟩) ∧
      ofDocument quoted = .ok ⟨{ pruneOnDelete := true }, []⟩ ∧
        ¬ IsSaidBy quoted ⟨{ pruneOnDelete := true }, []⟩ := by
  refine ⟨⟨rfl, ?_⟩, rfl, ?_⟩
  · rintro ⟨entries, there, said, -⟩
    cases there
    cases said with
    | switches map => cases map
  · rintro ⟨entries, there, said, -⟩
    cases there
    cases said with
    | switches map known values =>
      cases map
      rcases values .pruneOnDelete with given | ⟨missing, -⟩
      · cases given
      · cases missing

end AgentConfig

end NodeDataplane
