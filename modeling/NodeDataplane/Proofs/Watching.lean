import Mathlib
import NodeDataplane.Document.Yaml
import NodeDataplane.Proofs.Changes

/-!
# Runs of a watcher

A watcher looks at its path again and again, and hands the events of each look to a handler. A run
keeps, for every look, the states around it and the events that were handed out.

## Main results

- `Watcher.listingAt?_eq_some_iff`: what a look takes over from the entries that it finds.
- `Watching.course_look`: a look finds no nodes, or announces all changes, or ends with the first
  change that the handler fails on (`Look.Course`).
- `Watching.handled_next`: the handler works on the events that are handed out, in turn.
- `Watching.next_eq_poll`: keeping the events does not interfere with the handler.
- `Watching.forall_looks_of_works`: a handler that stays in working order never fails.
-/

namespace NodeDataplane

variable {σ φ : Type}

/-! ### Handlers that keep their events -/

/-- Hand an event to a handler and keep it, whether or not the handler fails on it. -/
def keeping (handle : σ → Record → Logged (σ × Option φ)) (s : σ × List Record) (event : Record) :
    Logged ((σ × List Record) × Option φ) := do
  let (after, fault) ← handle s.1 event
  return ((after, s.2 ++ [event]), fault)

theorem value_announce_cons (handle : σ → Record → Logged (σ × Option φ)) (e : NodeEvent)
    (rest : List NodeEvent) (s : σ) :
    (announce handle (e :: rest) s).value =
      match (handle s e.toRecord).value.2 with
      | some fault => ((handle s e.toRecord).value.1, some fault)
      | none => (announce handle rest (handle s e.toRecord).value.1).value := by
  rw [announce]
  simp only [Logged.value_bind]
  split <;> simp [*]

/-- Keeping the events changes nothing for the handler, which works on the events that are kept in
turn. They are all events up to the first one that it fails on. -/
theorem announce_keeping (handle : σ → Record → Logged (σ × Option φ)) (events : List NodeEvent)
    (s : σ) (kept : List Record) :
    ∃ handed, (announce (keeping handle) events (s, kept)).value =
        (((announce handle events s).value.1, kept ++ handed), (announce handle events s).value.2) ∧
      (announce handle events s).value.1 = handed.foldl (fun s r => (handle s r).value.1) s ∧
      handed <+: events.map NodeEvent.toRecord ∧
      ((announce handle events s).value.2 = none → handed = events.map NodeEvent.toRecord) := by
  induction events generalizing s kept with
  | nil => exact ⟨[], by simp [announce], rfl, List.prefix_refl _, fun _ => rfl⟩
  | cons e rest ih =>
    rw [value_announce_cons, value_announce_cons]
    cases answer : (handle s e.toRecord).value with
    | mk after fault =>
      have told : (keeping handle (s, kept) e.toRecord).value =
          ((after, kept ++ [e.toRecord]), fault) := by
        simp [keeping, answer]
      have step : (handle s e.toRecord).value.1 = after := by rw [answer]
      rw [told]
      cases fault with
      | some fault =>
        -- The event that the handler fails on is kept, and the rest is not announced.
        refine ⟨[e.toRecord], rfl, step.symm, ?_, fun works => by cases works⟩
        rw [List.map_cons, List.prefix_cons_iff]
        exact Or.inr ⟨[], rfl, List.nil_prefix⟩
      | none =>
        -- The rest is announced from where the handler has come to.
        obtain ⟨handed, same, worked, start, all⟩ := ih after (kept ++ [e.toRecord])
        refine ⟨e.toRecord :: handed, ?_, ?_, ?_, ?_⟩
        · simpa using same
        · rw [List.foldl_cons, step]
          exact worked
        · exact (List.prefix_cons_inj _).2 start
        · intro works
          rw [all works, List.map_cons]

/-- A handler that does not fail on what it has come to, and stays that way, takes all events. -/
theorem announce_of_works {handle : σ → Record → Logged (σ × Option φ)} (Works : σ → Prop)
    (works : ∀ s (e : NodeEvent), Works s →
      (handle s e.toRecord).value.2 = none ∧ Works (handle s e.toRecord).value.1)
    (events : List NodeEvent) {s : σ} (ready : Works s) :
    (announce handle events s).value.2 = none ∧ Works (announce handle events s).value.1 := by
  induction events generalizing s with
  | nil => exact ⟨rfl, ready⟩
  | cons e rest ih =>
    obtain ⟨taken, still⟩ := works s e ready
    rw [value_announce_cons, taken]
    exact ih still

/-! ### What is found at a place -/

section Loaded

-- Whatever reads the texts, a look takes its course.
variable [Loader]

namespace Watcher

/-- The document at a place and its revision, if a document can be read there. -/
def documentAt? (path : Path) (place : Place) : Option (Document × String) :=
  match place with
  | .file f => (readDocument path f).toOption.map fun d => (d, f.modified)
  | _ => none

def listingAt? (path : Path) (place : Place) : Option (Listing × String) :=
  (documentAt? path place).bind fun (d, revision) =>
    (Listing.ofDocument d).value.toOption.map fun listing => (listing, revision)

/-- At a place there is a document, a map with a list of entries under the key for nodes. -/
def ListsAt (path : Path) (place : Place) (revision : String) (entries : List Document) : Prop :=
  ∃ d fields nodes, documentAt? path place = some (d, revision) ∧ d.entries? = some fields ∧
    Document.lookup? "nodes" fields = some nodes ∧ nodes.items? = some entries

def entriesAt (path : Path) (place : Place) : List Document :=
  match documentAt? path place with
  | some (d, _) => (Listing.entriesOf d).toOption.getD []
  | none => []

theorem listsAt_iff {path : Path} {place : Place} {revision : String} {entries : List Document} :
    ListsAt path place revision entries ↔
      ∃ d, documentAt? path place = some (d, revision) ∧ Listing.entriesOf d = .ok entries := by
  simp only [ListsAt, Listing.entriesOf_eq_ok_iff, exists_and_left]

/-- A listing is found where entries are listed, if the names of malformed ones have texts. -/
theorem listingAt?_eq_some_iff {path : Path} {place : Place} {listing : Listing}
    {revision : String} :
    listingAt? path place = some (listing, revision) ↔
      ∃ entries, ListsAt path place revision entries ∧
        Listing.CanBeNamed entries ∧ listing = ⟨Listing.putAll (Listing.accepted entries) .empty,
          Listing.rejectedNames entries⟩ := by
  simp only [listingAt?, Option.bind_eq_some_iff, Option.map_eq_some_iff, toOption_eq_some_iff,
    Listing.value_ofDocument_eq_ok_iff, listsAt_iff, Prod.exists, Prod.mk.injEq]
  constructor
  · rintro ⟨d, _, found, _, ⟨entries, listed, writable, rfl⟩, rfl, rfl⟩
    exact ⟨entries, ⟨d, found, listed⟩, writable, rfl⟩
  · rintro ⟨entries, ⟨d, found, listed⟩, writable, rfl⟩
    exact ⟨d, revision, found, _, ⟨entries, listed, writable, rfl⟩, rfl, rfl⟩

theorem entriesAt_of_listsAt {path : Path} {place : Place} {revision : String}
    {entries : List Document} (listed : ListsAt path place revision entries) :
    entriesAt path place = entries := by
  obtain ⟨d, found, items⟩ := listsAt_iff.1 listed
  simp [entriesAt, found, items, Except.toOption]

theorem keys_listingAt? {path : Path} {place : Place} {listing : Listing} {revision : String}
    (read : listingAt? path place = some (listing, revision)) :
    listing.nodes.keys = firstSeen (Listing.acceptedNames (entriesAt path place)) := by
  obtain ⟨entries, listed, -, rfl⟩ := listingAt?_eq_some_iff.1 read
  rw [entriesAt_of_listsAt listed, Listing.keys_putAll, Listing.acceptedNames_eq]
  rfl

theorem map_fst_listingAt? (path : Path) (place : Place) :
    (listingAt? path place).map (·.1) =
      ((documentAt? path place).map (·.1)).bind fun d => (Listing.ofDocument d).value.toOption := by
  rw [listingAt?]
  cases documentAt? path place with
  | none => rfl
  | some document => simp [Function.comp_def]

theorem documentAt?_json {path : Path} {f : StoredFile} {d : Document} (text : String)
    (json : ¬ (path.suffix = ".yaml" ∨ path.suffix = ".yml")) (decoded : f.text? = some text)
    (parsed : Json.parse text = .ok d) : documentAt? path (.file f) = some (d, f.modified) := by
  have read : readDocument path f = .ok d := by
    rw [readDocument, decoded]
    exact (if_neg json).trans parsed
  simp [documentAt?, read, Except.toOption]

theorem listingAt?_json {path : Path} {f : StoredFile} {d : Document} {listing : Listing}
    (text : String) (json : ¬ (path.suffix = ".yaml" ∨ path.suffix = ".yml"))
    (decoded : f.text? = some text) (parsed : Json.parse text = .ok d)
    (listed : (Listing.ofDocument d).value.toOption = some listing) :
    listingAt? path (.file f) = some (listing, f.modified) := by
  have found := documentAt?_json text json decoded parsed
  simp only [listingAt?, found, Option.bind_some, listed, Option.map_some]

theorem value_look (w : Watcher) (place : Place) :
    (w.look (φ := φ) place).value = .ok (documentAt? w.path place) ∨
      documentAt? w.path place = none ∧
        ∃ fault, (w.look (φ := φ) place).value = .error fault ∧ ∀ f, fault ≠ .handler f := by
  cases place with
  | file f =>
    cases read : readDocument w.path f with
    | ok d =>
      left
      simp [look, documentAt?, read, Except.toOption]
    | error fault =>
      have unread : documentAt? w.path (.file f) = none := by
        simp [documentAt?, read, Except.toOption]
      rw [unread]
      -- A malformed text is put up with, a file in another encoding is not.
      by_cases transient : isTransient fault = true
      · left
        simp [look, read, transient]
      · right
        exact ⟨rfl, .document fault, by simp [look, read, transient], by simp⟩
  | tooLong => exact Or.inr ⟨rfl, .file (.nameTooLong w.path.text), rfl, by simp⟩
  | absent => exact Or.inl rfl
  | behindFile => exact Or.inl rfl
  | unnameable => exact Or.inl rfl
  | directory => exact Or.inl rfl

/-! ### What comes of a look -/

variable {handle : σ → Record → Logged (σ × Option φ)} {w : Watcher} {place : Place}

theorem poll_of_listing {listing : Listing} {revision : String}
    (read : listingAt? w.path place = some (listing, revision)) (s : σ) :
    (w.poll handle place s).value =
      let announced :=
        (announce handle (changes revision w.state (listing.withLastGood w.state)) s).value
      match announced.2 with
      | some fault => ⟨w, announced.1, some (.handler fault)⟩
      | none => ⟨{ w with state := listing.withLastGood w.state }, announced.1, none⟩ := by
  rcases value_look (φ := φ) w place with found | ⟨unread, _⟩
  · cases known : documentAt? w.path place with
    | none => simp [listingAt?, known] at read
    | some document =>
      obtain ⟨d, modified⟩ := document
      rw [known] at found
      simp only [listingAt?, known, Option.bind_some, Option.map_eq_some_iff, Prod.mk.injEq] at read
      obtain ⟨result, made, rfl, rfl⟩ := read
      cases taken : (Listing.ofDocument d).value with
      | error fault => simp [taken, Except.toOption] at made
      | ok all =>
        simp only [taken, Except.toOption, Option.some.injEq] at made
        subst made
        simp only [poll, Logged.value_bind, found, take, taken]
        cases (announce handle (changes modified w.state (all.withLastGood w.state)) s).value.2 <;>
          rfl
  · simp [listingAt?, unread] at read

/-- Without nodes to go by the handler has no part in what comes of the look. -/
theorem poll_of_no_listing (unread : listingAt? w.path place = none) :
    ∃ fault : Option (PollFault φ), (∀ f, fault ≠ some (.handler f)) ∧
      ∀ (τ : Type) (handle : τ → Record → Logged (τ × Option φ)) (s : τ),
        (w.poll handle place s).value = ⟨w, s, fault⟩ := by
  -- Either the look ends without a document or with one that lists nothing, or it fails by itself.
  rcases value_look (φ := φ) w place with found | ⟨_, fault, failed, notHandler⟩
  · refine ⟨none, fun f => nofun, fun τ handle s => ?_⟩
    cases known : documentAt? w.path place with
    | none =>
      rw [known] at found
      simp [poll, found]
    | some document =>
      obtain ⟨d, modified⟩ := document
      rw [known] at found
      cases taken : (Listing.ofDocument d).value with
      | error fault => simp [poll, found, take, taken]
      | ok listing => simp [listingAt?, known, taken, Except.toOption] at unread
  · refine ⟨some fault, ?_, fun τ handle s => by simp [poll, failed]⟩
    intro f same
    exact notHandler f (Option.some.inj same)

end Watcher

/-! ### Runs -/

/-- What one look came to: the states around it, the events that the handler was given, and how the
look failed, if it did. -/
structure Look (φ : Type) where
  place : Place
  before : NodeTable
  after : NodeTable
  handed : List Record
  fault : Option (PollFault φ)

/-- A watcher, and what its handler has come to. -/
structure Watching (σ : Type) where
  watcher : Watcher
  handled : σ

namespace Watching

def start (path : Path) (s : σ) : Watching σ := ⟨Watcher.new path, s⟩

def poll (handle : σ → Record → Logged (σ × Option φ)) (run : Watching σ) (place : Place) :
    Watcher.Poll (σ × List Record) φ :=
  (run.watcher.poll (keeping handle) place (run.handled, [])).value

def look (handle : σ → Record → Logged (σ × Option φ)) (run : Watching σ) (place : Place) :
    Look φ :=
  let polled := run.poll handle place
  ⟨place, run.watcher.state, polled.watcher.state, polled.handled.2, polled.fault⟩

def next (handle : σ → Record → Logged (σ × Option φ)) (run : Watching σ) (place : Place) :
    Watching σ :=
  let polled := run.poll handle place
  ⟨polled.watcher, polled.handled.1⟩

def looks (handle : σ → Record → Logged (σ × Option φ)) : Watching σ → List Place → List (Look φ)
  | _, [] => []
  | run, place :: rest => run.look handle place :: (run.next handle place).looks handle rest

def behind (handle : σ → Record → Logged (σ × Option φ)) : Watching σ → List Place → Watching σ
  | run, [] => run
  | run, place :: rest => (run.next handle place).behind handle rest

end Watching

def handedIn (looks : List (Look φ)) : List Record := looks.flatMap (·.handed)

/-! ### The course of a look -/

/-- What can come of a look at a path. -/
inductive Look.Course (path : Path) (look : Look φ) : Prop where
  /-- No nodes are found. -/
  | idle (unread : Watcher.listingAt? path look.place = none) (told : look.handed = [])
      (kept : look.after = look.before) (unfailed : ∀ f, look.fault ≠ some (.handler f))
  /-- All changes are announced. -/
  | finished (listing : Listing) (revision : String)
      (read : Watcher.listingAt? path look.place = some (listing, revision))
      (told : look.handed = (changes revision look.before look.after).map NodeEvent.toRecord)
      (taken : look.after = listing.withLastGood look.before) (worked : look.fault = none)
  /-- The handler fails on a change. -/
  | brokenOff (listing : Listing) (revision : String)
      (read : Watcher.listingAt? path look.place = some (listing, revision))
      (told : look.handed <+:
        (changes revision look.before (listing.withLastGood look.before)).map NodeEvent.toRecord)
      (kept : look.after = look.before) (f : φ) (failed : look.fault = some (.handler f))

namespace Watching

variable (handle : σ → Record → Logged (σ × Option φ))

theorem poll_of_listing (run : Watching σ) {place : Place} {listing : Listing} {revision : String}
    (read : Watcher.listingAt? run.watcher.path place = some (listing, revision)) :
    run.poll handle place =
      let desired := listing.withLastGood run.watcher.state
      let announced :=
        (announce (keeping handle) (changes revision run.watcher.state desired)
          (run.handled, [])).value
      match announced.2 with
      | some fault => ⟨run.watcher, announced.1, some (.handler fault)⟩
      | none => ⟨{ run.watcher with state := desired }, announced.1, none⟩ :=
  Watcher.poll_of_listing read (run.handled, [])

theorem course_look (run : Watching σ) (place : Place) :
    (run.look handle place).Course run.watcher.path := by
  cases found : Watcher.listingAt? run.watcher.path place with
  | none =>
    obtain ⟨fault, unfailed, polled⟩ := Watcher.poll_of_no_listing (φ := φ) found
    refine .idle found ?_ ?_ ?_ <;> simp only [look, poll, polled]
    exact unfailed
  | some read =>
    obtain ⟨listing, revision⟩ := read
    have polled := run.poll_of_listing handle found
    -- How the announcing ended tells whether the state is taken over.
    obtain ⟨handed, same, -, start, all⟩ := announce_keeping handle
      (changes revision run.watcher.state (listing.withLastGood run.watcher.state)) run.handled []
    simp only [same] at polled
    cases answer : (announce handle (changes revision run.watcher.state
        (listing.withLastGood run.watcher.state)) run.handled).value.2 with
    | none =>
      simp only [answer] at polled
      refine .finished listing revision found ?_ ?_ ?_ <;> simp only [look, polled]
      exact all answer
    | some fault =>
      simp only [answer] at polled
      refine .brokenOff listing revision found ?_ ?_ fault ?_ <;> simp only [look, polled]
      exact start

theorem state_next (run : Watching σ) (place : Place) :
    (run.next handle place).watcher.state = (run.look handle place).after := rfl

theorem before_look (run : Watching σ) (place : Place) :
    (run.look handle place).before = run.watcher.state := rfl

theorem looks_pair (run : Watching σ) (place again : Place) :
    run.looks handle [place, again] =
      [run.look handle place] ++ [(run.next handle place).look handle again] := rfl

theorem after_look_of_listing (run : Watching σ) {place : Place} {listing : Listing}
    {revision : String}
    (read : Watcher.listingAt? run.watcher.path place = some (listing, revision))
    (unfailed : ∀ f, (run.look handle place).fault ≠ some (.handler f)) :
    (run.look handle place).after = listing.withLastGood run.watcher.state := by
  cases run.course_look handle place with
  | idle unread => exact absurd (read.symm.trans unread) nofun
  | finished other modified found told taken =>
    have same : (listing, revision) = (other, modified) :=
      Option.some.inj (read.symm.trans found)
    cases same
    exact taken
  | brokenOff other modified found told kept f failed => exact absurd failed (unfailed f)

theorem path_next (run : Watching σ) (place : Place) :
    (run.next handle place).watcher.path = run.watcher.path := by
  cases found : Watcher.listingAt? run.watcher.path place with
  | none =>
    obtain ⟨fault, -, polled⟩ := Watcher.poll_of_no_listing (φ := φ) found
    simp only [next, poll, polled]
  | some read =>
    simp only [next, poll, Watcher.poll_of_listing found]
    split <;> rfl

theorem handled_next (run : Watching σ) (place : Place) :
    (run.next handle place).handled =
      (run.look handle place).handed.foldl (fun s r => (handle s r).value.1) run.handled := by
  cases found : Watcher.listingAt? run.watcher.path place with
  | none =>
    obtain ⟨fault, -, polled⟩ := Watcher.poll_of_no_listing (φ := φ) found
    simp only [next, look, poll, polled, List.foldl_nil]
  | some read =>
    obtain ⟨listing, revision⟩ := read
    obtain ⟨handed, same, worked, -, -⟩ := announce_keeping handle
      (changes revision run.watcher.state (listing.withLastGood run.watcher.state)) run.handled []
    simp only [next, look, poll, Watcher.poll_of_listing found, same]
    split <;> simpa using worked

/-- A run whose handler keeps its events is the run of the handler itself. -/
theorem next_eq_poll (run : Watching σ) (place : Place) :
    let polled := (run.watcher.poll handle place run.handled).value
    run.next handle place = ⟨polled.watcher, polled.handled⟩ ∧
      (run.look handle place).fault = polled.fault := by
  cases found : Watcher.listingAt? run.watcher.path place with
  | none =>
    obtain ⟨fault, -, polled⟩ := Watcher.poll_of_no_listing (φ := φ) found
    simp [next, look, poll, polled]
  | some read =>
    obtain ⟨listing, revision⟩ := read
    obtain ⟨handed, same, -, -, -⟩ := announce_keeping handle
      (changes revision run.watcher.state (listing.withLastGood run.watcher.state)) run.handled []
    simp only [next, look, poll, Watcher.poll_of_listing found, same]
    split <;> exact ⟨rfl, rfl⟩

/-- A handler that does not fail on what it has come to, and stays that way, never fails. -/
theorem forall_looks_of_works (Works : σ → Prop)
    (works : ∀ s (e : NodeEvent), Works s →
      (handle s e.toRecord).value.2 = none ∧ Works (handle s e.toRecord).value.1)
    (run : Watching σ) (places : List Place) (ready : Works run.handled) :
    (∀ look ∈ run.looks handle places, ∀ f, look.fault ≠ some (.handler f)) ∧
      Works (run.behind handle places).handled := by
  induction places generalizing run with
  | nil => exact ⟨nofun, ready⟩
  | cons place rest ih =>
    obtain ⟨same, fault⟩ := next_eq_poll handle run place
    -- One look takes the handler from working order to working order.
    have step : (∀ f, (run.look handle place).fault ≠ some (.handler f)) ∧
        Works (run.next handle place).handled := by
      rw [fault, same]
      cases found : Watcher.listingAt? run.watcher.path place with
      | none =>
        obtain ⟨fault, unfailed, polled⟩ := Watcher.poll_of_no_listing (φ := φ) found
        rw [polled]
        exact ⟨unfailed, ready⟩
      | some read =>
        obtain ⟨listing, revision⟩ := read
        obtain ⟨worked, still⟩ := announce_of_works Works works
          (changes revision run.watcher.state (listing.withLastGood run.watcher.state)) ready
        rw [Watcher.poll_of_listing found]
        simp only [worked]
        exact ⟨fun f => nofun, still⟩
    obtain ⟨others, still⟩ := ih (run.next handle place) step.2
    exact ⟨List.forall_mem_cons.2 ⟨step.1, others⟩, still⟩

end Watching

end Loaded

/-! ### Files to look at -/

namespace Sample

def path : Path := .ofText "nodes.json"

def oneNode : StoredFile := ⟨"\x7b\"nodes\":[\x7b\"name\":\"a\"\x7d]\x7d".toUTF8, "1"⟩

def noNode : StoredFile := ⟨"\x7b\"nodes\":[]\x7d".toUTF8, "2"⟩

theorem listingAt?_oneNode :
    Watcher.listingAt? path (.file oneNode) =
      some (⟨Table.empty.put "a" { name := "a" }, []⟩, oneNode.modified) := by
  apply Watcher.listingAt?_json "\x7b\"nodes\":[\x7b\"name\":\"a\"\x7d]\x7d"
    (d := .map [(.string "nodes", .list [.map [(.string "name", .string "a")]])])
  · decide +kernel
  · decide +kernel
  · cbv
  · decide +kernel

theorem listingAt?_noNode :
    Watcher.listingAt? path (.file noNode) = some (⟨.empty, []⟩, noNode.modified) := by
  apply Watcher.listingAt?_json "\x7b\"nodes\":[]\x7d" (d := .map [(.string "nodes", .list [])])
  · decide +kernel
  · decide +kernel
  · cbv
  · decide +kernel

end Sample

end NodeDataplane
