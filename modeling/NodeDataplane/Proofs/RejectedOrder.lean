import Mathlib
import NodeDataplane.Proofs.Convergence

/-!
# The order of malformed entries

A look keeps the nodes in malformed entries as they were. It goes through their names as through a
set, in an order that is not fixed: another look, or the same look in another run, may go through
them differently. The order is found again in the state of the watcher, where the names stand as
they came in. Nobody else gets to know it.

## Main result

`rejected_order_unobservable`: in whatever orders the looks of a run go through the malformed
entries, the handler is given the same events.

## Proof strategy

States are compared by what they say of each name (`Table.Alike`). A node that is kept has the state
it had, so there is no event about it wherever it stands (`Listing.upserts_withLastGood`), and names
that are gone are told in the order of names (`goneNames_congr`). So from states that are alike the
looks tell the same and come to states that are alike (`Watcher.pollIn_alike`), and by induction on
the places that carries over to runs.
-/

namespace NodeDataplane

variable {σ φ : Type}

/-! ### Orders -/

/-- An order for the names that came in: each of them once. The order may depend on how they came
in. -/
structure NameOrder where
  names : List String → List String
  nodup (given : List String) : (names given).Nodup
  mem_iff (given : List String) (name : String) : name ∈ names given ↔ name ∈ given

namespace NameOrder

/-- The names as they came in. -/
def arrival : NameOrder where
  names := firstSeen
  nodup := nodup_firstSeen
  mem_iff _ _ := mem_firstSeen

/-- The last name first. -/
def reversed : NameOrder where
  names given := (firstSeen given).reverse
  nodup given := List.nodup_reverse.2 (nodup_firstSeen given)
  mem_iff given name := by rw [List.mem_reverse, mem_firstSeen]

theorem names_nil (order : NameOrder) : order.names [] = [] := by
  rw [List.eq_nil_iff_forall_not_mem]
  intro name member
  exact List.not_mem_nil ((order.mem_iff [] name).1 member)

end NameOrder

/-! ### Tables with the same answers -/

/-- The tables say the same of every key, in whatever order they keep their keys. -/
def Table.Alike {κ υ : Type} [DecidableEq κ] (s t : Table κ υ) : Prop :=
  ∀ key, s.get? key = t.get? key

section Changes

variable {revision : String} {old other new later : NodeTable}

theorem upserts_congr (same : old.Alike other) :
    upserts revision old new = upserts revision other new := by
  have found (name : String) : old.get? name = other.get? name := same name
  simp only [upserts, found]

theorem goneNames_congr (before : old.Alike other) (after : new.Alike later) :
    goneNames old new = goneNames other later := by
  -- The same names are gone, and there is only one way to sort them.
  refine List.Perm.eq_of_pairwise ?_ pairwise_goneNames pairwise_goneNames ?_
  · intro s t _ _ below above
    exact absurd below (String.lt_asymm above)
  · rw [List.perm_ext_iff_of_nodup nodup_goneNames nodup_goneNames]
    intro name
    rw [mem_goneNames_iff, mem_goneNames_iff, before name, after name]

theorem deletes_congr (before : old.Alike other) (after : new.Alike later) :
    deletes revision old new = deletes revision other later := by
  rw [deletes, deletes, goneNames_congr before after]

end Changes

/-! ### Listings gone through in an order -/

namespace Listing

/-- The names in malformed entries, once each in an order. -/
def inOrder (order : NameOrder) (listing : Listing) : Listing :=
  { listing with rejected := order.names listing.rejected }

theorem withLastGood_concat (nodes : NodeTable) (rejected : List String) (name : String)
    (state : NodeTable) :
    (Listing.mk nodes (rejected ++ [name])).withLastGood state =
      let kept := (Listing.mk nodes rejected).withLastGood state
      match kept.get? name, state.get? name with
      | none, some node => kept.put name node
      | _, _ => kept := by
  rw [withLastGood, List.foldl_append]
  rfl

/-- A name that comes again changes nothing. -/
theorem withLastGood_arrival (listing : Listing) (state : NodeTable) :
    (listing.inOrder .arrival).withLastGood state = listing.withLastGood state := by
  obtain ⟨nodes, rejected⟩ := listing
  change (Listing.mk nodes (firstSeen rejected)).withLastGood state = _
  induction rejected using List.reverseRecOn with
  | nil => rfl
  | append_singleton rejected name ih =>
    rw [firstSeen_concat, withLastGood_concat]
    split
    next again =>
      -- The name has been gone through: it is there by now if it was there before.
      rw [ih]
      have kept := get?_withLastGood ⟨nodes, rejected⟩ state name
      rw [if_pos again] at kept
      cases known : state.get? name with
      | none => simp
      | some node =>
        cases listed : nodes.get? name <;> simp [kept, known, listed]
    next => rw [withLastGood_concat, ih]

/-- Names that are gone through once each are found again in the state, in their order. -/
theorem keys_withLastGood {nodes : NodeTable} {rejected : List String} (distinct : rejected.Nodup)
    (state : NodeTable) :
    ((Listing.mk nodes rejected).withLastGood state).keys =
      nodes.keys ++ rejected.filter fun name =>
        (nodes.get? name).isNone && (state.get? name).isSome := by
  induction rejected using List.reverseRecOn with
  | nil => simp [withLastGood]
  | append_singleton rejected name ih =>
    obtain ⟨before, -, new⟩ := List.nodup_append.1 distinct
    have fresh : name ∉ rejected := fun again => new name again name (List.mem_singleton_self _) rfl
    have kept := get?_withLastGood ⟨nodes, rejected⟩ state name
    rw [if_neg fresh, Option.or_none] at kept
    rw [withLastGood_concat, List.filter_append, ← List.append_assoc, ← ih before]
    simp only [kept]
    cases listed : nodes.get? name with
    | some node => simp [listed]
    | none =>
      cases known : state.get? name with
      | none => simp [known]
      | some node =>
        have absent : name ∉ ((Listing.mk nodes rejected).withLastGood state).keys := by
          rw [← Table.get?_isSome_iff, kept, listed]
          exact Bool.false_ne_true
        simp [Table.keys_put, absent, listed, known]

/-- A node that is kept is not announced. -/
theorem upserts_withLastGood (listing : Listing) (state : NodeTable) (revision : String) :
    upserts revision state (listing.withLastGood state) =
      upserts revision state listing.nodes := by
  obtain ⟨nodes, rejected⟩ := listing
  induction rejected generalizing nodes with
  | nil => rfl
  | cons name rest ih =>
    rw [withLastGood_cons, ih]
    cases listed : nodes.get? name with
    | some node => rfl
    | none =>
      cases known : state.get? name with
      | none => rfl
      | some node =>
        have absent : name ∉ nodes.keys := by
          rw [← Table.get?_isSome_iff, listed]
          exact Bool.false_ne_true
        -- The node comes in at the end, with the state it had.
        simp [upserts, Table.entries_put_of_not_mem absent, known]

variable (listing : Listing) (order other : NameOrder) {s t : NodeTable}

theorem withLastGood_alike (same : s.Alike t) :
    ((listing.inOrder order).withLastGood s).Alike ((listing.inOrder other).withLastGood t) := by
  intro name
  have kept : name ∈ order.names listing.rejected ↔ name ∈ other.names listing.rejected :=
    (order.mem_iff _ name).trans (other.mem_iff _ name).symm
  rw [get?_withLastGood, get?_withLastGood, same name]
  exact congrArg _ (if_congr kept rfl rfl)

theorem changes_inOrder (same : s.Alike t) (revision : String) :
    changes revision s ((listing.inOrder order).withLastGood s) =
      changes revision t ((listing.inOrder other).withLastGood t) := by
  rw [changes, changes, upserts_withLastGood, upserts_withLastGood,
    deletes_congr same (withLastGood_alike listing order other same), upserts_congr same]
  rfl

end Listing

/-! ### Looks that go through their names in an order -/

namespace Watcher

/-- Take over a document, where the names in malformed entries are gone through in an order. -/
def takeIn (order : NameOrder) (handle : σ → Record → Logged (σ × Option φ)) (w : Watcher)
    (d : Document) (revision : String) (s : σ) : Logged (Poll σ φ) := do
  match ← Listing.ofDocument d with
  | .error fault => do
    .note .warning .watcher
      ("invalid nodes file " ++ w.path.text ++ ": " ++ fault.message)
    return ⟨w, s, none⟩
  | .ok listing => do
    let desired := (listing.inOrder order).withLastGood w.state
    let (s, fault) ← announce handle (changes revision w.state desired) s
    match fault with
    | some fault => return ⟨w, s, some (.handler fault)⟩
    | none => return ⟨{ w with state := desired }, s, none⟩

def pollIn (order : NameOrder) (handle : σ → Record → Logged (σ × Option φ)) (w : Watcher)
    (place : Place) (s : σ) : Logged (Poll σ φ) := do
  match ← w.look place with
  | .error fault => return ⟨w, s, some fault⟩
  | .ok none => return ⟨w, s, none⟩
  | .ok (some (d, revision)) => w.takeIn order handle d revision s

/-- The watcher itself goes through the names as they stand in the file. -/
theorem pollIn_arrival (handle : σ → Record → Logged (σ × Option φ)) (w : Watcher) (place : Place)
    (s : σ) : w.pollIn .arrival handle place s = w.poll handle place s := by
  have taken (d : Document) (revision : String) :
      w.takeIn .arrival handle d revision s = w.take handle d revision s := by
    unfold takeIn take
    refine bind_congr fun read => ?_
    cases read with
    | error fault => rfl
    | ok listing =>
      -- Both look for the same changes from here on.
      have same := listing.withLastGood_arrival w.state
      dsimp only
      generalize (listing.inOrder .arrival).withLastGood w.state = desired at same ⊢
      subst same
      rfl
  unfold pollIn poll
  refine bind_congr fun looked => ?_
  rcases looked with fault | found
  · rfl
  · cases found with
    | none => rfl
    | some document => exact taken document.1 document.2

theorem pollIn_of_document {order : NameOrder} {handle : σ → Record → Logged (σ × Option φ)}
    {w : Watcher} {place : Place} {d : Document} {revision : String}
    (found : documentAt? w.path place = some (d, revision)) (s : σ) :
    (w.pollIn order handle place s).value = (w.takeIn order handle d revision s).value := by
  rcases value_look (φ := φ) w place with looked | ⟨unread, -⟩
  · rw [pollIn, Logged.value_bind, looked, found]
  · cases found.symm.trans unread

/-- The watchers look at the same path, and know the same of every node. -/
structure Alike (w v : Watcher) : Prop where
  path : w.path = v.path
  state : w.state.Alike v.state

/-- The looks left the watchers alike, and the handler as it is in both. -/
structure Poll.Alike (p q : Poll σ φ) : Prop where
  watcher : p.watcher.Alike q.watcher
  handled : p.handled = q.handled
  fault : p.fault = q.fault

variable {w v : Watcher}

theorem look_congr (same : w.path = v.path) (place : Place) :
    w.look (φ := φ) place = v.look place := by
  obtain ⟨path, state⟩ := w
  obtain ⟨_, _⟩ := v
  cases same
  cases place <;> rfl

section

variable (order other : NameOrder) (handle : σ → Record → Logged (σ × Option φ))

theorem takeIn_alike (same : w.Alike v) (d : Document) (revision : String) (s : σ) :
    (w.takeIn order handle d revision s).log = (v.takeIn other handle d revision s).log ∧
      (w.takeIn order handle d revision s).value.Alike
        (v.takeIn other handle d revision s).value := by
  simp only [takeIn, Logged.log_bind, Logged.value_bind]
  cases (Listing.ofDocument d).value with
  | error fault =>
    rw [same.path]
    exact ⟨rfl, same, rfl, rfl⟩
  | ok listing =>
    have events := listing.changes_inOrder order other same.state revision
    simp only [Logged.log_bind, Logged.value_bind, events]
    -- The same events are announced, and both states are taken over or both are not.
    cases (announce handle (changes revision v.state
        ((listing.inOrder other).withLastGood v.state)) s).value.2 with
    | some fault => exact ⟨rfl, same, rfl, rfl⟩
    | none =>
      have state := listing.withLastGood_alike order other same.state
      exact ⟨rfl, ⟨same.path, state⟩, rfl, rfl⟩

/-- Watchers that are alike do the same in whatever orders they go through the names, note the same,
and are alike afterwards. -/
theorem pollIn_alike (same : w.Alike v) (place : Place) (s : σ) :
    (w.pollIn order handle place s).log = (v.pollIn other handle place s).log ∧
      (w.pollIn order handle place s).value.Alike (v.pollIn other handle place s).value := by
  simp only [pollIn, look_congr same.path, Logged.log_bind, Logged.value_bind]
  cases (v.look (φ := φ) place).value with
  | error fault => exact ⟨rfl, same, rfl, rfl⟩
  | ok found =>
    cases found with
    | none => exact ⟨rfl, same, rfl, rfl⟩
    | some document =>
      obtain ⟨noted, alike⟩ := takeIn_alike order other handle same document.1 document.2 s
      exact ⟨congrArg _ noted, alike⟩

end

end Watcher

/-! ### Runs whose looks go through their names in orders -/

/-- The looks are at the same place, are given the same events, fail in the same way, and know the
same of every node. -/
structure Look.Alike (a b : Look φ) : Prop where
  place : a.place = b.place
  before : a.before.Alike b.before
  after : a.after.Alike b.after
  handed : a.handed = b.handed
  fault : a.fault = b.fault

namespace Watching

/-- The watchers are alike, and their handlers have come to the same. -/
structure Alike (run again : Watching σ) : Prop where
  watcher : run.watcher.Alike again.watcher
  handled : run.handled = again.handled

theorem Alike.refl (run : Watching σ) : run.Alike run := ⟨⟨rfl, fun _ => rfl⟩, rfl⟩

section

variable (handle : σ → Record → Logged (σ × Option φ))

def pollIn (order : NameOrder) (run : Watching σ) (place : Place) :
    Watcher.Poll (σ × List Record) φ :=
  (run.watcher.pollIn order (keeping handle) place (run.handled, [])).value

def lookIn (order : NameOrder) (run : Watching σ) (place : Place) : Look φ :=
  let polled := run.pollIn handle order place
  ⟨place, run.watcher.state, polled.watcher.state, polled.handled.2, polled.fault⟩

def nextIn (order : NameOrder) (run : Watching σ) (place : Place) : Watching σ :=
  let polled := run.pollIn handle order place
  ⟨polled.watcher, polled.handled.1⟩

/-- The looks of a run, where each look has an order of its own. -/
def looksIn : (Nat → NameOrder) → Watching σ → List Place → List (Look φ)
  | _, _, [] => []
  | orders, run, place :: rest =>
    run.lookIn handle (orders 0) place ::
      (run.nextIn handle (orders 0) place).looksIn (fun n => orders (n + 1)) rest

def behindIn : (Nat → NameOrder) → Watching σ → List Place → Watching σ
  | _, run, [] => run
  | orders, run, place :: rest =>
    (run.nextIn handle (orders 0) place).behindIn (fun n => orders (n + 1)) rest

end

variable (handle : σ → Record → Logged (σ × Option φ)) {run again : Watching σ}

theorem pollIn_arrival (run : Watching σ) (place : Place) :
    run.pollIn handle .arrival place = run.poll handle place := by
  rw [pollIn, poll, Watcher.pollIn_arrival]

theorem looksIn_arrival (run : Watching σ) (places : List Place) :
    run.looksIn handle (fun _ => .arrival) places = run.looks handle places ∧
      run.behindIn handle (fun _ => .arrival) places = run.behind handle places := by
  induction places generalizing run with
  | nil => exact ⟨rfl, rfl⟩
  | cons place rest ih =>
    have looked : run.lookIn handle .arrival place = run.look handle place := by
      rw [lookIn, look, pollIn_arrival]
    have came : run.nextIn handle .arrival place = run.next handle place := by
      rw [nextIn, next, pollIn_arrival]
    rw [looksIn, looks, behindIn, behind, looked, came, (ih _).1, (ih _).2]
    exact ⟨rfl, rfl⟩

theorem pollIn_alike (same : run.Alike again) (order other : NameOrder) (place : Place) :
    (run.pollIn handle order place).Alike (again.pollIn handle other place) := by
  rw [pollIn, pollIn, same.handled]
  exact (Watcher.pollIn_alike order other (keeping handle) same.watcher place _).2

theorem lookIn_alike (same : run.Alike again) (order other : NameOrder) (place : Place) :
    (run.lookIn handle order place).Alike (again.lookIn handle other place) := by
  have polled := pollIn_alike handle same order other place
  exact ⟨rfl, same.watcher.state, polled.watcher.state, congrArg (·.2) polled.handled, polled.fault⟩

theorem nextIn_alike (same : run.Alike again) (order other : NameOrder) (place : Place) :
    (run.nextIn handle order place).Alike (again.nextIn handle other place) := by
  have polled := pollIn_alike handle same order other place
  exact ⟨polled.watcher, congrArg (·.1) polled.handled⟩

/-- A handler that works lets the state be taken over. -/
theorem watcher_nextIn {handle : σ → Record → Logged (σ × Option φ)}
    (works : ∀ s event, (handle s event).value.2 = none) (run : Watching σ) (order : NameOrder)
    {place : Place} {d : Document} {revision : String} {listing : Listing}
    (found : Watcher.documentAt? run.watcher.path place = some (d, revision))
    (listed : (Listing.ofDocument d).value = .ok listing) :
    (run.nextIn handle order place).watcher =
      { run.watcher with state := (listing.inOrder order).withLastGood run.watcher.state } := by
  have kept (s : σ × List Record) (e : NodeEvent) (_ : True) :
      (keeping handle s e.toRecord).value.2 = none ∧ True := ⟨works s.1 e.toRecord, trivial⟩
  obtain ⟨taken, -⟩ := announce_of_works (fun _ => True) kept
    (changes revision run.watcher.state ((listing.inOrder order).withLastGood run.watcher.state))
    (s := (run.handled, [])) trivial
  simp only [nextIn, pollIn, Watcher.pollIn_of_document found, Watcher.takeIn, Logged.value_bind,
    listed, taken, Logged.value_pure]

theorem looksIn_alike (same : run.Alike again) (orders others : Nat → NameOrder)
    (places : List Place) :
    List.Forall₂ Look.Alike (run.looksIn handle orders places)
        (again.looksIn handle others places) ∧
      (run.behindIn handle orders places).Alike (again.behindIn handle others places) := by
  -- The induction is on the places; the runs stay alike, with any orders for the looks to come.
  induction places generalizing run again orders others with
  | nil => exact ⟨.nil, same⟩
  | cons place rest ih =>
    obtain ⟨behind, still⟩ := ih (nextIn_alike handle same (orders 0) (others 0) place)
      (fun n => orders (n + 1)) fun n => others (n + 1)
    exact ⟨.cons (lookIn_alike handle same _ _ place) behind, still⟩

end Watching

theorem handedIn_congr {looks others : List (Look φ)}
    (same : List.Forall₂ Look.Alike looks others) :
    handedIn looks = handedIn others := by
  induction same with
  | nil => rfl
  | cons first _ ih =>
    rw [handedIn, handedIn, List.flatMap_cons, List.flatMap_cons, first.handed]
    exact congrArg _ ih

namespace Sample

def twoNodes : StoredFile :=
  ⟨"\x7b\"nodes\":[\x7b\"name\":\"a\"\x7d,\x7b\"name\":\"b\"\x7d]\x7d".toUTF8, "1"⟩

/-- The same names, in entries with a section that is no map. -/
def brokenText : String :=
  "\x7b\"nodes\":[\x7b\"name\":\"a\",\"bgp\":\"x\"\x7d,\x7b\"name\":\"b\",\"bgp\":\"x\"\x7d]\x7d"

def twoBroken : StoredFile := ⟨brokenText.toUTF8, "2"⟩

def twoListed : Document :=
  .map [(.string "nodes", .list
    [.map [(.string "name", .string "a")], .map [(.string "name", .string "b")]])]

def noneFormed : Document :=
  .map [(.string "nodes", .list
    [.map [(.string "name", .string "a"), (.string "bgp", .string "x")],
      .map [(.string "name", .string "b"), (.string "bgp", .string "x")]])]

theorem documentAt?_twoNodes :
    Watcher.documentAt? path (.file twoNodes) = some (twoListed, "1") := by
  apply Watcher.documentAt?_json
    "\x7b\"nodes\":[\x7b\"name\":\"a\"\x7d,\x7b\"name\":\"b\"\x7d]\x7d"
  · decide +kernel
  · decide +kernel
  · cbv

theorem documentAt?_twoBroken :
    Watcher.documentAt? path (.file twoBroken) = some (noneFormed, "2") := by
  apply Watcher.documentAt?_json brokenText
  · decide +kernel
  · decide +kernel
  · cbv

def both : NodeTable := (Table.empty.put "a" { name := "a" }).put "b" { name := "b" }

theorem ofDocument_twoListed : (Listing.ofDocument twoListed).value = .ok ⟨both, []⟩ := by
  apply toOption_eq_some_iff.1
  decide +kernel

theorem ofDocument_noneFormed :
    (Listing.ofDocument noneFormed).value = .ok ⟨.empty, ["a", "b"]⟩ := by
  apply toOption_eq_some_iff.1
  decide +kernel

/-- The second look leaves the nodes in the order in which it went through them. -/
theorem keys_of_orders (orders : Nat → NameOrder) :
    ((Watching.start path 0).behindIn counting orders
      [.file twoNodes, .file twoBroken]).watcher.state.keys = (orders 1).names ["a", "b"] := by
  have works (s : Nat) (event : Record) : (counting s event).value.2 = none := rfl
  have first := Watching.watcher_nextIn works (.start path 0) (orders 0) documentAt?_twoNodes
    ofDocument_twoListed
  rw [Listing.inOrder, NameOrder.names_nil] at first
  have second := Watching.watcher_nextIn works
    ((Watching.start path 0).nextIn counting (orders 0) (.file twoNodes)) (orders 1)
    (by rw [first]; exact documentAt?_twoBroken) ofDocument_noneFormed
  rw [Watching.behindIn, Watching.behindIn, Watching.behindIn, second, first]
  refine (Listing.keys_withLastGood ((orders 1).nodup _) _).trans ?_
  -- Both names were known, and neither is in a well-formed entry.
  apply List.filter_eq_self.2
  intro name member
  rw [(orders 1).mem_iff] at member
  simp only [List.mem_cons, List.not_mem_nil, or_false] at member
  rcases member with rfl | rfl <;> decide +kernel

end Sample

/-! ### Main result -/

/-- **The order of malformed entries is not seen.** Let the looks of a run go through the names in
malformed entries in any orders, and again in any others. The handler is given the same events in
every look, each look fails or does not in the same way, and the states around it say the same of
every node. The run that goes through the names as they stand in the file is one of these. The order
in which a state keeps its nodes may differ. -/
theorem rejected_order_unobservable (handle : σ → Record → Logged (σ × Option φ))
    (run : Watching σ) (orders others : Nat → NameOrder) (places : List Place) :
    List.Forall₂ Look.Alike (run.looksIn handle orders places)
      (run.looksIn handle others places) ∧
    handedIn (run.looksIn handle orders places) = handedIn (run.looksIn handle others places) ∧
    (run.behindIn handle orders places).handled = (run.behindIn handle others places).handled ∧
    run.looksIn handle (fun _ => .arrival) places = run.looks handle places ∧
    ∃ path places orders others,
      ((Watching.start path 0).behindIn counting orders places).watcher.state.keys ≠
        ((Watching.start path 0).behindIn counting others places).watcher.state.keys := by
  obtain ⟨looked, came⟩ := Watching.looksIn_alike handle (.refl run) orders others places
  refine ⟨looked, handedIn_congr looked, came.handled, (run.looksIn_arrival handle places).1, ?_⟩
  refine ⟨Sample.path, [.file Sample.twoNodes, .file Sample.twoBroken], fun _ => .arrival,
    fun _ => .reversed, ?_⟩
  rw [Sample.keys_of_orders, Sample.keys_of_orders]
  decide +kernel

end NodeDataplane
