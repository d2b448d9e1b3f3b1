import NodeDataplane.Proofs.Interleaving
import NodeDataplane.Registry

/-!
# Processors that are offered one ledger

Processors of nodes may work on one ledger: then it does not matter which of them an event is handed
to. Whether they do is decided when they are built. A ledger is taken only if something is in it;
one without entries is passed over, and each processor gets a new one of its own.

## Main results

- `Plant.answers_of_serving`: processors on one ledger answer as a single one that works on all
  their events.
- `Plant.answers_apart`: a processor whose ledger no other one works on answers as if it were alone.
- `Plant.shared_iff`: two processors that are offered a ledger do share it if and only if there is
  an entry in it, unless they do not publish blocks and so do not use it.

## Proof strategy

A step of a processor writes to its own ledger and changes no other ledger and no processor. So the
ledgers follow the events of the processors that work on them (`Plant.Serving`), by induction on the
events. What two processors are built to work on is told by `Plant.pair_of_filled` and
`Plant.pair_of_isEmpty`.
-/

namespace NodeDataplane

open Processor

namespace Plant

/-! ### Events for several processors -/

/-- An event, and the number of the processor that it is handed to. -/
abbrev Job := Nat × Record

def step (plant : Plant) (job : Job) : Except WorkerFault Production :=
  (plant.produce job.1 job.2).map Logged.value

/-- The plant behind a step. An event that is refused leaves it as it is. -/
def afterStep (plant : Plant) (job : Job) : Plant :=
  match plant.step job with
  | .ok production => production.plant
  | .error _ => plant

/-- What callers get for events that are handed to processors one after the other. -/
def answers : Plant → List Job → List (Job × Except WorkerFault (List Record × List FieldFailure))
  | _, [] => []
  | plant, job :: rest =>
    (job, (plant.step job).map fun p => (p.records, p.failures)) ::
      (plant.afterStep job).answers rest

def behind : Plant → List Job → Plant := List.foldl afterStep

/-- What a single processor gives for the events, as callers of several ones get it. -/
def resultsFor (config : ProcessorConfig) (ledger : BlockLedger) (jobs : List Job) :
    List (Except WorkerFault (List Record × List FieldFailure)) :=
  (results config ledger (jobs.map (·.2))).map fun entry => entry.2.mapError .event

/-! ### One step -/

/-- A processor of nodes, with its configuration and the ledger that it works on. -/
def Serving (plant : Plant) (config : ProcessorConfig) (number worker : Nat) : Prop :=
  number < plant.ledgers.length ∧
    ∃ starts, plant.workers[worker]? = some ⟨.node config number, starts⟩

section Step

variable {plant : Plant} {config : ProcessorConfig} {number worker : Nat}

theorem step_of_serving (serving : plant.Serving config number worker) (event : Record) :
    plant.step (worker, event) =
      ((answer config (plant.ledger number) event).map fun outcome =>
        ⟨outcome.records, outcome.failures, plant.setLedger number outcome.ledger⟩).mapError
          .event := by
  obtain ⟨-, starts, works⟩ := serving
  simp only [step, produce, works, answer]
  cases process config (plant.ledger number) event <;> rfl

theorem result_step (serving : plant.Serving config number worker) (event : Record) :
    ((plant.step (worker, event)).map fun p => (p.records, p.failures)) =
      ((answer config (plant.ledger number) event).map Outcome.result).mapError .event := by
  rw [step_of_serving serving]
  cases answer config (plant.ledger number) event <;> rfl

theorem afterStep_of_serving (serving : plant.Serving config number worker) (event : Record) :
    plant.afterStep (worker, event) =
      plant.setLedger number (settle (plant.ledger number)
        (answer config (plant.ledger number) event)) := by
  rw [afterStep, step_of_serving serving]
  cases answer config (plant.ledger number) event with
  | ok outcome => rfl
  | error fault =>
    -- A ledger that is put back changes nothing.
    obtain ⟨there, -⟩ := serving
    have same : plant.setLedger number (plant.ledger number) = plant := by
      simp [setLedger, ledger, there]
    exact same.symm

theorem ledger_afterStep_self (serving : plant.Serving config number worker) (event : Record) :
    (plant.afterStep (worker, event)).ledger number =
      settle (plant.ledger number) (answer config (plant.ledger number) event) := by
  rw [afterStep_of_serving serving, ledger_setLedger serving.1]

theorem ledger_afterStep_of_ne (serving : plant.Serving config number worker) (event : Record)
    {other : Nat} (h : number ≠ other) :
    (plant.afterStep (worker, event)).ledger other = plant.ledger other := by
  rw [afterStep_of_serving serving]
  simp [setLedger, ledger, List.getD_eq_getElem?_getD, List.getElem?_set_ne h]

/-- A step leaves every processor in its place, with its ledger. -/
theorem Serving.afterStep (serving : plant.Serving config number worker) (event : Record)
    {other : ProcessorConfig} {ledger : Nat} {colleague : Nat}
    (still : plant.Serving other ledger colleague) :
    (plant.afterStep (worker, event)).Serving other ledger colleague := by
  rw [afterStep_of_serving serving]
  exact ⟨by simpa [setLedger] using still.1, still.2⟩

end Step

/-! ### One ledger for all -/

/-- Processors on one ledger answer as a single one that works on all their events, and leave the
ledger as it would. -/
theorem answers_of_serving {config : ProcessorConfig} {number : Nat} {jobs : List Job}
    {plant : Plant} (serving : ∀ job ∈ jobs, plant.Serving config number job.1) :
    (plant.answers jobs).map (·.2) = resultsFor config (plant.ledger number) jobs ∧
      (plant.behind jobs).ledger number =
        ledgerAfter config (plant.ledger number) (jobs.map (·.2)) := by
  induction jobs generalizing plant with
  | nil => exact ⟨rfl, rfl⟩
  | cons job rest ih =>
    obtain ⟨worker, event⟩ := job
    rw [List.forall_mem_cons] at serving
    obtain ⟨own, others⟩ := serving
    -- The ledger is the one that a single processor has behind the event.
    obtain ⟨given, left⟩ := ih fun job member => own.afterStep event (others job member)
    rw [ledger_afterStep_self own] at given left
    refine ⟨?_, left⟩
    rw [answers, List.map_cons, given, result_step own]
    rfl

/-! ### A ledger of one's own -/

/-- What the events of one processor come to if no other one works on its ledger. -/
theorem answers_apart {config : ProcessorConfig} {number worker : Nat} {jobs : List Job}
    {plant : Plant} (own : plant.Serving config number worker)
    (apart : ∀ job ∈ jobs, job.1 ≠ worker →
      ∃ other, number ≠ other ∧ plant.Serving config other job.1) :
    ((plant.answers jobs).filter (fun entry => entry.1.1 = worker)).map (·.2) =
        resultsFor config (plant.ledger number) (jobs.filter fun job => job.1 = worker) ∧
      (plant.behind jobs).ledger number =
        ledgerAfter config (plant.ledger number)
          ((jobs.filter fun job => job.1 = worker).map (·.2)) := by
  induction jobs generalizing plant with
  | nil => exact ⟨rfl, rfl⟩
  | cons job rest ih =>
    obtain ⟨handed, event⟩ := job
    rw [List.forall_mem_cons] at apart
    obtain ⟨here, later⟩ := apart
    by_cases same : handed = worker
    · subst same
      obtain ⟨given, left⟩ := ih (own.afterStep event own) fun job member different =>
        (later job member different).imp fun _ found => ⟨found.1, own.afterStep event found.2⟩
      rw [ledger_afterStep_self own] at given left
      rw [answers, List.filter_cons_of_pos (by simp), List.map_cons, given, result_step own,
        List.filter_cons_of_pos (by simp)]
      exact ⟨rfl, left⟩
    · -- Another processor works on another ledger.
      obtain ⟨other, different, working⟩ := here same
      obtain ⟨given, left⟩ := ih (working.afterStep event own) fun job member different =>
        (later job member different).imp fun _ found => ⟨found.1, working.afterStep event found.2⟩
      rw [ledger_afterStep_of_ne working event (Ne.symm different)] at given left
      rw [answers, List.filter_cons_of_neg (by simpa using same), given,
        List.filter_cons_of_neg (by simpa using same)]
      exact ⟨rfl, left⟩

/-- A ledger that no processor works on stays as it is. -/
theorem ledger_behind_of_unused {config : ProcessorConfig} {number : Nat} {jobs : List Job}
    {plant : Plant}
    (unused : ∀ job ∈ jobs, ∃ other, other ≠ number ∧ plant.Serving config other job.1) :
    (plant.behind jobs).ledger number = plant.ledger number := by
  induction jobs generalizing plant with
  | nil => rfl
  | cons job rest ih =>
    obtain ⟨worker, event⟩ := job
    rw [List.forall_mem_cons] at unused
    obtain ⟨⟨other, different, working⟩, later⟩ := unused
    have kept := ledger_afterStep_of_ne working event different
    rw [← kept]
    exact ih fun job member =>
      (later job member).imp fun _ found => ⟨found.1, working.afterStep event found.2⟩

/-! ### Processors that do not use their ledgers -/

theorem answer_of_no_pods {config : ProcessorConfig} (bare : config.usePodBlocks = false)
    (first second : BlockLedger) (event : Record) :
    (answer config first event).map Outcome.result =
        (answer config second event).map Outcome.result ∧
      settle first (answer config first event) = first := by
  rcases refused_or_toRecord config event with ⟨fault, refused⟩ | ⟨e, rfl⟩
  · rw [refused first, refused second]
    exact ⟨rfl, rfl⟩
  · rw [answer_toRecord, answer_toRecord]
    refine ⟨congrArg Except.ok ?_, ledger_outcomeOf_of_no_pods bare first e⟩
    rw [result_outcomeOf, result_outcomeOf]
    simp [bare]

/-- Without blocks it does not matter which ledgers there are, and none of them changes. -/
theorem answers_of_no_pods {config : ProcessorConfig} (bare : config.usePodBlocks = false)
    {jobs : List Job} {plant : Plant}
    (serving : ∀ job ∈ jobs, ∃ number, plant.Serving config number job.1) (any : BlockLedger) :
    (plant.answers jobs).map (·.2) = resultsFor config any jobs ∧
      (∀ number, (plant.behind jobs).ledger number = plant.ledger number) ∧
      ledgerAfter config any (jobs.map (·.2)) = any := by
  induction jobs generalizing plant with
  | nil => exact ⟨rfl, fun _ => rfl, rfl⟩
  | cons job rest ih =>
    obtain ⟨worker, event⟩ := job
    rw [List.forall_mem_cons] at serving
    obtain ⟨⟨number, own⟩, others⟩ := serving
    have unchanged (other : Nat) :
        (plant.afterStep (worker, event)).ledger other = plant.ledger other := by
      by_cases same : number = other
      · subst same
        rw [ledger_afterStep_self own, (answer_of_no_pods bare _ any event).2]
      · exact ledger_afterStep_of_ne own event same
    obtain ⟨given, left, still⟩ := ih fun job member =>
      (others job member).imp fun _ found => own.afterStep event found
    obtain ⟨result, kept⟩ := answer_of_no_pods bare any (plant.ledger number) event
    have next : resultsFor config any ((worker, event) :: rest) =
        ((answer config any event).map Outcome.result).mapError .event ::
          resultsFor config any rest := by
      rw [resultsFor, List.map_cons, results_cons, kept]
      rfl
    refine ⟨?_, fun other => (left other).trans (unchanged other), ?_⟩
    · rw [answers, List.map_cons, given, result_step own, ← result, next]
    · simp only [ledgerAfter, List.map_cons, List.foldl_cons, kept]
      exact still

/-! ### Two processors that are offered one ledger -/

/-- Two processors of nodes that are built one after the other, with one ledger offered to both. -/
def pair (plant : Plant) (config : ProcessorConfig) (offered : BlockLedger) : Plant :=
  let number := plant.ledgers.length
  ((plant.addLedger offered).addNodeWorker config (some number)).addNodeWorker config (some number)

/-- The job of the first or of the second processor of the pair. -/
def pairJob (plant : Plant) (event : Bool × Record) : Job :=
  (plant.workers.length + event.1.toNat, event.2)

section Pair

variable (plant : Plant) (config : ProcessorConfig) (offered : BlockLedger)

/-- A ledger with an entry is the one that both of the pair work on. -/
theorem pair_of_filled (filled : offered.isEmpty = false) :
    (plant.pair config offered).ledger plant.ledgers.length = offered ∧
      ∀ second : Bool, (plant.pair config offered).Serving config plant.ledgers.length
        (plant.workers.length + second.toNat) := by
  have once : (plant.addLedger offered).addNodeWorker config (some plant.ledgers.length) =
      (plant.addLedger offered).addWorker (.node config plant.ledgers.length) :=
    addNodeWorker_of_filled config (by simpa using filled)
  have taken : plant.pair config offered =
      ((plant.addLedger offered).addWorker (.node config plant.ledgers.length)).addWorker
        (.node config plant.ledgers.length) := by
    rw [pair, once]
    exact addNodeWorker_of_filled config (by simpa using filled)
  rw [taken]
  refine ⟨by simp, fun second => ⟨by simp [addWorker, addLedger], 0, ?_⟩⟩
  cases second <;> simp [addWorker, addLedger]

/-- A ledger without entries is passed over by both of the pair: each works on a new one. -/
theorem pair_of_isEmpty (bare : offered.isEmpty = true) :
    (plant.pair config offered).ledger plant.ledgers.length = offered ∧
      ∀ second : Bool,
        (plant.pair config offered).Serving config (plant.ledgers.length + 1 + second.toNat)
            (plant.workers.length + second.toNat) ∧
          (plant.pair config offered).ledger (plant.ledgers.length + 1 + second.toNat) =
            .empty := by
  have once : (plant.addLedger offered).addNodeWorker config (some plant.ledgers.length) =
      ((plant.addLedger offered).addLedger .empty).addWorker
        (.node config (plant.ledgers.length + 1)) := by
    have count : plant.ledgers.length + 1 = (plant.addLedger offered).ledgers.length := by
      simp [addLedger]
    rw [count]
    exact addNodeWorker_of_isEmpty config (by simpa using bare)
  let first : Plant := ((plant.addLedger offered).addLedger .empty).addWorker
    (.node config (plant.ledgers.length + 1))
  have count : plant.ledgers.length + 1 + 1 = first.ledgers.length := by
    simp [first, addLedger, addWorker]
  -- The first of the pair did not write to the ledger, so the second passes it over too.
  have unused : first.ledger plant.ledgers.length = offered := by
    rw [ledger_addWorker, ledger_addLedger_of_lt _ (by simp [addLedger]), ledger_addLedger_self]
  have passed : plant.pair config offered =
      (first.addLedger .empty).addWorker (.node config (plant.ledgers.length + 1 + 1)) := by
    rw [pair, once, count]
    exact addNodeWorker_of_isEmpty config (by rw [unused]; exact bare)
  rw [passed]
  refine ⟨?_, fun second => ⟨⟨?_, 0, ?_⟩, ?_⟩⟩
  · rw [ledger_addWorker, ledger_addLedger_of_lt _ (by omega), unused]
  · cases second <;> simp [first, addWorker, addLedger]
  · cases second <;> simp [first, addWorker, addLedger]
  · cases second with
    | false => simp [first, addWorker, addLedger, ledger]
    | true =>
      rw [ledger_addWorker, Bool.toNat_true, count]
      exact ledger_addLedger_self first .empty

/-! ### What the pair answers -/

theorem map_snd_pairJob (events : List (Bool × Record)) :
    (events.map plant.pairJob).map (·.2) = events.map (·.2) := by
  rw [List.map_map]
  rfl

theorem forall_pairJob {P : Job → Prop} (events : List (Bool × Record))
    (both : ∀ (second : Bool) event, P (plant.workers.length + second.toNat, event)) :
    ∀ job ∈ events.map plant.pairJob, P job := by
  intro job member
  obtain ⟨event, -, rfl⟩ := List.mem_map.1 member
  exact both event.1 event.2

/-- Whether the pair answers all events like one processor, and enters the same into the ledger. -/
def PairShares : Prop :=
  ∀ events : List (Bool × Record),
    ((plant.pair config offered).answers (events.map plant.pairJob)).map (·.2) =
        resultsFor config offered (events.map plant.pairJob) ∧
      ((plant.pair config offered).behind (events.map plant.pairJob)).ledger
          plant.ledgers.length =
        ledgerAfter config offered (events.map (·.2))

variable {plant config offered}

theorem pairShares_of_filled (filled : offered.isEmpty = false) :
    plant.PairShares config offered := by
  intro events
  obtain ⟨content, serving⟩ := plant.pair_of_filled config offered filled
  obtain ⟨given, left⟩ := answers_of_serving
    (plant.forall_pairJob events fun second _ => serving second)
  rw [content] at given
  rw [content, map_snd_pairJob] at left
  exact ⟨given, left⟩

theorem ledger_pair_of_isEmpty (bare : offered.isEmpty = true) (events : List (Bool × Record)) :
    ((plant.pair config offered).behind (events.map plant.pairJob)).ledger
      plant.ledgers.length = offered := by
  obtain ⟨content, serving⟩ := plant.pair_of_isEmpty config offered bare
  have apart (second : Bool) :
      plant.ledgers.length + 1 + second.toNat ≠ plant.ledgers.length := by omega
  rw [ledger_behind_of_unused (plant.forall_pairJob events fun second _ =>
    ⟨_, apart second, (serving second).1⟩), content]

theorem pairShares_of_no_pods (bare : offered.isEmpty = true)
    (no_pods : config.usePodBlocks = false) : plant.PairShares config offered := by
  intro events
  obtain ⟨-, serving⟩ := plant.pair_of_isEmpty config offered bare
  obtain ⟨given, -, kept⟩ := answers_of_no_pods no_pods
    (plant.forall_pairJob events fun second _ => ⟨_, (serving second).1⟩) offered
  rw [map_snd_pairJob] at kept
  exact ⟨given, (ledger_pair_of_isEmpty bare events).trans kept.symm⟩

theorem not_pairShares (bare : offered.isEmpty = true) (pods : config.usePodBlocks = true) :
    ¬ plant.PairShares config offered := by
  intro shared
  -- The first node with a block never comes into the ledger that was offered.
  let e : NodeEvent := ⟨"a", some { name := "a", podBlocks := ["10.0.0.0/24"] }, "1"⟩
  have left := (shared [(false, e.toRecord)]).2
  rw [ledger_pair_of_isEmpty bare, List.map_singleton] at left
  have known : (ledgerAfter config offered [e.toRecord]).lookup "a" = ["10.0.0.0/24"] := by
    simp only [ledgerAfter, List.foldl_cons, List.foldl_nil, answer_toRecord, settle]
    exact lookup_outcomeOf_self pods offered e
  have unknown : offered.lookup "a" = [] := BlockLedger.lookup_of_isEmpty bare "a"
  rw [← left, unknown] at known
  cases known

theorem answers_pair_apart (bare : offered.isEmpty = true) (events : List (Bool × Record))
    (second : Bool) :
    (((plant.pair config offered).answers (events.map plant.pairJob)).filter
        (fun entry => entry.1.1 = plant.workers.length + second.toNat)).map (·.2) =
      resultsFor config .empty ((events.map plant.pairJob).filter
        fun job => job.1 = plant.workers.length + second.toNat) := by
  obtain ⟨-, serving⟩ := plant.pair_of_isEmpty config offered bare
  obtain ⟨own, new⟩ := serving second
  rw [← new]
  refine (answers_apart own (plant.forall_pairJob events fun other _ different => ?_)).1
  refine ⟨_, ?_, (serving other).1⟩
  intro equal
  exact different (by omega)

end Pair

/-! ### Main result -/

/-- **A ledger is shared if and only if there is an entry in it.** Build two processors of nodes
with one configuration, and offer one ledger to both. For every sequence of events, and however they
are distributed between the two, the answers are those of a single processor that starts from what
is in the ledger, and the ledger ends up as it would: this is so just if the ledger has an entry, or
no blocks are published. Without an entry each of the two answers its own events as a new processor
that is alone, and the ledger that was offered stays as it is. -/
theorem shared_iff (plant : Plant) (config : ProcessorConfig) (offered : BlockLedger) :
    let number := plant.ledgers.length
    let both := plant.pair config offered
    ((∀ events : List (Bool × Record),
        let jobs := events.map plant.pairJob
        (both.answers jobs).map (·.2) = resultsFor config offered jobs ∧
          (both.behind jobs).ledger number = ledgerAfter config offered (events.map (·.2))) ↔
      (config.usePodBlocks = true → offered.isEmpty = false)) ∧
    (offered.isEmpty = true → ∀ (events : List (Bool × Record)) (second : Bool),
      let jobs := events.map plant.pairJob
      let worker := plant.workers.length + second.toNat
      ((both.answers jobs).filter (fun entry => entry.1.1 = worker)).map (·.2) =
          resultsFor config .empty (jobs.filter fun job => job.1 = worker) ∧
        (both.behind jobs).ledger number = offered) := by
  intro number both
  refine ⟨⟨fun shared pods => ?_, fun filled => ?_⟩, fun bare events second =>
    ⟨answers_pair_apart bare events second, ledger_pair_of_isEmpty bare events⟩⟩
  · exact Bool.eq_false_iff.2 fun bare => not_pairShares bare pods shared
  · cases entries : offered.isEmpty with
    | false => exact pairShares_of_filled entries
    | true =>
      have no_pods : config.usePodBlocks = false := Bool.eq_false_iff.2 fun pods =>
        absurd (filled pods) (Bool.ne_false_iff.2 entries)
      exact pairShares_of_no_pods entries no_pods

/-! ### A ledger without entries -/

def recordsIn (answers : List (Except WorkerFault (List Record × List FieldFailure))) :
    List Record :=
  answers.flatMap fun answer =>
    match answer with
    | .ok (records, _) => records
    | .error _ => []

/-- A new ledger is offered to two processors. The first one is told of a node with a block, and the
second one that the node is gone. A single processor would delete the block. The second one does not
know of it, and nothing was entered in the ledger. -/
theorem block_left_behind_by_pair :
    let came := NodeEvent.toRecord ⟨"a", some { name := "a", podBlocks := ["10.0.0.0/24"] }, "1"⟩
    let gone := NodeEvent.toRecord ⟨"a", none, "2"⟩
    let delete : Record := ⟨.block (.v4 (Net.Block.of 0x0a000000#32 24)), none, "2"⟩
    let both := Plant.empty.pair {} .empty
    let jobs := [(false, came), (true, gone)].map Plant.empty.pairJob
    delete ∈ recordsIn (resultsFor {} .empty jobs) ∧
      delete ∉ recordsIn ((both.answers jobs).map (·.2)) ∧
      ledgerAfter {} .empty [came, gone] ≠ .empty ∧ (both.behind jobs).ledger 0 = .empty := by
  decide +kernel

end Plant

end NodeDataplane
