import NodeDataplane.Proofs.Publication

/-!
# Nodes do not disturb each other

One processor works on the events of all nodes, with one ledger. What it answers to the events of a
node, and what the ledger knows of the node in the end, is what they would be without all other
events.

## Main result

`results_interleaved`: the results for a node in a run are the results of the run on the events of
that node alone. So two runs that only interleave the events of the nodes in another order agree on
every result and on every look-up.

## Proof strategy

An event reads and writes the entry of its own node, and an event that is refused does neither. Two
ledgers that agree on one node therefore give the same result for an event of that node and agree on
it afterwards, and an event of another node keeps them so. The induction carries this agreement
along the run and the run that leaves events out.
-/

namespace NodeDataplane

/-- Whether a record is about a resource of some name, of whatever kind. -/
def Record.concerns (name : String) (r : Record) : Bool :=
  match r.key with
  | .resource other _ => other = name
  | _ => false

theorem NodeEvent.concerns_toRecord (e : NodeEvent) (name : String) :
    e.toRecord.concerns name = true ↔ e.name = name := by
  simp [Record.concerns, toRecord]

/-- What a caller gets for an event. -/
def Outcome.result (o : Outcome) : List Record × List FieldFailure := (o.records, o.failures)

namespace Processor

/-! ### Results of a run -/

abbrev Result := Except EventFault (List Record × List FieldFailure)

def results (config : ProcessorConfig) (ledger : BlockLedger) (events : List Record) :
    List (Record × Result) :=
  (run config ledger events).map fun (event, answer) => (event, answer.map Outcome.result)

def ledgerAfter (config : ProcessorConfig) : BlockLedger → List Record → BlockLedger :=
  List.foldl fun ledger event => settle ledger (answer config ledger event)

theorem results_cons (config : ProcessorConfig) (ledger : BlockLedger) (event : Record)
    (rest : List Record) :
    results config ledger (event :: rest) =
      (event, (answer config ledger event).map Outcome.result) ::
        results config (settle ledger (answer config ledger event)) rest := rfl

/-- An event is refused whatever the ledger knows, or it is that of a node. -/
theorem refused_or_toRecord (config : ProcessorConfig) (event : Record) :
    (∃ fault, ∀ ledger, answer config ledger event = .error fault) ∨
      ∃ e : NodeEvent, event = e.toRecord := by
  cases read : NodeEvent.ofRecord event with
  | error fault =>
    left
    refine ⟨fault, fun ledger => ?_⟩
    rw [answer, process, read]
    rfl
  | ok e => exact Or.inr ⟨e, NodeEvent.ofRecord_eq_ok_iff.1 read⟩

/-! ### One event -/

section Outcome

variable {config : ProcessorConfig} {first second : BlockLedger} {e : NodeEvent}

theorem result_outcomeOf (config : ProcessorConfig) (ledger : BlockLedger) (e : NodeEvent) :
    (outcomeOf config ledger e).value.result =
      (nodeRecords config e (readNode e.node).value ++
          (if config.usePodBlocks then blockDeletes ledger e ++ blockAssignments e else []),
        (readNode e.node).value.failures ++
          (if config.usePodBlocks then blockFailures e else [])) := by
  cases pods : config.usePodBlocks with
  | false =>
    simp [Outcome.result, records_outcomeOf_of_no_pods pods, failures_outcomeOf_of_no_pods pods]
  | true => simp [Outcome.result, records_outcomeOf_of_pods pods, failures_outcomeOf_of_pods pods]

theorem result_outcomeOf_congr (same : first.lookup e.name = second.lookup e.name) :
    (outcomeOf config first e).value.result = (outcomeOf config second e).value.result := by
  have deletes : blockDeletes first e = blockDeletes second e := by
    simp only [blockDeletes, BlockLedger.removals, same]
  rw [result_outcomeOf, result_outcomeOf, deletes]

theorem lookup_outcomeOf_congr (same : first.lookup e.name = second.lookup e.name) :
    (outcomeOf config first e).value.ledger.lookup e.name =
      (outcomeOf config second e).value.ledger.lookup e.name := by
  cases pods : config.usePodBlocks with
  | false => rw [ledger_outcomeOf_of_no_pods pods, ledger_outcomeOf_of_no_pods pods, same]
  | true => rw [lookup_outcomeOf_self pods, lookup_outcomeOf_self pods]

theorem lookup_outcomeOf_of_other (config : ProcessorConfig) (ledger : BlockLedger)
    {name : String} (h : e.name ≠ name) :
    (outcomeOf config ledger e).value.ledger.lookup name = ledger.lookup name := by
  cases pods : config.usePodBlocks with
  | false => rw [ledger_outcomeOf_of_no_pods pods]
  | true => exact lookup_outcomeOf_of_ne pods ledger h

end Outcome

section Step

variable (config : ProcessorConfig) {first second : BlockLedger} {event : Record} {name : String}

/-- Ledgers that agree on a node give the same for its events, and agree on it afterwards. -/
theorem answer_of_concerns (about : event.concerns name = true)
    (same : first.lookup name = second.lookup name) :
    (answer config first event).map Outcome.result =
        (answer config second event).map Outcome.result ∧
      (settle first (answer config first event)).lookup name =
        (settle second (answer config second event)).lookup name := by
  rcases refused_or_toRecord config event with ⟨fault, refused⟩ | ⟨e, rfl⟩
  · rw [refused first, refused second]
    exact ⟨rfl, same⟩
  · rw [NodeEvent.concerns_toRecord] at about
    subst about
    rw [answer_toRecord, answer_toRecord]
    exact ⟨congrArg Except.ok (result_outcomeOf_congr same), lookup_outcomeOf_congr same⟩

theorem lookup_settle_of_not_concerns (about : event.concerns name ≠ true) (ledger : BlockLedger) :
    (settle ledger (answer config ledger event)).lookup name = ledger.lookup name := by
  rcases refused_or_toRecord config event with ⟨fault, refused⟩ | ⟨e, rfl⟩
  · rw [refused ledger]
    rfl
  · rw [ne_eq, NodeEvent.concerns_toRecord] at about
    rw [answer_toRecord]
    exact lookup_outcomeOf_of_other config ledger about

end Step

/-! ### Runs of events -/

theorem results_filter (config : ProcessorConfig) (events : List Record) {name : String}
    {first second : BlockLedger} (same : first.lookup name = second.lookup name) :
    (results config first events).filter (fun entry => entry.1.concerns name) =
        results config second (events.filter (·.concerns name)) ∧
      (ledgerAfter config first events).lookup name =
        (ledgerAfter config second (events.filter (·.concerns name))).lookup name := by
  induction events generalizing first second with
  | nil => exact ⟨rfl, same⟩
  | cons event rest ih =>
    by_cases about : event.concerns name = true
    · -- Both runs take the event, with the same result.
      obtain ⟨result, still⟩ := answer_of_concerns config about same
      obtain ⟨others, known⟩ := ih still
      simp only [results_cons, List.filter_cons, about, if_true, result, others, true_and]
      exact known
    · -- Only the first run takes it, and keeps what its ledger knows of the node.
      have still := (lookup_settle_of_not_concerns config about first).trans same
      simp only [results_cons, List.filter_cons, about]
      exact ih still

/-! ### Main result -/

/-- **Nodes do not disturb each other.** Let a processor work on any events, accepted or refused,
with any ledger. The results for the events of a name, and what the ledger knows of the name in the
end, are those of the run on these events alone. So two sequences that hold the same events of every
name, in the same order for each, give the same results for every name and the same look-ups. -/
theorem results_interleaved (config : ProcessorConfig) (ledger : BlockLedger) :
    (∀ events name,
      (results config ledger events).filter (fun entry => entry.1.concerns name) =
          results config ledger (events.filter (·.concerns name)) ∧
        (ledgerAfter config ledger events).lookup name =
          (ledgerAfter config ledger (events.filter (·.concerns name))).lookup name) ∧
    ∀ first second : List Record,
      (∀ name, first.filter (·.concerns name) = second.filter (·.concerns name)) →
      ∀ name,
        (results config ledger first).filter (fun entry => entry.1.concerns name) =
            (results config ledger second).filter (fun entry => entry.1.concerns name) ∧
          (ledgerAfter config ledger first).lookup name =
            (ledgerAfter config ledger second).lookup name := by
  have alone (events : List Record) (name : String) :=
    @results_filter config events name ledger ledger rfl
  refine ⟨alone, fun first second same name => ?_⟩
  obtain ⟨results₁, lookup₁⟩ := alone first name
  obtain ⟨results₂, lookup₂⟩ := alone second name
  rw [results₁, lookup₁, same name]
  exact ⟨results₂.symm, lookup₂.symm⟩

/-- Two nodes in two orders, with an event in between that is refused. The ledgers list the nodes in
different orders. -/
theorem results_interleaved_of_two_nodes :
    let a := NodeEvent.toRecord ⟨"a", some { name := "a", podBlocks := ["10.0.0.0/24"] }, "1"⟩
    let refused : Record := ⟨.resource "a" nodeKind, some (.other "int" "7"), "2"⟩
    let b := NodeEvent.toRecord ⟨"b", some { name := "b", podBlocks := ["10.0.1.0/24"] }, "3"⟩
    (∀ name, [a, refused, b].filter (·.concerns name) = [b, a, refused].filter (·.concerns name)) ∧
      (∀ name,
        (results {} .empty [a, refused, b]).filter (fun entry => entry.1.concerns name) =
            (results {} .empty [b, a, refused]).filter (fun entry => entry.1.concerns name) ∧
          (ledgerAfter {} .empty [a, refused, b]).lookup name =
            (ledgerAfter {} .empty [b, a, refused]).lookup name) ∧
      (ledgerAfter {} .empty [a, refused, b]).nodes = ["a", "b"] ∧
      (ledgerAfter {} .empty [b, a, refused]).nodes = ["b", "a"] := by
  intro a refused b
  have same (name : String) :
      [a, refused, b].filter (·.concerns name) = [b, a, refused].filter (·.concerns name) := by
    have aboutA : a.concerns name = decide ("a" = name) := rfl
    have aboutRefused : refused.concerns name = decide ("a" = name) := rfl
    have aboutB : b.concerns name = decide ("b" = name) := rfl
    simp only [List.filter_cons, List.filter_nil, aboutA, aboutRefused, aboutB]
    -- No name is that of both nodes.
    by_cases first : "a" = name
    · have other : "b" ≠ name := by
        rw [← first]
        decide
      simp [first, other]
    · simp [first]
  exact ⟨same, (results_interleaved {} .empty).2 _ _ same, by decide +kernel, by decide +kernel⟩

end Processor

end NodeDataplane
