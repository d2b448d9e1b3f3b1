import NodeDataplane.Arguments
import NodeDataplane.Document.Yaml
import NodeDataplane.Settings
import NodeDataplane.Watcher

/-!
# The agent

The agent reads its settings, sets up one processor for nodes and notes every record that it gives.
Every watcher looks once when it is set up; all of them work on one processor, so on one ledger. A
watcher that fails to look is noted and kept; one of a type that is not known ends the agent.
-/

namespace NodeDataplane

inductive AgentFault where
  | settings (fault : SettingsFault)
  | unsupportedWatcher (kind : String)
  deriving DecidableEq, Repr

namespace AgentFault

def message : AgentFault → String
  | settings fault => fault.message
  | unsupportedWatcher kind => "unsupported watcher type '" ++ kind ++ "'"

def failureClass : AgentFault → FailureClass
  | settings fault => fault.failureClass
  | unsupportedWatcher _ => .invalidValue

end AgentFault

inductive AgentEnd where
  | stopped
  /-- The command line asked for nothing but a text. -/
  | answered (code : Nat) (output complaint : String)
  | failed (fault : AgentFault)
  deriving DecidableEq, Repr

namespace Agent

def recordEntry (r : Record) : Entry :=
  let revision := " (revision " ++ r.revision ++ ")"
  let message :=
    match r.value with
    | none => "delete " ++ r.key.plain ++ revision
    | some value => "set " ++ r.key.plain ++ " = " ++ value.plain ++ revision
  ⟨.info, .agent, message, none⟩

/-- Handle an event by a registry and note the records that its sink is handed. -/
def publish (registry : Registry) (plant : Plant) (event : Record) :
    Logged (Plant × Option RegistryFault) := do
  let (outlet, fault) ← registry.publish ⟨plant, []⟩ event
  ⟨(outlet.plant, fault), outlet.deliveries.flatten.map recordEntry⟩

def registry : Registry := ⟨Table.empty.put nodeKind 0, [Sink.recording]⟩

def plant (config : ProcessorConfig) : Plant := Plant.empty.addNodeWorker config none

structure Watch where
  watcher : Watcher
  interval : Float

structure Running where
  plant : Plant
  watches : List Watch

def firstComplaint (path : Path) : Source × String :=
  (.agent, "initial poll failed for watcher " ++ path.text)

variable [Loader]

def setUpOne (places : Path → Place) (running : Running) (w : WatcherConfig) : Logged Running := do
  let (watcher, plant) ← (Watcher.new w.path).pollNoting (publish registry)
    (firstComplaint w.path) (places w.path) running.plant
  return ⟨plant, running.watches ++ [⟨watcher, w.interval⟩]⟩

/-- Set up watchers in turn, up to one of a type that is not known. -/
def setUp (places : Path → Place) :
    List WatcherConfig → Running → Logged (Except AgentFault Running)
  | [], running => pure (.ok running)
  | w :: rest, running =>
    -- The watchers in front of an unknown one have looked by then.
    if w.kind = "file" then do
      let running ← setUpOne places running w
      setUp places rest running
    else pure (.error (.unsupportedWatcher w.kind))

def start (places : Path → Place) (config : AgentConfig) :
    Logged (Except AgentFault Running) := do
  -- The processor is told of the start before any watcher looks.
  let plant ← registry.start (plant config.processor)
  let started ← setUp places config.watchers ⟨plant, []⟩
  match started with
  | .error fault => return .error fault
  | .ok running =>
    if running.watches.isEmpty then
      .note .warning .agent "no watchers configured; agent will idle"
    return .ok running

def lookAgain (w : Watch) (place : Place) (plant : Plant) : Logged (Watch × Plant) := do
  let (watcher, plant) ← w.watcher.pollNoting (publish registry) Watcher.ownComplaint place plant
  return ({ w with watcher }, plant)

def stop : Logged AgentEnd := do
  .note .info .agent "node agent stopped"
  return .stopped

def settings (places : Path → Place) (arguments : Arguments) : Except AgentFault AgentConfig :=
  match AgentConfig.load (places arguments.config) arguments.config with
  | .error fault => .error (.settings fault)
  | .ok config => .ok config

/-- Run with arguments until it is stopped, which it is after the first looks. -/
def runArguments (places : Path → Place) (arguments : Arguments) : Logged AgentEnd :=
  match settings places arguments with
  | .error fault => pure (.failed fault)
  | .ok config => do
    match ← start places config with
    | .error fault => return .failed fault
    | .ok _ => stop

def threshold (arguments : Arguments) : Level := if arguments.verbose then .debug else .info

/-- Run with a command line: how the agent ends, and the entries it writes. -/
def run (places : Path → Place) (texts : List String) : AgentEnd × List Entry :=
  match Arguments.parse texts with
  | .help => (.answered 0 Arguments.helpText "", [])
  | .refused fault => (.answered 2 "" (Arguments.complaint fault), [])
  | .run arguments =>
    let ended := runArguments places arguments
    (ended.value, atLeast (threshold arguments) ended.log)

end Agent

end NodeDataplane
