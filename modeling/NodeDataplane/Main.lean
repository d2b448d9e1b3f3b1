import NodeDataplane.Agent

/-!
# The program

The outer layer of the agent: it finds out what there is at the paths that are watched, writes the
journal to the error stream, and lets every watcher look again when its time has come.
-/

namespace NodeDataplane.Program

def placeAt (path : Path) : IO Place := do
  if let some place := Place.ofImpossible? path then
    return place
  try
    let found ← IO.FS.realPath path.text
    let facts ← found.metadata
    match facts.type with
    | .dir => return .directory
    | _ =>
      let content ← IO.FS.readBinFile path.text
      let seconds := facts.modified.sec
      let modified := seconds * 1000000000 + facts.modified.nsec.toNat
      return .file ⟨content, toString modified⟩
  catch _ => return .absent

/-- What is found at some paths right now, and nothing anywhere else. -/
def placesAt (paths : List Path) : IO (Path → Place) := do
  let found ← paths.mapM fun path => return (path, ← placeAt path)
  return fun path => (found.lookup path).getD .absent

def write (threshold : Level) (log : List Entry) : IO Unit :=
  for entry in atLeast threshold log do
    IO.eprintln (entry.level.name ++ " | " ++ entry.source.name ++ " | " ++ entry.message)

/-- The milliseconds between two looks; a number that is no time is none. -/
def pause (interval : Float) : Nat := (interval * 1000.0).toUInt64.toNat

abbrev Schedule := List (Agent.Watch × Nat)

def lookDue (threshold : Level) (now : Nat) (plant : Plant) :
    Schedule → IO (Schedule × Plant)
  | [] => return ([], plant)
  | (watch, due) :: rest => do
    if due ≤ now then
      let place ← placeAt watch.watcher.path
      let looked := Agent.lookAgain watch place plant
      write threshold looked.log
      let (schedule, plant) ← lookDue threshold now looked.value.2 rest
      return ((looked.value.1, now + pause watch.interval) :: schedule, plant)
    else
      let (schedule, plant) ← lookDue threshold now plant rest
      return ((watch, due) :: schedule, plant)

/-- Look and wait until the program is stopped from outside. -/
partial def watch (threshold : Level) (plant : Plant) (schedule : Schedule) : IO Unit := do
  let now ← IO.monoMsNow
  let (schedule, plant) ← lookDue threshold now plant schedule
  IO.sleep 100
  watch threshold plant schedule

def runArguments (arguments : Arguments) : IO UInt32 := do
  let threshold := Agent.threshold arguments
  let places ← placesAt [arguments.config]
  match Agent.settings places arguments with
  | .error fault => fail fault
  | .ok config =>
    let places ← placesAt (config.watchers.map (·.path))
    let started := Agent.start places config
    write threshold started.log
    match started.value with
    | .error fault => fail fault
    | .ok running =>
      let now ← IO.monoMsNow
      watch threshold running.plant (running.watches.map fun w => (w, now + pause w.interval))
      return 0
where
  fail (fault : AgentFault) : IO UInt32 := do
    IO.eprintln fault.message
    return 1

end NodeDataplane.Program

def main (texts : List String) : IO UInt32 := do
  match NodeDataplane.Arguments.parse texts with
  | .help =>
    IO.print NodeDataplane.Arguments.helpText
    return 0
  | .refused fault =>
    IO.eprint (NodeDataplane.Arguments.complaint fault)
    return 2
  | .run arguments => NodeDataplane.Program.runArguments arguments
