import NodeDataplane.Decimal.FloatReader
import NodeDataplane.Disk
import NodeDataplane.Document.Loader
import NodeDataplane.Processor

/-!
# The settings of the agent

The agent is set up by a YAML file with a section for the processor and a list of watchers. The
switches of the processor count by whether they say something or nothing, so that a text or a number
switches on as well. The entry of a watcher tells its type, the path it watches, the time between
two looks, and options that are passed on.

`AgentConfig.ofDocument` reports the first thing that is wrong.
-/

namespace NodeDataplane

open NodeDataplane.Text (quoted quotedBytes)

structure WatcherConfig where
  kind : String
  path : Path
  interval : Float
  options : Document

structure AgentConfig where
  processor : ProcessorConfig
  watchers : List WatcherConfig

inductive SettingsFault where
  | file (fault : FileFault)
  | document (fault : DocumentFault)
  | notMap
  | processorNotMap
  | unknownSwitches (names : List String)
  /-- Unknown switches, the first of which is no text. -/
  | switchNotText (typeName : String)
  | switchesUnordered (typeName other : String)
  /-- Unknown switches of which some are dates and some are times. -/
  | datesMixed
  /-- Unknown switches that are times, of which some tell an offset and some do not. -/
  | offsetsMixed
  | watchersNotList
  | entryNotCollection (typeName : String)
  /-- A watcher that is bytes, among which no text can be looked for. -/
  | entryBytes
  /-- A watcher that is a collection, but no map. -/
  | entryNotMap (typeName : String)
  | noWatcherType
  | optionsNotMap
  | unwritable
  | pathNotText (typeName : String)
  | pathBytes
  | intervalNotNumber (typeName : String)
  | intervalUnreadable (shown : String)
  | intervalTooGreat
  deriving DecidableEq, Repr

namespace SettingsFault

def message : SettingsFault → String
  | file fault => fault.message
  | document fault => fault.message
  | notMap => "Agent configuration must be a mapping"
  | processorNotMap => "'processor' section must be a mapping"
  | unknownSwitches names => "Unknown processor options: " ++ ", ".intercalate names
  | switchNotText typeName =>
    "sequence item 0: expected str instance, " ++ typeName ++ " found"
  | switchesUnordered typeName other =>
    "'<' not supported between instances of '" ++ typeName ++ "' and '" ++ other ++ "'"
  | datesMixed => "can't compare datetime.datetime to datetime.date"
  | offsetsMixed => "can't compare offset-naive and offset-aware datetimes"
  | watchersNotList => "'watchers' section must be a list"
  | entryNotCollection typeName => "argument of type '" ++ typeName ++ "' is not iterable"
  | entryBytes => "a bytes-like object is required, not 'str'"
  | entryNotMap typeName => "'" ++ typeName ++ "' object has no attribute 'get'"
  | noWatcherType => "watcher entry missing 'type'"
  | optionsNotMap => "watcher 'options' must be a mapping if provided"
  | unwritable => Document.unwritableMessage
  | pathNotText typeName => "expected str, bytes or os.PathLike object, not " ++ typeName
  | pathBytes =>
    "argument should be a str object or an os.PathLike object returning str, not <class 'bytes'>"
  | intervalNotNumber typeName =>
    "float() argument must be a string or a real number, not '" ++ typeName ++ "'"
  | intervalUnreadable shown => "could not convert string to float: " ++ shown
  | intervalTooGreat => "int too large to convert to float"

def failureClass : SettingsFault → FailureClass
  | file fault => fault.failureClass
  | document fault => fault.failureClass
  | switchNotText _ => .wrongType
  | switchesUnordered _ _ => .wrongType
  | datesMixed => .wrongType
  | offsetsMixed => .wrongType
  | entryNotCollection _ => .wrongType
  | entryBytes => .wrongType
  | entryNotMap _ => .missingAttribute
  | pathNotText _ => .wrongType
  | pathBytes => .wrongType
  | intervalNotNumber _ => .wrongType
  | intervalTooGreat => .overflow
  | _ => .invalidValue

end SettingsFault

/-! ### The processor -/

namespace ProcessorConfig

def switchNames : List String := ["use_pod_cidr", "prune_cidrs_on_delete", "emit_ipv6_address"]

def isSwitch : Document → Bool
  | .string name => switchNames.contains name
  | _ => false

/-- Whether a key comes before another one. Texts, bytes, numbers, dates and times are ordered each
among themselves, and of times those with an offset and those without. -/
def before (a b : Document) : Except SettingsFault Bool :=
  match a, b with
  | .string s, .string t => .ok (s < t)
  | .bytes s, .bytes t => .ok (s < t)
  | .date d, .date e => .ok (d.dayNumber < e.dayNumber)
  | .timestamp s, .timestamp t =>
    if s.offset.isSome == t.offset.isSome then .ok (s.instant < t.instant)
    else .error .offsetsMixed
  | .date _, .timestamp _ => .error .datesMixed
  | .timestamp _, .date _ => .error .datesMixed
  | a, b =>
    if a.isNumber && b.isNumber then .ok (a.numberBefore b)
    else .error (.switchesUnordered a.typeName b.typeName)

def leastKey (first : Document) (rest : List Document) : Except SettingsFault Document :=
  rest.foldlM (fun least key => do return if ← before key least then key else least) first

def unknownKeys (keys : List Document) : Option SettingsFault :=
  match keys with
  | [] => none
  | first :: rest =>
    -- All names are told if they are texts, else only the least key is looked at.
    match keys.mapM Document.string? with
    | some names => some (.unknownSwitches (names.mergeSort fun s t => !(t < s)))
    | none =>
      match leastKey first rest with
      | .error fault => some fault
      | .ok least => some (.switchNotText least.typeName)

/-- A switch in a section; it has its default if the section does not tell it. -/
def switchAt (entries : List (Document × Document)) (name : String) (default : Bool) : Bool :=
  match Document.lookup? name entries with
  | some value => value.truthy
  | none => default

def ofEntries (entries : List (Document × Document)) : Except SettingsFault ProcessorConfig :=
  match unknownKeys ((entries.map (·.1)).filter fun key => !isSwitch key) with
  | some fault => .error fault
  | none => .ok
    { usePodBlocks := switchAt entries "use_pod_cidr" true
      pruneOnDelete := switchAt entries "prune_cidrs_on_delete" false
      emitIPv6 := switchAt entries "emit_ipv6_address" false }

def ofSection (section? : Option Document) : Except SettingsFault ProcessorConfig :=
  match section? with
  | none => ofEntries []
  | some d =>
    -- A section that says nothing is as good as none, whatever its type.
    if !d.truthy then ofEntries []
    else
      match d.entries? with
      | some entries => ofEntries entries
      | none => .error .processorNotMap

end ProcessorConfig

/-! ### The watchers -/

namespace WatcherConfig

/-- The number that bytes write as a text of ASCII. -/
def floatOfBytes? (content : List UInt8) : Option Float :=
  if content.all (·.toNat < 0x80) then
    floatOfText? (String.ofList (content.map fun b => Char.ofNat b.toNat))
  else none

def secondsOf : Document → Except SettingsFault Float
  | .bool b => .ok (if b then 1.0 else 0.0)
  | .int i =>
    match floatOfInt? i with
    | some x => .ok x
    | none => .error .intervalTooGreat
  | .float x => .ok x
  | .string s =>
    match floatOfText? s with
    | some x => .ok x
    | none => .error (.intervalUnreadable (quoted s))
  | .bytes content =>
    match floatOfBytes? content with
    | some x => .ok x
    | none => .error (.intervalUnreadable (quotedBytes content))
  | d => .error (.intervalNotNumber d.typeName)

/-- The time between two looks, under either of its names; five seconds unless told. -/
def intervalAt (entries : List (Document × Document)) : Except SettingsFault Float :=
  match Document.lookup? "interval" entries, Document.lookup? "poll_interval" entries with
  | some d, _ => secondsOf d
  | none, some d => secondsOf d
  | none, none => .ok 5.0

/-- The path that is watched; where the program runs unless told. -/
def pathAt (entries : List (Document × Document)) : Except SettingsFault Path :=
  match Document.lookup? "path" entries with
  | none => .ok (Path.ofText ".")
  | some (.string s) => .ok (Path.ofText s)
  | some (.bytes _) => .error .pathBytes
  | some d => .error (.pathNotText d.bareTypeName)

def optionsAt (entries : List (Document × Document)) : Except SettingsFault Document :=
  match Document.lookup? "options" entries with
  | none => .ok (.map [])
  | some options => if options.entries?.isSome then .ok options else .error .optionsNotMap

def standsIn (part : List Char) : List Char → Bool
  | [] => part.isEmpty
  | c :: rest => part.isPrefixOf (c :: rest) || standsIn part rest

def isTypeKey : Document → Bool
  | .string s => s == "type"
  | _ => false

def ofEntries (entries : List (Document × Document)) : Except SettingsFault WatcherConfig :=
  match Document.lookup? "type" entries with
  | none => .error .noWatcherType
  | some kind => do
    -- The options are looked at before the path and the interval, so their fault is told first.
    let options ← optionsAt entries
    if !kind.isWritable then throw .unwritable
    let path ← pathAt entries
    let interval ← intervalAt entries
    return ⟨kind.text, path, interval, options⟩

/-- What is wrong with a watcher that is a collection but no map. If a type is found in it, it is
looked into as if it were a map. -/
def collectionFault (d : Document) (typed : Bool) : SettingsFault :=
  if typed then .entryNotMap d.typeName else .noWatcherType

/-- The watcher that a document tells. -/
def ofDocument (d : Document) : Except SettingsFault WatcherConfig :=
  match d.opened with
  | .map entries => ofEntries entries
  | .string s => .error (collectionFault d (standsIn "type".toList s.toList))
  | .bytes _ => .error .entryBytes
  | .list items => .error (collectionFault d (items.any isTypeKey))
  | .pair first second => .error (collectionFault d (isTypeKey first || isTypeKey second))
  | .set members => .error (collectionFault d (members.any isTypeKey))
  | _ => .error (.entryNotCollection d.typeName)

end WatcherConfig

/-! ### All settings -/

namespace AgentConfig

def watchersOf (section? : Option Document) : Except SettingsFault (List WatcherConfig) :=
  match section? with
  | none => .ok []
  | some d =>
    match d.items? with
    | some items => items.mapM WatcherConfig.ofDocument
    | none => .error .watchersNotList

/-- The settings that a document tells. An empty document leaves everything at its default. -/
def ofDocument (d : Document) : Except SettingsFault AgentConfig := do
  let entries ←
    match d.opened with
    | .null => .ok []
    | .map entries => .ok entries
    | _ => .error .notMap
  let processor ← ProcessorConfig.ofSection (Document.lookup? "processor" entries)
  let watchers ← watchersOf (Document.lookup? "watchers" entries)
  return ⟨processor, watchers⟩

variable [Loader]

def ofFile (f : StoredFile) : Except SettingsFault AgentConfig :=
  match f.text? with
  | none => .error (.document .undecodable)
  | some text =>
    match Loader.yaml text with
    | .error fault => .error (.document fault)
    | .ok d => ofDocument d

def load (place : Place) (path : Path) : Except SettingsFault AgentConfig :=
  match place.read path with
  | .error fault => .error (.file fault)
  | .ok f => ofFile f

end AgentConfig

end NodeDataplane
