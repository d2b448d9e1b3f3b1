import NodeDataplane.Ini
import NodeDataplane.Journal
import NodeDataplane.Processor

/-!
# Switches as options of a service

A service that has its own options sets up the processor by a group of them, which may be assigned
in an INI file and overridden one by one. The group is there only once it is registered. Overrides
are checked when they are made, values of the file when they are read.
-/

namespace NodeDataplane

open NodeDataplane.Text (quoted)

inductive SwitchOption where
  | usePodBlocks
  | pruneOnDelete
  | emitIPv6
  deriving DecidableEq, Repr

namespace SwitchOption

def groupName : String := "node_syncer"

def name : SwitchOption → String
  | usePodBlocks => "use_pod_cidr"
  | pruneOnDelete => "prune_cidrs_on_delete"
  | emitIPv6 => "emit_ipv6_address"

def all : List SwitchOption := [usePodBlocks, pruneOnDelete, emitIPv6]

def ofName? (s : String) : Option SwitchOption := all.find? (·.name == s)

def defaultValue : SwitchOption → Bool
  | usePodBlocks => true
  | pruneOnDelete => false
  | emitIPv6 => false

end SwitchOption

inductive OptionFault where
  | unknownGroup
  | unregisteredGroup
  | unknownOption (name : String)
  | unexpectedValue (text : String)
  | badFileValue
  deriving DecidableEq, Repr

namespace OptionFault

/-- The wording of a fault; that of a value in a file is left to the reader of the file. -/
def message : OptionFault → String
  | unknownGroup => "no such group [" ++ SwitchOption.groupName ++ "]"
  | unregisteredGroup => "no such option " ++ SwitchOption.groupName ++ " in group [DEFAULT]"
  | unknownOption name =>
    "no such option " ++ name ++ " in group [" ++ SwitchOption.groupName ++ "]"
  | unexpectedValue text => "Unexpected boolean value " ++ quoted text
  | badFileValue => ""

def failureClass : OptionFault → FailureClass
  | unknownGroup => .unknownGroup
  | unregisteredGroup => .unknownOption
  | unknownOption _ => .unknownOption
  | unexpectedValue _ => .invalidValue
  | badFileValue => .badOptionValue

end OptionFault

inductive OverrideValue where
  | flag (value : Bool)
  | text (text : String)
  deriving DecidableEq, Repr

namespace SwitchOption

def flagOfWord? (s : String) : Option Bool :=
  let word := String.ofList (s.toList.map Char.toLower)
  if ["true", "1", "on", "yes"].contains word then some true
  else if ["false", "0", "off", "no"].contains word then some false
  else none

def flagOf : OverrideValue → Except OptionFault Bool
  | .flag value => .ok value
  | .text s =>
    match flagOfWord? s with
    | some value => .ok value
    | none => .error (.unexpectedValue s)

def checkOverride (entry : String × OverrideValue) :
    Except OptionFault (SwitchOption × Bool) :=
  match ofName? entry.1 with
  | none => .error (.unknownOption entry.1)
  | some option => (flagOf entry.2).map fun value => (option, value)

/-- The value of an option: the last override, else what the file assigns, else the default. -/
def read (overrides : List (SwitchOption × Bool)) (assignments : List Ini.Assignment)
    (option : SwitchOption) : Except OptionFault Bool :=
  match overrides.reverse.lookup option, Ini.lookup? groupName option.name assignments with
  | some value, _ => .ok value
  | none, some text =>
    match flagOfWord? text with
    | some value => .ok value
    | none => .error .badFileValue
  | none, none => .ok option.defaultValue

end SwitchOption

def ProcessorConfig.ofOptions (registered : Bool) (file : Option String)
    (overrides : List (String × OverrideValue)) : Except OptionFault ProcessorConfig := do
  if !registered then
    throw (if overrides.isEmpty then .unregisteredGroup else .unknownGroup)
  else
    let overrides ← overrides.mapM SwitchOption.checkOverride
    let assignments := file.elim [] Ini.parse
    let read := SwitchOption.read overrides assignments
    return ⟨← read .usePodBlocks, ← read .pruneOnDelete, ← read .emitIPv6⟩

end NodeDataplane
