import NodeDataplane.Base64
import NodeDataplane.Journal
import NodeDataplane.Net.Network
import NodeDataplane.Text.Blank
import NodeDataplane.Text.Quoted

/-!
# Fields

A node describes itself in texts; each is a field of one of five kinds. Reading a field is total:
the text is a value of its kind, it is absent, or it is invalid for a stated cause. Nothing else
comes out, so no field can keep another one from being read.
-/

namespace NodeDataplane

open NodeDataplane.Text

inductive FieldKind where
  /-- An address, or an interface of which the address is taken. -/
  | ip
  /-- An interface with or without a prefix, of which the address is taken. -/
  | cidrOrIp
  | cidr
  /-- A text that is not blank. -/
  | identifier
  | meshPublicKey
  deriving DecidableEq, Repr

namespace FieldKind

def name : FieldKind → String
  | ip => "ip"
  | cidrOrIp => "cidr-or-ip"
  | cidr => "cidr"
  | identifier => "identifier"
  | meshPublicKey => "mesh-public-key"

def all : List FieldKind := [ip, cidrOrIp, cidr, identifier, meshPublicKey]

def ofName? (s : String) : Option FieldKind := all.find? (·.name == s)

def unknownMessage (s : String) : String := quoted s ++ " is not a valid FieldKind"

abbrev Value : FieldKind → Type
  | ip => IPAddress
  | cidrOrIp => IPAddress
  | cidr => IPNetwork
  | identifier => String
  | meshPublicKey => String

def text : (kind : FieldKind) → kind.Value → String
  | ip, value => value.text
  | cidrOrIp, value => value.text
  | cidr, value => value.text
  | identifier, value => value
  | meshPublicKey, value => value

def version? : (kind : FieldKind) → kind.Value → Option IPVersion
  | ip, value => some value.version
  | cidrOrIp, value => some value.version
  | cidr, value => some value.version
  | identifier, _ => none
  | meshPublicKey, _ => none

end FieldKind

inductive FieldFault where
  | notAddress
  | notInterface
  | notNetwork
  | noPrefixLength
  | blankIdentifier
  | keyLength (count : Nat)
  | keyNotAscii
  | keyEncoding (fault : Base64.Fault)
  | keySize (count : Nat)
  deriving DecidableEq, Repr

def meshKeySize : Nat := 32

/-- The number of characters that write a public key of the mesh. -/
def meshKeyLength : Nat := 44

def FieldFault.message (raw : String) : FieldFault → String
  | notAddress => quoted raw ++ " does not appear to be an IPv4 or IPv6 address"
  | notInterface => quoted raw ++ " does not appear to be an IPv4 or IPv6 interface"
  | notNetwork => quoted raw ++ " does not appear to be an IPv4 or IPv6 network"
  | noPrefixLength => "missing prefix length"
  | blankIdentifier => "identifier is blank"
  | keyLength count =>
    "expected " ++ toString meshKeyLength ++ " base64 characters, got " ++ toString count
  | keyNotAscii => "string argument should contain only ASCII characters"
  | keyEncoding fault => "not valid base64: " ++ fault.message
  | keySize count =>
    "expected a " ++ toString meshKeySize ++ " byte key, got " ++ toString count

namespace FieldKind

/-- An address as it stands; behind a prefix, the address of the host. -/
def readIp (raw : String) : Except FieldFault IPAddress :=
  let cs := raw.toList
  if cs.contains '/' then
    match Interface.read? cs with
    | some interface => .ok interface.host
    | none => .error .notInterface
  else
    match IPAddress.read? cs with
    | some address => .ok address
    | none => .error .notAddress

def readCidrOrIp (raw : String) : Except FieldFault IPAddress :=
  match Interface.read? raw.toList with
  | some interface => .ok interface.host
  | none => .error .notInterface

/-- A network. The prefix may not be left out. -/
def readCidr (raw : String) : Except FieldFault IPNetwork :=
  let cs := raw.toList
  if cs.contains '/' then
    match IPNetwork.read? cs with
    | some network => .ok network
    | none => .error .notNetwork
  else .error .noPrefixLength

def readIdentifier (raw : String) : Except FieldFault String :=
  let value := trim raw
  if value.isEmpty then .error .blankIdentifier else .ok value

/-- A key in base64, kept as it is written. -/
def readMeshPublicKey (raw : String) : Except FieldFault String :=
  let cs := raw.toList
  if cs.length ≠ meshKeyLength then .error (.keyLength cs.length)
  -- Only after the length are the characters looked at.
  else if cs.any (fun c => 0x80 ≤ c.toNat) then .error .keyNotAscii
  else
    match Base64.decode cs with
    | .error fault => .error (.keyEncoding fault)
    | .ok bytes => if bytes.length ≠ meshKeySize then .error (.keySize bytes.length) else .ok raw

def read : (kind : FieldKind) → String → Except FieldFault kind.Value
  | ip => readIp
  | cidrOrIp => readCidrOrIp
  | cidr => readCidr
  | identifier => readIdentifier
  | meshPublicKey => readMeshPublicKey

end FieldKind

inductive FieldError where
  | unreadable (kind : FieldKind) (raw : String) (fault : FieldFault)
  /-- The value belongs to the other version of the protocol. -/
  | otherVersion (raw : String) (expected : IPVersion)
  deriving DecidableEq, Repr

def FieldError.message : FieldError → String
  | unreadable kind raw fault =>
    "failed to parse " ++ quoted raw ++ " as " ++ kind.name ++ ": " ++ fault.message raw
  | otherVersion raw expected =>
    quoted raw ++ " is not an IPv" ++ toString expected.number ++ " value"

inductive FieldResult (α : Type) where
  | parsed (value : α)
  | absent
  | invalid (error : FieldError)
  deriving DecidableEq, Repr

namespace FieldResult

variable {α : Type}

def value? : FieldResult α → Option α
  | parsed value => some value
  | _ => none

def error? : FieldResult α → Option FieldError
  | invalid error => some error
  | _ => none

def ok (result : FieldResult α) : Bool := result.value?.isSome

/-- Whether the field is invalid; an absent field is not. -/
def failed (result : FieldResult α) : Bool := result.error?.isSome

theorem value?_eq_some_iff {result : FieldResult α} {value : α} :
    result.value? = some value ↔ result = .parsed value := by
  cases result <;> simp [value?]

theorem ok_iff {result : FieldResult α} : result.ok = true ↔ ∃ value, result = .parsed value := by
  cases result <;> simp [ok, value?]

end FieldResult

namespace Field

def resultFor (kind : FieldKind) (version : Option IPVersion) (raw : String) :
    FieldResult kind.Value :=
  match kind.read raw with
  | .error fault => .invalid (.unreadable kind raw fault)
  | .ok value =>
    match version, kind.version? value with
    | some expected, some actual =>
      if actual = expected then .parsed value else .invalid (.otherVersion raw expected)
    -- Identifiers and keys have no version, so none can be wrong.
    | _, _ => .parsed value

/-- Read a field. An empty text is as good as none. -/
def parse (kind : FieldKind) (raw : Option String) (version : Option IPVersion) :
    FieldResult kind.Value :=
  match raw with
  | none => .absent
  | some raw => if raw.isEmpty then .absent else resultFor kind version raw

@[simp] theorem parse_none (kind : FieldKind) (version : Option IPVersion) :
    parse kind none version = .absent := rfl

theorem parse_of_ne_empty (kind : FieldKind) {raw : String} (version : Option IPVersion)
    (h : raw ≠ "") : parse kind (some raw) version = resultFor kind version raw := by
  simp [parse, h]

/-- Without a version, a field is valid if its text is a value of its kind. -/
theorem resultFor_none (kind : FieldKind) (raw : String) :
    resultFor kind none raw =
      match kind.read raw with
      | .error fault => .invalid (.unreadable kind raw fault)
      | .ok value => .parsed value := by
  unfold resultFor
  cases kind.read raw <;> rfl

theorem parse_eq_absent_iff {kind : FieldKind} {raw : String} {version : Option IPVersion} :
    parse kind (some raw) version = .absent ↔ raw = "" := by
  by_cases empty : raw = ""
  · subst empty
    exact iff_of_true rfl rfl
  · refine iff_of_false ?_ empty
    rw [parse_of_ne_empty kind version empty, resultFor]
    split
    · nofun
    · split
      · split <;> nofun
      · nofun

/-- A field that is given is invalid if it has no value. -/
theorem failed_parse_iff {kind : FieldKind} {raw : String} {version : Option IPVersion} :
    (parse kind (some raw) version).failed = true ↔
      raw ≠ "" ∧ (parse kind (some raw) version).value? = none := by
  have given : parse kind (some raw) version = .absent ↔ raw = "" := parse_eq_absent_iff
  generalize parse kind (some raw) version = result at given ⊢
  cases result with
  | parsed value => exact iff_of_false nofun nofun
  | absent => exact iff_of_false nofun fun some_text => some_text.1 (given.1 rfl)
  | invalid error => exact iff_of_true rfl ⟨mt given.2 nofun, rfl⟩

theorem value?_parse (kind : FieldKind) {raw : String} (written : raw ≠ "") :
    (parse kind (some raw) none).value? = (kind.read raw).toOption := by
  rw [parse_of_ne_empty kind none written, resultFor_none]
  cases kind.read raw <;> rfl

/-- The entry on an interface, which is noted before its address is looked at. -/
def interfaceLog (kind : FieldKind) (raw : String) : List Entry :=
  match kind, Interface.read? raw.toList with
  | .cidrOrIp, some interface =>
    [⟨.debug, .fields, "Parsed " ++ raw ++ " as ip=" ++ interface.host.text ++ " cidr=" ++
      interface.network.text, none⟩]
  | _, _ => []

/-- The entry on the result of a field that is called `label`. -/
def resultLog (kind : FieldKind) (label : String) : FieldResult kind.Value → List Entry
  | .absent => []
  | .parsed value => [⟨.debug, .fields, "Parsed " ++ label ++ ": " ++ kind.text value, none⟩]
  | .invalid (.unreadable _ raw fault) =>
    [⟨.warning, .fields, "Failed to parse " ++ label ++ " " ++ quoted raw ++ " as " ++ kind.name ++
      ": " ++ fault.message raw, none⟩]
  | .invalid (.otherVersion raw expected) =>
    [⟨.warning, .fields, "Ignoring " ++ label ++ " " ++ quoted raw ++ ": not an IPv" ++
      toString expected.number ++ " value", none⟩]

/-- Read a field that is called `label` and note what became of it. -/
def parseLogged (kind : FieldKind) (label : String) (raw : Option String)
    (version : Option IPVersion) : Logged (FieldResult kind.Value) :=
  -- Without a label, a field is called by its kind.
  let label := if label.isEmpty then kind.name else label
  let result := parse kind raw version
  ⟨result, (raw.elim [] (interfaceLog kind)) ++ resultLog kind label result⟩

@[simp] theorem value_parseLogged (kind : FieldKind) (label : String) (raw : Option String)
    (version : Option IPVersion) :
    (parseLogged kind label raw version).value = parse kind raw version := rfl

end Field

end NodeDataplane
