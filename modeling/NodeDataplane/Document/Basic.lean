import NodeDataplane.Calendar
import NodeDataplane.Decimal.FloatText
import NodeDataplane.Journal
import NodeDataplane.Text.Quoted

/-!
# Documents

What a JSON or YAML text holds: scalars, lists, and maps that keep the order of their entries. A
map has at most one entry under a key; a later one takes the place and the first spelling of the
earlier. Numbers are the same key if they are equal, whatever their kind. A YAML text can also hold
bytes, pairs in a list and sets, whose members are keys without values.

A list or a map of a YAML text may hold itself. Such lists and maps are the parts of a knot, each
with a number; where one of them stands inside another there is a strand with its number. A part of
a knot is looked into by `opened`, and then the parts inside it are parts of the same knot.

## Limits

The members of a set are in the order of the text. A text is cut where a list or a map comes back to
itself, but not where a pair does; otherwise it is given at any depth. Half a pair of UTF-16 units
is no character, and a character of a private plane stands for it.
-/

namespace NodeDataplane

open NodeDataplane.Text (quoted quotedBytes)

inductive Document where
  | null
  | bool (value : Bool)
  | int (value : Int)
  | float (value : Float)
  | string (value : String)
  | bytes (content : List UInt8)
  | date (value : Date)
  | timestamp (value : Timestamp)
  | list (items : List Document)
  | pair (first second : Document)
  | set (members : List Document)
  | map (entries : List (Document × Document))
  /-- A part of a knot, told by its number. -/
  | knot (parts : List (Nat × Document)) (number : Nat)
  /-- Inside a knot, the part of it with a number. -/
  | strand (number : Nat)
  deriving Inhabited

inductive DocumentFault where
  | malformedJson
  | malformedYaml
  | undecodable
  /-- A decimal integer of more digits than are read. -/
  | integerTooLong (digits : Nat)
  /-- A text that is to be an integer in a base, and is none. -/
  | noInteger (base : Nat) (text : String)
  | noFloat (text : String)
  | noTruthValue (text : String)
  /-- A text that is to be a date, and is none. -/
  | noTime
  | noCharacters
  /-- A number in base 60 with so many places that the weight of one is beyond all doubles. -/
  | placeTooGreat
  | calendar (fault : CalendarFault)
  /-- An escape with a number that no character has. -/
  | noCharacter
  | noCharacterCode
  /-- There is no room for what is nested so deep, as is found out in doing something. -/
  | tooDeep (doing : String)
  deriving DecidableEq, Repr

namespace DocumentFault

def message : DocumentFault → String
  | malformedJson => ""
  | malformedYaml => ""
  | undecodable => ""
  | integerTooLong digits =>
    "Exceeds the limit (4300 digits) for integer string conversion: value has " ++
      toString digits ++ " digits; use sys.set_int_max_str_digits() to increase the limit"
  | noInteger base text =>
    "invalid literal for int() with base " ++ toString base ++ ": " ++ (quoted text).take 200
  | noFloat text => "could not convert string to float: " ++ quoted text
  | noTruthValue text => text
  | noTime => "'NoneType' object has no attribute 'groupdict'"
  | noCharacters => "string index out of range"
  | placeTooGreat => "int too large to convert to float"
  | calendar fault => fault.message
  | noCharacter => "chr() arg not in range(0x110000)"
  | noCharacterCode => "Python int too large to convert to C int"
  | tooDeep doing => "maximum recursion depth exceeded" ++ doing

/-- The wording of a fault in the journal, where malformed texts are told by their format alone. -/
def brief : DocumentFault → String
  | malformedJson => "<JSONDecodeError>"
  | malformedYaml => "<YAMLError>"
  | fault => fault.message

def failureClass : DocumentFault → FailureClass
  | malformedJson => .malformedJson
  | malformedYaml => .malformedYaml
  | undecodable => .undecodableText
  | integerTooLong _ => .invalidValue
  | noInteger _ _ => .invalidValue
  | noFloat _ => .invalidValue
  | noTruthValue _ => .unknownKey
  | noTime => .missingAttribute
  | noCharacters => .indexOutOfRange
  | placeTooGreat => .overflow
  | calendar _ => .invalidValue
  | noCharacter => .invalidValue
  | noCharacterCode => .overflow
  | tooDeep _ => .runtime

end DocumentFault

def integerOfDigits (digits : List Char) : Except DocumentFault Int :=
  if Text.maxDigits < digits.length then .error (.integerTooLong digits.length)
  else .ok (Text.natOfDigits digits)

namespace Document

/-! ### Knots -/

mutual

/-- A part of a knot on its own: in place of all that leads to other parts stand these. -/
def tied (parts : Nat → Document) : Document → Document
  | list items => list (tiedItems parts items)
  | pair first second => pair (tied parts first) (tied parts second)
  | map entries => map (tiedEntries parts entries)
  | knot _ number => parts number
  | strand number => parts number
  | d => d

def tiedItems (parts : Nat → Document) : List Document → List Document
  | [] => []
  | item :: rest => tied parts item :: tiedItems parts rest

def tiedEntries (parts : Nat → Document) : List (Document × Document) → List (Document × Document)
  | [] => []
  | (key, value) :: rest => (key, tied parts value) :: tiedEntries parts rest

end

/-- A document as it is looked into. Only parts of knots differ from themselves. -/
def opened : Document → Document
  | knot parts number => tied (knot parts) ((parts.lookup number).getD null)
  | d => d

/-- The entries of a map. -/
def entries? (d : Document) : Option (List (Document × Document)) :=
  match d.opened with
  | map entries => some entries
  | _ => none

/-- The items of a list. -/
def items? (d : Document) : Option (List Document) :=
  match d.opened with
  | list items => some items
  | _ => none

@[simp] theorem entries?_map (entries : List (Document × Document)) :
    (map entries).entries? = some entries := rfl

@[simp] theorem items?_list (items : List Document) : (list items).items? = some items := rfl

/-! ### Keys and entries -/

/-- A key as a number, if it is one: a significand and an exponent of two. -/
def number? : Document → Option (Int × Int)
  | bool value => some (if value then 1 else 0, 0)
  | int value => some (value, 0)
  | float value =>
    match FloatParts.ofFloat value with
    | .finite negative x =>
      some (if negative then -(x.significand : Int) else x.significand, x.exponent)
    | _ => none
  | _ => none

/-- Whether `m · 2 ^ p` and `n · 2 ^ q` are equal. -/
def sameNumber (x y : Int × Int) : Bool :=
  x.1 * Int.pow 2 (x.2 - y.2).toNat == y.1 * Int.pow 2 (y.2 - x.2).toNat

/-- Whether `m · 2 ^ p` is less than `n · 2 ^ q`. -/
def lessNumber (x y : Int × Int) : Bool :=
  x.1 * Int.pow 2 (x.2 - y.2).toNat < y.1 * Int.pow 2 (y.2 - x.2).toNat

def isInfinity (negative : Bool) : Document → Bool
  | float value => FloatParts.ofFloat value == .infinite negative
  | _ => false

/-- Whether a document is a number; truth values are one and zero. -/
def isNumber : Document → Bool
  | bool _ => true
  | int _ => true
  | float _ => true
  | _ => false

/-- Whether a number is less than another one, exactly and whatever their kinds. -/
def numberBefore (a b : Document) : Bool :=
  match a.number?, b.number? with
  | some x, some y => lessNumber x y
  | some _, none => b.isInfinity false
  | none, some _ => a.isInfinity true
  | none, none => a.isInfinity true && b.isInfinity false

/-- Whether two scalars are the same key. Nothing else is a key. -/
def sameKey (a b : Document) : Bool :=
  match a.number?, b.number? with
  | some x, some y => sameNumber x y
  | none, none =>
    match a, b with
    | null, null => true
    | float x, float y => FloatParts.ofFloat x == FloatParts.ofFloat y
    | string s, string t => s == t
    | bytes s, bytes t => s == t
    | date d, date e => d == e
    | timestamp s, timestamp t => s.same t
    | _, _ => false
  | _, _ => false

/-- Add an entry, or give a new value to the entry that has the key. -/
def putEntry (entries : List (Document × Document)) (key value : Document) :
    List (Document × Document) :=
  match entries with
  | [] => [(key, value)]
  | (k, v) :: rest =>
    if sameKey k key then (k, value) :: rest else (k, v) :: putEntry rest key value

/-- The entries of a map in which later ones replace earlier ones. -/
def ofEntries (entries : List (Document × Document)) : Document :=
  map (entries.foldl (fun done entry => putEntry done entry.1 entry.2) [])

def lookup? (key : String) : List (Document × Document) → Option Document
  | [] => none
  | (string k, v) :: rest => if k = key then some v else lookup? key rest
  | _ :: rest => lookup? key rest

/-! ### Meaning and text -/

/-- Null, false, zero and everything empty count as nothing. Knots are never empty. -/
def truthy : Document → Bool
  | null => false
  | bool value => value
  | int value => value != 0
  | float value => value != 0.0
  | string value => !value.isEmpty
  | bytes content => !content.isEmpty
  | date _ => true
  | timestamp _ => true
  | list items => !items.isEmpty
  | pair _ _ => true
  | set members => !members.isEmpty
  | map entries => !entries.isEmpty
  | knot _ _ => true
  | strand _ => true

def typeName (d : Document) : String :=
  match d.opened with
  | bool _ => "bool"
  | int _ => "int"
  | float _ => "float"
  | string _ => "str"
  | bytes _ => "bytes"
  | date _ => "datetime.date"
  | timestamp _ => "datetime.datetime"
  | list _ => "list"
  | pair _ _ => "tuple"
  | set _ => "set"
  | map _ => "dict"
  | _ => "NoneType"

/-- The name of the type without the name of the collection it belongs to. -/
def bareTypeName : Document → String
  | date _ => "date"
  | timestamp _ => "datetime"
  | d => d.typeName

/-- What stands for a list or a map inside of its own text. -/
def ellipsis : Document → String
  | map _ => "\x7b...\x7d"
  | _ => "[...]"

/-- The text of a part of a knot inside of some others. It comes back to none of those, so one step
for each part of the knot is enough. -/
def unrolled (texts : List (Nat × ((Nat → String) → String))) (ellipses : Nat → String) (fuel : Nat)
    (around : List Nat) (number : Nat) : String :=
  match fuel with
  | 0 => ellipses number
  | fuel + 1 =>
    if around.contains number then ellipses number
    else
      match texts.lookup number with
      | some text => text (unrolled texts ellipses fuel (number :: around))
      | none => "None"

mutual

/-- The text of a document in which strands lead to parts with known texts. -/
def shownWith : Document → (Nat → String) → String
  | null, _ => "None"
  | bool true, _ => "True"
  | bool false, _ => "False"
  | int value, _ => toString value
  | float value, _ => floatText value
  | string value, _ => quoted value
  | bytes content, _ => quotedBytes content
  | date value, _ => value.shown
  | timestamp value, _ => value.shown
  | list items, parts => "[" ++ ", ".intercalate (shownItems items parts) ++ "]"
  | pair first second, parts =>
    "(" ++ shownWith first parts ++ ", " ++ shownWith second parts ++ ")"
  | set members, parts =>
    if members.isEmpty then "set()"
    else "\x7b" ++ ", ".intercalate (shownItems members parts) ++ "\x7d"
  | map entries, parts => "\x7b" ++ ", ".intercalate (shownEntries entries parts) ++ "\x7d"
  | knot parts number, _ =>
    unrolled (partTexts parts) (fun n => ((parts.lookup n).getD null).ellipsis)
      (parts.length + 1) [] number
  | strand number, parts => parts number

def shownItems : List Document → (Nat → String) → List String
  | [], _ => []
  | item :: rest, parts => shownWith item parts :: shownItems rest parts

def shownEntries : List (Document × Document) → (Nat → String) → List String
  | [], _ => []
  | (key, value) :: rest, parts =>
    (shownWith key parts ++ ": " ++ shownWith value parts) :: shownEntries rest parts

def partTexts : List (Nat × Document) → List (Nat × ((Nat → String) → String))
  | [] => []
  | (number, part) :: rest => (number, shownWith part) :: partTexts rest

end

def shown (d : Document) : String := d.shownWith fun _ => "None"

/-- The text of a document: a text is its own, as are dates; all else is as it is shown. -/
def text : Document → String
  | string value => value
  | date value => value.text
  | timestamp value => value.text
  | d => d.shown

def string? : Document → Option String
  | string value => some value
  | _ => none

/-! ### Documents that have no text -/

mutual

/-- Whether something holds of a document and of everything in it. -/
def every (p : Document → Bool) : Document → Bool
  | list items => p (list items) && everyItem p items
  | pair first second => p (pair first second) && (every p first && every p second)
  | set members => p (set members) && everyItem p members
  | map entries => p (map entries) && everyEntry p entries
  | knot parts number => p (knot parts number) && everyPart p parts
  | d => p d

def everyItem (p : Document → Bool) : List Document → Bool
  | [] => true
  | item :: rest => every p item && everyItem p rest

def everyEntry (p : Document → Bool) : List (Document × Document) → Bool
  | [] => true
  | (key, value) :: rest => every p key && every p value && everyEntry p rest

def everyPart (p : Document → Bool) : List (Nat × Document) → Bool
  | [] => true
  | (_, part) :: rest => every p part && everyPart p rest

end

/-- Whether a document is no integer of more digits than are written. -/
def isShort : Document → Bool
  | int value => value.natAbs < Nat.pow 10 Text.maxDigits
  | _ => true

/-- Whether a document has a text, which it has unless an integer in it has too many digits. -/
def isWritable (d : Document) : Bool := d.every isShort

def unwritableMessage : String :=
  "Exceeds the limit (4300 digits) for integer string conversion; " ++
    "use sys.set_int_max_str_digits() to increase the limit"

end Document

end NodeDataplane
