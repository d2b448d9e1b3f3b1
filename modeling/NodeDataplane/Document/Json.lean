import NodeDataplane.Decimal.FloatReader
import NodeDataplane.Document.Loader

/-!
# JSON texts

`Json.parse` reads a whole text as one document. Beside the numbers of the format it takes the
words `NaN`, `Infinity` and `-Infinity`; integers are exact, and a number with a fraction or an
exponent is the nearest double. The readers of values are given the number of brackets that may
still be opened, and fail at one more.

Every reader returns the rest of the text behind what it has read. A text of `n` characters needs
no more than `2 * n + 2` nested steps, because of two steps one takes at least a character.
-/

namespace NodeDataplane.Json

open NodeDataplane.Text

def isSpace (c : Char) : Bool := c == ' ' || c == '\t' || c == '\n' || c == '\r'

def skipSpace (cs : List Char) : List Char := cs.dropWhile isSpace

/-! ### Strings -/

def escaped? : Char → Option Char
  | '"' => some '"'
  | '\\' => some '\\'
  | '/' => some '/'
  | 'b' => some '\x08'
  | 'f' => some '\x0c'
  | 'n' => some '\n'
  | 'r' => some '\r'
  | 't' => some '\t'
  | _ => none

def readUnit? : List Char → Option (Nat × List Char)
  | a :: b :: c :: d :: rest => (natOfHex? [a, b, c, d]).map (·, rest)
  | _ => none

/-- The first half of a pair of units that write one character. -/
def isHighUnit (n : Nat) : Bool := 0xd800 ≤ n && n < 0xdc00

def isLowUnit (n : Nat) : Bool := 0xdc00 ≤ n && n < 0xe000

/-- The character of a unit. Half a pair on its own is no character; a private one stands for it. -/
def charOfUnit (n : Nat) : Char :=
  if isHighUnit n || isLowUnit n then Char.ofNat (0x100000 + n) else Char.ofNat n

/-- The character that a numeric escape writes, and the rest behind it. -/
def readEscapedUnit? (cs : List Char) : Option (Char × List Char) := do
  let (high, rest) ← readUnit? cs
  match rest with
  | '\\' :: 'u' :: more =>
    if isHighUnit high then
      let (low, rest') ← readUnit? more
      if isLowUnit low then
        return (Char.ofNat (0x10000 + (high - 0xd800) * 0x400 + (low - 0xdc00)), rest')
      else return (charOfUnit high, rest)
    else return (charOfUnit high, rest)
  | _ => return (charOfUnit high, rest)

def readString (fuel : Nat) (cs : List Char) : Except DocumentFault (List Char × List Char) :=
  match fuel with
  | 0 => .error .malformedJson
  | fuel + 1 =>
    match cs with
    | [] => .error .malformedJson
    | '"' :: rest => .ok ([], rest)
    | '\\' :: 'u' :: rest =>
      match readEscapedUnit? rest with
      | none => .error .malformedJson
      | some (c, rest) => (readString fuel rest).map fun (cs, rest) => (c :: cs, rest)
    | '\\' :: name :: rest =>
      match escaped? name with
      | none => .error .malformedJson
      | some c => (readString fuel rest).map fun (cs, rest) => (c :: cs, rest)
    | c :: rest =>
      if c.toNat < 0x20 || c == '\\' then .error .malformedJson
      else (readString fuel rest).map fun (cs, rest) => (c :: cs, rest)

def readText (cs : List Char) : Except DocumentFault (String × List Char) :=
  (readString (cs.length + 1) cs).map fun (chars, rest) => (String.ofList chars, rest)

/-! ### Numbers -/

/-- Split the digits off a text; `none` if it does not start with one. -/
def splitDigits? (cs : List Char) : Option (List Char × List Char) :=
  let digits := cs.takeWhile Char.isDigit
  if digits.isEmpty then none else some (digits, cs.dropWhile Char.isDigit)

/-- The digits before the point: a zero stands alone. -/
def readWhole? : List Char → Option (List Char × List Char)
  | '0' :: rest => some (['0'], rest)
  | cs => splitDigits? cs

/-- The digits behind a point, if there is one with digits behind it. -/
def readFraction (cs : List Char) : Option (List Char) × List Char :=
  match cs with
  | '.' :: rest =>
    match splitDigits? rest with
    | some (digits, rest) => (some digits, rest)
    | none => (none, cs)
  | _ => (none, cs)

def readExponent (cs : List Char) : Option Int × List Char :=
  match cs with
  | c :: rest =>
    if c == 'e' || c == 'E' then
      let (negative, rest) := splitSign rest
      match splitDigits? rest with
      | some (digits, rest) =>
        let n : Int := natOfDigits digits
        (some (if negative then -n else n), rest)
      | none => (none, cs)
    else (none, cs)
  | [] => (none, cs)

def readNumber (negative : Bool) (cs : List Char) : Except DocumentFault (Document × List Char) :=
  match readWhole? cs with
  | none => .error .malformedJson
  | some (whole, rest) =>
    let (fraction, rest) := readFraction rest
    let (exponent, rest) := readExponent rest
    if fraction.isNone && exponent.isNone then
      (integerOfDigits whole).map fun n => (.int (if negative then -n else n), rest)
    else
      let decimal := Decimal.ofParts whole (fraction.getD []) (exponent.getD 0)
      .ok (.float (decimal.toFloat negative), rest)

/-! ### Values -/

def behind? (word : String) (cs : List Char) : Option (List Char) :=
  let chars := word.toList
  if cs.take chars.length == chars then some (cs.drop chars.length) else none

def words : List (String × Document) :=
  [("null", .null), ("true", .bool true), ("false", .bool false), ("NaN", .float undefinedFloat),
    ("Infinity", .float (infinity false)), ("-Infinity", .float (infinity true))]

def readScalar (cs : List Char) : Except DocumentFault (Document × List Char) :=
  match words.findSome? fun (word, value) => (behind? word cs).map (value, ·) with
  | some result => .ok result
  | none =>
    match cs with
    | '-' :: rest => readNumber true rest
    | _ => readNumber false cs

/-- What opening a bracket comes to if there is no room for what is inside. -/
def noRoom {α : Type} (collection : String) : Except DocumentFault α :=
  .error (.tooDeep (" while decoding a JSON " ++ collection ++ " from a unicode string"))

mutual

def readValue (fuel levels : Nat) (cs : List Char) :
    Except DocumentFault (Document × List Char) :=
  match fuel with
  | 0 => .error .malformedJson
  | fuel + 1 =>
    match cs with
    | '"' :: rest => (readText rest).map fun (s, rest) => (.string s, rest)
    | '[' :: rest =>
      if levels = 0 then noRoom "array"
      else
        match skipSpace rest with
        | ']' :: rest => .ok (.list [], rest)
        | rest => (readItems fuel (levels - 1) rest).map fun (items, rest) => (.list items, rest)
    | '\x7b' :: rest =>
      if levels = 0 then noRoom "object"
      else
        match skipSpace rest with
        | '\x7d' :: rest => .ok (.map [], rest)
        | rest =>
          (readEntries fuel (levels - 1) rest).map fun (entries, rest) =>
            (Document.ofEntries entries, rest)
    | cs => readScalar cs

/-- The members of a list up to its closing bracket; there is at least one. -/
def readItems (fuel levels : Nat) (cs : List Char) :
    Except DocumentFault (List Document × List Char) :=
  match fuel with
  | 0 => .error .malformedJson
  | fuel + 1 => do
    let (item, rest) ← readValue fuel levels cs
    match skipSpace rest with
    | ']' :: rest => return ([item], rest)
    | ',' :: rest =>
      let (items, rest) ← readItems fuel levels (skipSpace rest)
      return (item :: items, rest)
    | _ => throw .malformedJson

/-- The entries of a map up to its closing brace; there is at least one. -/
def readEntries (fuel levels : Nat) (cs : List Char) :
    Except DocumentFault (List (Document × Document) × List Char) :=
  match fuel with
  | 0 => .error .malformedJson
  | fuel + 1 =>
    match cs with
    | '"' :: rest => do
      let (key, rest) ← readText rest
      match skipSpace rest with
      | ':' :: rest =>
        let (value, rest) ← readValue fuel levels (skipSpace rest)
        match skipSpace rest with
        | '\x7d' :: rest => return ([(.string key, value)], rest)
        | ',' :: rest =>
          let (entries, rest) ← readEntries fuel levels (skipSpace rest)
          return ((.string key, value) :: entries, rest)
        | _ => throw .malformedJson
      | _ => throw .malformedJson
    | _ => .error .malformedJson

end

variable [Loader]

/-- Read a text as one document with nothing but blanks around it. -/
def parse (s : String) : Except DocumentFault Document := do
  let cs := skipSpace s.toList
  let (value, rest) ← readValue (2 * cs.length + 2) Loader.levels cs
  if (skipSpace rest).isEmpty then return value else throw .malformedJson

end NodeDataplane.Json
