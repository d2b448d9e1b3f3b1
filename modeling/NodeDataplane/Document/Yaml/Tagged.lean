import NodeDataplane.Base64
import NodeDataplane.Document.Yaml.Plain
import NodeDataplane.Document.Yaml.Tree

/-!
# What scalars mean

A plain scalar means what its form says, and a quoted one is a text. A scalar with a tag is read as
the type that the tag names, more freely than a plain one: blanks around numbers and digits of any
script are taken, and the words for truth values in any mixture of cases.
-/

namespace NodeDataplane.Yaml

open NodeDataplane.Text

/-! ### Integers in free text -/

/-- The letter that may stand behind a zero in front of the digits of a base. -/
def baseLetter? : Nat → Option Char
  | 2 => some 'b'
  | 8 => some 'o'
  | 16 => some 'x'
  | _ => none

/-- The digits of a base without the zero and the letter that may stand in front of them. -/
def behindBaseMark (base : Nat) (cs : List Char) : List Char :=
  match cs with
  | '0' :: c :: rest => if some c.toLower = baseLetter? base then rest else cs
  | cs => cs

def integerOfText (base : Nat) (cs : List Char) : Except DocumentFault Int :=
  let (negative, rest) := splitSign (asciiDigits (dropAroundWhile isBlankAround cs))
  let digits := behindBaseMark base rest
  if digits.isEmpty || !digits.all (fun c => (hexValue? c).any (· < base)) then
    .error (.noInteger base (String.ofList cs))
  else if base = 10 then (integerOfDigits digits).map fun n => if negative then -n else n
  else
    let n : Int := natOfBase base digits
    .ok (if negative then -n else n)

/-! ### Numbers with a tag -/

/-- A text without underscores, cut behind the sign it may start with; it must not be empty. -/
def signedText (cs : List Char) : Except DocumentFault (Bool × List Char) :=
  let cs := unspaced cs
  if cs.isEmpty then .error .noCharacters else .ok (splitSign cs)

/-- The integer that a text is read as without its sign: the base is told by how it starts, and a
colon tells of base 60. -/
def unsignedInteger (cs : List Char) : Except DocumentFault Int :=
  match cs with
  | [] => .error .noCharacters
  | ['0'] => .ok 0
  | '0' :: 'b' :: digits => integerOfText 2 digits
  | '0' :: 'x' :: digits => integerOfText 16 digits
  | '0' :: _ => integerOfText 8 cs
  | cs => do
    let places ← (fields ':' cs).mapM (integerOfText 10)
    return places.foldl (fun n place => 60 * n + place) 0

def taggedInteger (s : String) : Except DocumentFault Int := do
  let (negative, rest) ← signedText s.toList
  let n ← unsignedInteger rest
  return if negative then -n else n

def floatOf (cs : List Char) : Except DocumentFault Float :=
  let s := String.ofList cs
  match floatOfText? s with
  | some x => .ok x
  | none => .error (.noFloat s)

def taggedFloat (s : String) : Except DocumentFault Float := do
  let (negative, rest) ← signedText (s.toList.map Char.toLower)
  if rest = ".inf".toList then return infinity negative
  else if rest = ".nan".toList then return undefinedFloat
  else
    let places ← (fields ':' rest).mapM floatOf
    let x ← match places with
      | [x] => pure x
      | places => sexagesimal places
    return if negative then -x else x

/-! ### All scalars -/

def taggedTruth (s : String) : Except DocumentFault Bool :=
  let word := String.ofList (s.toList.map Char.toLower)
  match truthWords.lookup word with
  | some b => .ok b
  | none => .error (.noTruthValue word)

/-- The date, with a time or without, that a text is read as. -/
def taggedTime (s : String) : Except DocumentFault Document :=
  (date? 1 s.toList <|> timestamp? s.toList).getD (.error .noTime)

/-- The bytes that a text writes; it must be one of ASCII. -/
def taggedBytes (s : String) : Except DocumentFault (List UInt8) :=
  match if s.toList.all (·.toNat < 0x80) then Base64.decodeLoose? s.toList else none with
  | some content => .ok content
  | none => malformed

def taggedValue (tag : String) (s : String) : Except DocumentFault Document :=
  if tag = coreTag "str" then .ok (.string s)
  else if tag = coreTag "null" then .ok .null
  else if tag = coreTag "bool" then (taggedTruth s).map .bool
  else if tag = coreTag "int" then (taggedInteger s).map .int
  else if tag = coreTag "float" then (taggedFloat s).map .float
  else if tag = coreTag "timestamp" then taggedTime s
  else if tag = coreTag "binary" then (taggedBytes s).map .bytes
  else malformed

def scalarValue (form : ScalarForm) (s : String) : Except DocumentFault Document :=
  match form with
  | .plain => plainValue s
  | .quoted => .ok (.string s)
  | .tagged tag => taggedValue tag s

def isDefaultMark (form : ScalarForm) (s : String) : Bool :=
  match form with
  | .plain => s == "="
  | .quoted => false
  | .tagged tag => tag == coreTag "value"

/-- What a scalar means as a key: there, the mark for a default value is a text. -/
def scalarKey (form : ScalarForm) (s : String) : Except DocumentFault Document :=
  if isDefaultMark form s then .ok (.string s) else scalarValue form s

end NodeDataplane.Yaml
