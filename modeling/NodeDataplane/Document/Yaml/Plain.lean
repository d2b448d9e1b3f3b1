import NodeDataplane.Decimal.FloatReader
import NodeDataplane.Document.Yaml.Cursor
import NodeDataplane.Text.Fields

/-!
# What plain scalars mean

A plain scalar is a number, a truth value, a date, nothing at all, or a text, by its form alone.
Integers may be binary, octal, hexadecimal, decimal or in base 60, floats decimal or in base 60, and
underscores stand between digits for the eye only. A form that is given a meaning may still name
nothing, such as the 31st of April.
-/

namespace NodeDataplane.Yaml

open NodeDataplane.Text

/-- A word in lower case, with a capital, or in upper case. -/
def wordForms (word : String) : List String :=
  let lower := word.toList
  [lower, (lower.take 1).map Char.toUpper ++ lower.drop 1, lower.map Char.toUpper].map String.ofList

def truthWords : List (String × Bool) :=
  [("yes", true), ("no", false), ("true", true), ("false", false), ("on", true), ("off", false)]

def truthValue? (s : String) : Option Bool :=
  (truthWords.find? fun (word, _) => (wordForms word).contains s).map (·.2)

def isNull (s : String) : Bool := s == "" || s == "~" || (wordForms "null").contains s

/-! ### Numbers -/

/-- A digit, or an underscore for the eye. -/
def isSpacedDigit (c : Char) : Bool := c.isDigit || c == '_'

def unspaced (cs : List Char) : List Char := cs.filter (· != '_')

def splitSpaced? (cs : List Char) : Option (List Char × List Char) :=
  if (cs.head?.any Char.isDigit) then
    some (unspaced (cs.takeWhile isSpacedDigit), cs.dropWhile isSpacedDigit)
  else none

/-- A place of a number in base 60 behind the first: one digit, or two of which the first is less
than six. -/
def isPlace (cs : List Char) : Bool :=
  cs.all Char.isDigit && (cs.length == 1 || (cs.length == 2 && cs.head?.any (· < '6')))

/-- The exponent of a float, which must have a sign. -/
def floatExponent? : List Char → Option Int
  | [] => some 0
  | e :: sign :: digits =>
    if (e == 'e' || e == 'E') && (sign == '-' || sign == '+') && !digits.isEmpty &&
      digits.all Char.isDigit then
      some (if sign == '-' then -(natOfDigits digits : Int) else natOfDigits digits)
    else none
  | _ => none

/-- The value of places in base 60, the greatest first. A place that weighs more than all doubles
has no value, whatever digit stands there. -/
def sexagesimal (places : List Float) : Except DocumentFault Float := do
  let (sum, _) ← places.reverse.foldlM (fun (sum, weight) place =>
    match floatOfInt? weight with
    | some x => .ok (sum + place * x, weight * 60)
    | none => .error .placeTooGreat) ((0.0 : Float), (1 : Int))
  return sum

/-- A float in base 60: places between colons, the last one with a point. -/
def sexagesimalFloat? (whole : List Char) (rest : List Char) :
    Option (Except DocumentFault Float) := do
  let (places, fraction) ← cut? '.' rest
  let places := fields ':' places
  if places.all isPlace && fraction.all isSpacedDigit then
    let floats := (whole :: places.dropLast).map fun digits =>
      (Decimal.ofParts digits [] 0).toFloat false
    let last := (Decimal.ofParts (places.getLast?.getD []) (unspaced fraction) 0).toFloat false
    return sexagesimal (floats ++ [last])
  else none

/-- A float without its sign; one that starts with its point has none. -/
def unsignedFloat? (signed : Bool) (cs : List Char) : Option (Except DocumentFault Float) :=
  match splitSpaced? cs with
  | some (whole, '.' :: rest) => do
    let exponent ← floatExponent? (rest.dropWhile isSpacedDigit)
    let fraction := unspaced (rest.takeWhile isSpacedDigit)
    return .ok ((Decimal.ofParts whole fraction exponent).toFloat false)
  | some (whole, ':' :: rest) => sexagesimalFloat? whole rest
  | some _ => none
  | none =>
    match cs with
    | '.' :: rest =>
      if signed then none
      else do
        let (fraction, rest) ← splitSpaced? rest
        return .ok ((Decimal.ofParts [] fraction (← floatExponent? rest)).toFloat false)
    | _ => none

/-- The float that a scalar writes, if it has the form of one. -/
def float? (s : String) : Option (Except DocumentFault Float) :=
  let cs := s.toList
  let signed := cs.head? = some '-' ∨ cs.head? = some '+'
  let (negative, rest) := splitSign cs
  if [".inf", ".Inf", ".INF"].contains (String.ofList rest) then some (.ok (infinity negative))
  else if [".nan", ".NaN", ".NAN"].contains s then some (.ok undefinedFloat)
  else (unsignedFloat? signed rest).map (·.map fun x => if negative then -x else x)

def natOfBase (base : Nat) (cs : List Char) : Nat :=
  cs.foldl (fun n c => base * n + (hexValue? c).getD 0) 0

/-- An integer in a base that is a power of two; there must be a digit. -/
def integerOfBase (base : Nat) (cs : List Char) : Except DocumentFault Int :=
  if cs.isEmpty then .error (.noInteger base "") else .ok (natOfBase base cs)

def sexagesimalInteger (places : List (List Char)) : Except DocumentFault Int := do
  let places ← places.mapM integerOfDigits
  return places.foldl (fun n place => 60 * n + place) 0

/-- An integer without its sign, if the scalar has the form of one. -/
def unsignedInteger? (cs : List Char) : Option (Except DocumentFault Int) :=
  match cs with
  | ['0'] => some (.ok 0)
  | '0' :: 'b' :: digits =>
    if !digits.isEmpty && digits.all (fun c => c == '0' || c == '1' || c == '_') then
      some (integerOfBase 2 (unspaced digits))
    else none
  | '0' :: 'x' :: digits =>
    if !digits.isEmpty && digits.all (fun c => (hexValue? c).isSome || c == '_') then
      some (integerOfBase 16 (unspaced digits))
    else none
  | '0' :: digits =>
    if digits.all (fun c => ('0' ≤ c && c ≤ '7') || c == '_') then
      some (.ok (natOfBase 8 (unspaced digits)))
    else none
  | cs =>
    match splitSpaced? cs with
    | some (digits, []) => some (integerOfDigits digits)
    | some (digits, ':' :: rest) =>
      if (fields ':' rest).all isPlace then some (sexagesimalInteger (digits :: fields ':' rest))
      else none
    | _ => none

/-- The integer that a scalar writes, if it has the form of one. -/
def integer? (s : String) : Option (Except DocumentFault Int) :=
  let (negative, rest) := splitSign s.toList
  (unsignedInteger? rest).map (·.map fun n => if negative then -n else n)

/-! ### Dates and times -/

/-- At least one and at most `most` digits as a number, their count, and the rest. -/
def readDigits? (least most : Nat) (cs : List Char) : Option (Nat × List Char) :=
  let digits := (cs.takeWhile Char.isDigit).take most
  if digits.length < least then none else some (natOfDigits digits, cs.drop digits.length)

def behind? (c : Char) : List Char → Option (List Char)
  | d :: rest => if c = d then some rest else none
  | [] => none

/-- Year, month and day; month and day have one digit at least `least`. -/
def readDay? (least : Nat) (cs : List Char) : Option ((Nat × Nat × Nat) × List Char) := do
  let (year, cs) ← readDigits? 4 4 cs
  let (month, cs) ← readDigits? least 2 (← behind? '-' cs)
  let (day, cs) ← readDigits? least 2 (← behind? '-' cs)
  return ((year, month, day), cs)

def isTimeSpace (c : Char) : Bool := c == ' ' || c == '\t'

/-- What stands between a date and a time: a letter, or blanks. -/
def behindDay? (cs : List Char) : Option (List Char) :=
  match cs with
  | c :: rest =>
    if c == 'T' || c == 't' then some rest
    else if isTimeSpace c then some (rest.dropWhile isTimeSpace)
    else none
  | [] => none

/-- Digits behind a point as microseconds; further digits do not count. -/
def microseconds (digits : List Char) : Nat :=
  natOfDigits ((digits ++ List.replicate 6 '0').take 6)

/-- The offset at the end of a time, in minutes; `none` inside if it is not told. -/
def readOffset? (cs : List Char) : Option (Option Int) :=
  match cs with
  | [] => some none
  | ['Z'] => some (some 0)
  | sign :: rest =>
    if sign == '+' || sign == '-' then do
      let (hours, rest) ← readDigits? 1 2 rest
      let minutes ←
        match rest with
        | [] => some 0
        | ':' :: rest => do
          let (minutes, rest) ← readDigits? 2 2 rest
          if rest.isEmpty then some minutes else none
        | _ => none
      let offset : Int := (hours * 60 + minutes : Nat)
      return some (if sign == '-' then -offset else offset)
    else none

/-- A date with a time, if the scalar has the form of one. -/
def timestamp? (cs : List Char) : Option (Except DocumentFault Document) := do
  let ((year, month, day), cs) ← readDay? 1 cs
  let cs ← behindDay? cs
  let (hour, cs) ← readDigits? 1 2 cs
  let (minute, cs) ← readDigits? 2 2 (← behind? ':' cs)
  let (second, cs) ← readDigits? 2 2 (← behind? ':' cs)
  let (micros, cs) :=
    match cs with
    | '.' :: rest =>
      (microseconds (rest.takeWhile Char.isDigit), rest.dropWhile Char.isDigit)
    | cs => (0, cs)
  let offset ← readOffset? (cs.dropWhile isTimeSpace)
  return match Timestamp.of year month day hour minute second micros offset with
    | .ok t => .ok (.timestamp t)
    | .error fault => .error (.calendar fault)

/-- A date, if the scalar has the form of one; month and day have one digit at least `least`. -/
def date? (least : Nat) (cs : List Char) : Option (Except DocumentFault Document) := do
  let ((year, month, day), cs) ← readDay? least cs
  if !cs.isEmpty then none
  else return match Date.of year month day with
    | .ok d => .ok (.date d)
    | .error fault => .error (.calendar fault)

/-! ### All plain scalars -/

/-- What a plain scalar means. The marks for a default value and for merging have no meaning. -/
def plainValue (s : String) : Except DocumentFault Document :=
  match truthValue? s with
  | some b => .ok (.bool b)
  | none =>
    match float? s with
    | some x => x.map .float
    | none =>
      match integer? s with
      | some i => i.map .int
      | none =>
        if isNull s then .ok .null
        else
          match date? 2 s.toList <|> timestamp? s.toList with
          | some d => d
          | none => if s = "=" || s = "<<" then malformed else .ok (.string s)

end NodeDataplane.Yaml
