import NodeDataplane.Decimal.Nearest
import NodeDataplane.Text.Blank
import NodeDataplane.Text.Digit

/-!
# Reading a double from free text

A number in free text may have blanks around it, a sign, digits of any script, single underscores
between digits, a point and an exponent; infinity and the undefined number are written as words in
any case.
-/

namespace NodeDataplane

open NodeDataplane.Text

/-- The number that a list of ASCII digits, cut in two by a point, and an exponent write. -/
def Decimal.ofParts (whole fraction : List Char) (exponent : Int) : Decimal :=
  ⟨natOfDigits (whole ++ fraction), exponent - fraction.length⟩

/-- Cut a sign off: whether it is a minus, and the rest. -/
def splitSign : List Char → Bool × List Char
  | '-' :: rest => (true, rest)
  | '+' :: rest => (false, rest)
  | rest => (false, rest)

/-- Blank before a number: the ASCII layout characters, and beyond ASCII every blank. -/
def isBlankAround (c : Char) : Bool :=
  c == ' ' || (0x09 ≤ c.toNat && c.toNat ≤ 0x0d) || (0x7f ≤ c.toNat && isBlank c)

/-- The digits of every script as digits of ASCII, other characters as they are. -/
def asciiDigits (cs : List Char) : List Char :=
  cs.map fun c => match digitValue? c with
    | some n => Nat.digitChar n
    | none => c

/-- Take out the underscores; each must stand between two digits. -/
def dropUnderscores? (before : Bool) : List Char → Option (List Char)
  | [] => some []
  | '_' :: c :: rest => if before && c.isDigit then dropUnderscores? false (c :: rest) else none
  | c :: rest => if c == '_' then none else (dropUnderscores? c.isDigit rest).map (c :: ·)

def readExponent? (cs : List Char) : Option Int :=
  let (negative, digits) := splitSign cs
  if digits.isEmpty || !digits.all Char.isDigit then none
  else some (if negative then -(natOfDigits digits : Int) else natOfDigits digits)

/-- A number without a sign: digits before or behind the point, and an exponent or none. -/
def readUnsigned? (cs : List Char) : Option Decimal :=
  let whole := cs.takeWhile Char.isDigit
  let rest := cs.dropWhile Char.isDigit
  let (fraction, rest) := match rest with
    | '.' :: rest => (rest.takeWhile Char.isDigit, rest.dropWhile Char.isDigit)
    | rest => ([], rest)
  if whole.isEmpty && fraction.isEmpty then none
  else match rest with
    | [] => some (Decimal.ofParts whole fraction 0)
    | c :: rest =>
      if c == 'e' || c == 'E' then (readExponent? rest).map (Decimal.ofParts whole fraction ·)
      else none

def floatOfText? (s : String) : Option Float := do
  let cs ← dropUnderscores? false (asciiDigits (dropAroundWhile isBlankAround s.toList))
  let (negative, rest) := splitSign cs
  let word := String.ofList (rest.map Char.toLower)
  if word = "inf" || word = "infinity" then
    return infinity negative
  else if word = "nan" then
    return undefinedFloat
  else
    return (← readUnsigned? rest).toFloat negative

end NodeDataplane
