import NodeDataplane.Decimal.Shortest
import NodeDataplane.Text.Digit

/-!
# The text of a double

A `Layout` says from which exponents on a number is written in scientific form and how wide the
exponent is; the digits are those of the shortest decimal that reads back.
-/

namespace NodeDataplane

open NodeDataplane.Text (zeroPadded)

inductive FloatParts where
  | nan
  | infinite (negative : Bool)
  | finite (negative : Bool) (magnitude : Dyadic)
  deriving DecidableEq, Repr

def FloatParts.ofFloat (x : Float) : FloatParts :=
  let bits : Nat := x.toBits.toNat
  let negative : Bool := Nat.pow 2 63 ≤ bits
  let exponent : Nat := bits / Nat.pow 2 52 % Nat.pow 2 11
  let fraction : Nat := bits % Nat.pow 2 52
  if exponent = 0x7ff then if fraction = 0 then .infinite negative else .nan
  else if exponent = 0 then .finite negative ⟨fraction, -1074⟩
  else .finite negative ⟨Nat.pow 2 52 + fraction, (exponent : Int) - 1075⟩

/-- Where a number is written without an exponent, and how its exponent is written otherwise. -/
structure Layout where
  /-- The least exponent of the first digit that is written out. -/
  leastPositional : Int
  /-- The least exponent of the first digit that takes the scientific form. -/
  leastScientific : Int
  exponentWidth : Nat
  deriving DecidableEq, Repr

/-- Small and moderate numbers are written out, with at least one digit behind the point. -/
def Layout.plain : Layout := ⟨-4, 16, 2⟩

def Decimal.positional (d : Decimal) : String :=
  let digits := Nat.toDigits 10 d.digits
  if 0 ≤ d.exponent then
    String.ofList (digits ++ List.replicate d.exponent.toNat '0') ++ ".0"
  else
    let places := (-d.exponent).toNat
    let padded := List.replicate (places + 1 - digits.length) '0' ++ digits
    let whole := padded.length - places
    String.ofList (padded.take whole ++ '.' :: padded.drop whole)

/-- A positive decimal in scientific form: one digit before the point, no point if no digit
follows, and a signed exponent. -/
def Decimal.scientific (width : Nat) (d : Decimal) : String :=
  let digits := Nat.toDigits 10 d.digits
  let exponent := d.exponent + (digits.length - 1 : Nat)
  let fraction := if digits.length = 1 then [] else '.' :: digits.drop 1
  let sign := if exponent < 0 then "-" else "+"
  String.ofList (digits.take 1 ++ fraction) ++ "e" ++ sign ++
    zeroPadded width (toString exponent.natAbs)

def Layout.render (layout : Layout) (d : Decimal) : String :=
  let first := d.exponent + ((Nat.toDigits 10 d.digits).length - 1 : Nat)
  if layout.leastPositional ≤ first && first < layout.leastScientific then d.positional
  else d.scientific layout.exponentWidth

def floatText (x : Float) : String :=
  match FloatParts.ofFloat x with
  | .nan => "nan"
  | .infinite negative => if negative then "-inf" else "inf"
  | .finite negative magnitude =>
    (if negative then "-" else "") ++
      if magnitude.significand = 0 then "0.0" else Layout.plain.render magnitude.shortest

end NodeDataplane
