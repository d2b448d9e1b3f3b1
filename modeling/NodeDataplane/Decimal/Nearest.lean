import NodeDataplane.Decimal.Shortest

/-!
# Nearest doubles

`nearest` rounds a decimal to the nearest double, a tie to the even significand. The bits of a
positive double count the doubles below it, so the rounded significand and the binary exponent
simply add up: a significand that rounds up to the next power of two moves on to the next exponent
by itself, and subnormal numbers need no case of their own.
-/

namespace NodeDataplane

/-- A quotient rounded to the nearest integer, a tie to the even one. -/
def roundQuotient (num den : Nat) : Nat :=
  let below := num / den
  let rest := num % den
  if 2 * rest < den then below
  else if den < 2 * rest then below + 1
  else if below % 2 = 0 then below else below + 1

/-- The bits of positive infinity; those of all finite positive doubles are less. -/
def infinityBits : Nat := 0x7ff * Nat.pow 2 52

def signBit (negative : Bool) : Nat := if negative then Nat.pow 2 63 else 0

/-- The bits of the double nearest to the positive quotient `num / den`. -/
def nearestBits (num den : Nat) : Nat :=
  let scale : Int := (num.log2 : Int) - den.log2 - 53
  let least := Nat.pow 2 53 * den * Nat.pow 2 scale.toNat
  let unit := max (if least ≤ num * Nat.pow 2 (-scale).toNat then scale + 1 else scale) (-1074)
  let rounded := roundQuotient (num * Nat.pow 2 (-unit).toNat) (den * Nat.pow 2 unit.toNat)
  min ((unit + 1074).toNat * Nat.pow 2 52 + rounded) infinityBits

namespace Decimal

/-- The bits of the double nearest to a decimal. Powers of ten beyond the range of doubles are cut
off before they are computed. -/
def magnitudeBits (d : Decimal) : Nat :=
  let places : Int := (Nat.toDigits 10 d.digits).length + d.exponent
  if d.digits = 0 then 0
  else if 400 < places then infinityBits
  else if places < -400 then 0
  else nearestBits (d.digits * Nat.pow 10 d.exponent.toNat) (Nat.pow 10 (-d.exponent).toNat)

def toFloat (negative : Bool) (d : Decimal) : Float :=
  Float.ofBits (UInt64.ofNat (d.magnitudeBits + signBit negative))

end Decimal

/-- The double nearest to an integer; `none` beyond the greatest double. -/
def floatOfInt? (i : Int) : Option Float :=
  let d : Decimal := ⟨i.natAbs, 0⟩
  if d.magnitudeBits < infinityBits then some (d.toFloat (i < 0)) else none

def infinity (negative : Bool) : Float :=
  Float.ofBits (UInt64.ofNat (infinityBits + signBit negative))

def undefinedFloat : Float :=
  Float.ofBits (UInt64.ofNat (infinityBits + Nat.pow 2 51))

end NodeDataplane
