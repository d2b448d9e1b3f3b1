/-!
# Shortest decimals

A finite double is `significand · 2 ^ exponent`. Every real number nearer to it than to its two
neighbours reads back as the double; the ends of that interval belong to it when the significand is
even. `shortest` picks, among the decimals of the interval with the fewest digits, the one nearest
to the double.

The search goes through the decimal grids `10 ^ g` from coarse to fine. If any point of a grid lies
in the interval, one of the two grid points around the double does, so only those two are tested.
-/

namespace NodeDataplane

structure Dyadic where
  significand : Nat
  exponent : Int
  deriving DecidableEq, Repr

structure Decimal where
  digits : Nat
  exponent : Int
  deriving DecidableEq, Repr

namespace Dyadic

/-- The position of the first decimal digit: `10 ^ e ≤ x < 10 ^ (e + 1)`. No double is below
`10 ^ (-400)`, so a shift by 400 places leaves a digit before the point. -/
def decimalExponent (x : Dyadic) : Int :=
  let shifted :=
    x.significand * Nat.pow 10 400 * Nat.pow 2 x.exponent.toNat / Nat.pow 2 (-x.exponent).toNat
  (Nat.toDigits 10 shifted).length - 401

/-- The half distance to the neighbour below, in quarters of a unit: half of it at a power of two,
where the neighbours below stand twice as close. -/
def marginBelow (x : Dyadic) : Nat :=
  if x.significand = Nat.pow 2 52 ∧ -1074 < x.exponent then 1 else 2

/-- The grid point next to `x` on the grid `10 ^ g` that reads back as `x`, if there is one: of two
such points the nearer, and the even one if both are as near. -/
def onGrid? (x : Dyadic) (g : Int) : Option Nat :=
  let quarter := Nat.pow 2 (x.exponent - 2).toNat * Nat.pow 10 (-g).toNat
  let step := Nat.pow 10 g.toNat * Nat.pow 2 (2 - x.exponent).toNat
  let value := 4 * x.significand * quarter
  let least := (4 * x.significand - x.marginBelow) * quarter
  let greatest := (4 * x.significand + 2) * quarter
  let inside (n : Nat) : Bool :=
    if x.significand % 2 = 0 then least ≤ n && n ≤ greatest else least < n && n < greatest
  let below := value / step
  let gapBelow := value - below * step
  let gapAbove := (below + 1) * step - value
  match inside (below * step), inside ((below + 1) * step) with
  | false, false => none
  | true, false => some below
  | false, true => some (below + 1)
  | true, true =>
    if gapBelow < gapAbove then some below
    else if gapAbove < gapBelow then some (below + 1)
    else some (if below % 2 = 0 then below else below + 1)

end Dyadic

/-- Move the zeros at the end of the digits into the exponent. -/
def Decimal.normalize (d : Decimal) : Decimal :=
  let zeros := ((Nat.toDigits 10 d.digits).reverse.takeWhile (· == '0')).length
  if d.digits = 0 then ⟨0, 0⟩ else ⟨d.digits / Nat.pow 10 zeros, d.exponent + zeros⟩

/-- The first hit on the grids `first`, `first - 1`, …, of which there are `fuel`. -/
def Dyadic.search (x : Dyadic) (first : Int) : Nat → Option Decimal
  | 0 => none
  | fuel + 1 =>
    match x.onGrid? first with
    | some n => some ⟨n, first⟩
    | none => x.search (first - 1) fuel

/-- The decimal with the fewest digits that reads back as `x`. Seventeen digits always suffice. -/
def Dyadic.shortest (x : Dyadic) : Decimal :=
  ((x.search x.decimalExponent 17).getD ⟨0, 0⟩).normalize

end NodeDataplane
