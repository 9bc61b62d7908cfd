import Autoscaler.Binary64.Basic

/-!
# The shortest decimal of a double

The decimal number with the fewest digits among those that round to a given double, and of these
the nearest one. It is written positionally, whatever its size.
-/

namespace Autoscaler.Binary64

/-- A decimal number `digits · 10 ^ exponent`. -/
structure Decimal where
  digits : Nat
  exponent : Int
deriving DecidableEq, Repr

/-- The reals that round to a positive double, in units of a quarter of its last place. -/
structure Rounding where
  value : Nat
  low : Nat
  high : Nat
  ends : Bool
  exponent : Int

/-- The interval of `m · 2 ^ e`. Below a power of two the doubles lie closer together. -/
def Rounding.of (m : Nat) (e : Int) : Rounding where
  value := 4 * m
  low := if m = leastNormal ∧ minExponent < e then 4 * m - 1 else 4 * m - 2
  high := 4 * m + 2
  ends := m % 2 = 0
  exponent := e - 2

/-- The factor that brings quarter units over to the grid of step `10 ^ j`. -/
def Rounding.factor (r : Rounding) (j : Int) : Nat := Nat.pow 2 r.exponent.toNat * Nat.pow 10 (-j).toNat

/-- The length of a grid step, in the units of `factor`. -/
def Rounding.step (r : Rounding) (j : Int) : Nat := Nat.pow 2 (-r.exponent).toNat * Nat.pow 10 j.toNat

/-- Whether the grid point `d · 10 ^ j` rounds to the double. -/
def Rounding.covers (r : Rounding) (j : Int) (d : Nat) : Bool :=
  let point := d * r.step j
  let low := r.low * r.factor j
  let high := r.high * r.factor j
  if r.ends then low ≤ point && point ≤ high else low < point && point < high

/-- The better of the two grid points beside the double, if one of them rounds to it. The upper
one wins a tie. -/
def Rounding.nearest? (r : Rounding) (j : Int) : Option Decimal :=
  let value := r.value * r.factor j
  let step := r.step j
  let d := value / step
  let below := r.covers j d
  let above := r.covers j (d + 1)
  if above && (!below || step ≤ 2 * (value % step)) then some ⟨d + 1, j⟩
  else if below then some ⟨d, j⟩
  else none

/-- Whether the double lies below `10 ^ k`. -/
def Rounding.below (r : Rounding) (k : Int) : Bool := r.value * r.factor k < r.step k

/-- The number of digits before the point (negative below a tenth). -/
def Rounding.magnitude (r : Rounding) : Int :=
  let guess := ((r.value.log2 : Int) + r.exponent) * 30103 / 100000
  if r.below guess then guess else if r.below (guess + 1) then guess + 1 else guess + 2

/-- The shortest decimal of `m · 2 ^ e`, for positive `m`. Seventeen digits always suffice. -/
def shortest (m : Nat) (e : Int) : Decimal :=
  let r := Rounding.of m e
  let k := r.magnitude
  ((List.range 17).findSome? fun (n : Nat) => r.nearest? (k - (n + 1))).getD ⟨0, 0⟩

/-- Moves trailing zeros of the digits into the exponent, at most `fuel` of them. -/
def Decimal.normalize : Nat → Decimal → Decimal
  | 0, d => d
  | fuel + 1, d =>
    if d.digits ≠ 0 ∧ d.digits % 10 = 0 then
      Decimal.normalize fuel ⟨d.digits / 10, d.exponent + 1⟩
    else d

/-- Writes a decimal number with a point where one is needed and no exponent. -/
def Decimal.positional (d : Decimal) : List Char :=
  let ds := Text.natDigits d.digits
  if 0 ≤ d.exponent then ds ++ List.replicate d.exponent.toNat '0'
  else
    let places := (-d.exponent).toNat
    if places < ds.length then ds.take (ds.length - places) ++ '.' :: ds.drop (ds.length - places)
    else '0' :: '.' :: List.replicate (places - ds.length) '0' ++ ds

/-- The shortest decimal text that reads back to the same double. -/
def render : Binary64 → String
  | .nan => "NaN"
  | .infinite s => if s then "-inf" else "inf"
  | .finite s m e =>
    let digits := if m = 0 then ['0'] else ((shortest m e).normalize 20).positional
    String.ofList (if s then '-' :: digits else digits)

/-- The text of a double, where a whole number ends in `.0`. -/
def renderPointed (x : Binary64) : String :=
  let text := x.render
  if x.isFinite && !text.toList.contains '.' then text ++ ".0" else text

end Autoscaler.Binary64
