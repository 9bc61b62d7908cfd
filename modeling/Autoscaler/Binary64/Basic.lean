import Autoscaler.Text.Number

/-!
# Double precision numbers

IEEE 754 binary64 values with exact arithmetic on naturals and integers: each operation computes
the exact result as a ratio and rounds it once, to nearest with ties to even.
-/

namespace Autoscaler

/-- A double. The finite value is `± mantissa · 2 ^ exponent`; rounding yields the representation
with `mantissa < 2 ^ 53` and `-1074 ≤ exponent`, normal whenever the exponent allows. -/
inductive Binary64 where
  | finite (negative : Bool) (mantissa : Nat) (exponent : Int)
  | infinite (negative : Bool)
  | nan
deriving DecidableEq, Repr

namespace Binary64

def minExponent : Int := -1074

def maxExponent : Int := 971

/-- A quotient rounded to the nearest integer, a tie to the even one. -/
def divHalfEven (num den : Nat) : Nat :=
  let q := num / den
  let r := num % den
  if 2 * r < den ∨ (2 * r = den ∧ q % 2 = 0) then q else q + 1

/-- The numerator of `num / den / 2 ^ e`. -/
def scaledNum (num : Nat) (e : Int) : Nat := num * Nat.pow 2 (-e).toNat

/-- The denominator of `num / den / 2 ^ e`. -/
def scaledDen (den : Nat) (e : Int) : Nat := den * Nat.pow 2 e.toNat

/-- The exponent of the highest bit of `num / den`, for positive operands. -/
def topBit (num den : Nat) : Int :=
  let guess : Int := (num.log2 : Int) - (den.log2 : Int)
  if scaledNum num guess < scaledDen den guess then guess - 1 else guess

/-- The exponent of the last place of the double nearest to `num / den`. -/
def lastPlace (num den : Nat) : Int := max (topBit num den - 52) minExponent

def zero (negative : Bool) : Binary64 := .finite negative 0 minExponent

/-- The least mantissa of a normal double, `2 ^ 52`. -/
def leastNormal : Nat := 0x10000000000000

def signBit : Nat := 0x8000000000000000

/-- A mantissa of at most 53 bits or `2 ^ 53` itself, brought into range. -/
def ofMantissa (negative : Bool) (mantissa : Nat) (exponent : Int) : Binary64 :=
  let m := if mantissa = 2 * leastNormal then leastNormal else mantissa
  let e := if mantissa = 2 * leastNormal then exponent + 1 else exponent
  if maxExponent < e then .infinite negative else .finite negative m e

/-- The double nearest to `num / den`, for positive `den`. -/
def ofRatio (negative : Bool) (num den : Nat) : Binary64 :=
  if num = 0 then zero negative
  else
    let e := lastPlace num den
    ofMantissa negative (divHalfEven (scaledNum num e) (scaledDen den e)) e

def ofInt (n : Int) : Binary64 := ofRatio (n < 0) n.natAbs 1

def ofNat (n : Nat) : Binary64 := ofRatio false n 1

/-- The double nearest to `± m · 2 ^ e`. -/
def ofScaled (negative : Bool) (m : Nat) (e : Int) : Binary64 :=
  ofRatio negative (scaledNum m (-e)) (scaledDen 1 (-e))

def mul : Binary64 → Binary64 → Binary64
  | .nan, _ => .nan
  | _, .nan => .nan
  | .infinite s, .infinite t => .infinite (s != t)
  | .infinite s, .finite t m _ => if m = 0 then .nan else .infinite (s != t)
  | .finite s m _, .infinite t => if m = 0 then .nan else .infinite (s != t)
  | .finite s m e, .finite t n f => ofScaled (s != t) (m * n) (e + f)

def div : Binary64 → Binary64 → Binary64
  | .nan, _ => .nan
  | _, .nan => .nan
  | .infinite _, .infinite _ => .nan
  | .infinite s, .finite t _ _ => .infinite (s != t)
  | .finite s _ _, .infinite t => zero (s != t)
  | .finite s m e, .finite t n f =>
    if n = 0 then (if m = 0 then .nan else .infinite (s != t))
    else ofRatio (s != t) (scaledNum m (f - e)) (scaledDen n (f - e))

/-- A mantissa with its sign, in units of `2 ^ unit`. -/
def signedUnits (negative : Bool) (m : Nat) (e unit : Int) : Int :=
  let n : Int := m * Nat.pow 2 (e - unit).toNat
  if negative then -n else n

def add : Binary64 → Binary64 → Binary64
  | .nan, _ => .nan
  | _, .nan => .nan
  | .infinite s, .infinite t => if s = t then .infinite s else .nan
  | .infinite s, .finite _ _ _ => .infinite s
  | .finite _ _ _, .infinite t => .infinite t
  | .finite s m e, .finite t n f =>
    let unit := min e f
    let sum := signedUnits s m e unit + signedUnits t n f unit
    if sum = 0 then zero (s && t) else ofScaled (sum < 0) sum.natAbs unit

/-- Order; false if either side is not a number. -/
def le : Binary64 → Binary64 → Bool
  | .nan, _ => false
  | _, .nan => false
  | .infinite s, .infinite t => s || !t
  | .infinite s, .finite _ _ _ => s
  | .finite _ _ _, .infinite t => !t
  | .finite s m e, .finite t n f =>
    let unit := min e f
    signedUnits s m e unit ≤ signedUnits t n f unit

/-- Strict order; false if either side is not a number. -/
def lt (a b : Binary64) : Bool := a.le b && !b.le a

def isFinite : Binary64 → Bool
  | .finite _ _ _ => true
  | _ => false

/-- The magnitude of a finite double rounded to an integer, a half away from zero. -/
def roundedMagnitude (m : Nat) (e : Int) : Nat :=
  let den := scaledDen 1 (-e)
  (2 * scaledNum m (-e) + den) / (2 * den)

/-- The nearest integer, a half away from zero, kept within the signed 64-bit words. -/
def roundToInt64 : Binary64 → Int64
  | .nan => 0
  | .infinite s => Int64.ofInt (if s then Text.minInt64 else Text.maxInt64)
  | .finite s m e =>
    let n : Int := roundedMagnitude m e
    Int64.ofInt (max Text.minInt64 (min Text.maxInt64 (if s then -n else n)))

/-- The 64 bits of the interchange format; a value that is not a number is the quiet one. -/
def bits : Binary64 → Nat
  | .nan => 0x7ff8000000000000
  | .infinite s => (if s then signBit else 0) + 0x7ff * leastNormal
  | .finite s m e =>
    (if s then signBit else 0) +
      (if m < leastNormal then m else (e + 1075).toNat * leastNormal + (m - leastNormal))

instance : Mul Binary64 := ⟨mul⟩
instance : Div Binary64 := ⟨div⟩
instance : Add Binary64 := ⟨add⟩

end Binary64
end Autoscaler
