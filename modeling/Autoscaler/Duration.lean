import Autoscaler.Text.Blank
import Autoscaler.Text.Number

/-!
# Durations

A positive number of nanoseconds that a signed 64-bit word holds, read from a sequence of numbers
with units such as `1h30m` or `.5s` and written with the largest unit that fits.
-/

namespace Autoscaler

/-- A span of time, counted in nanoseconds. -/
structure Duration where
  nanos : Nat
  nanos_pos : 0 < nanos
  nanos_le : nanos ≤ 0x7fffffffffffffff
deriving DecidableEq, Repr

namespace Duration

/-- The span of `n` nanoseconds, if `n` is in range. -/
def ofNanos? (n : Nat) : Option Duration :=
  if h : 0 < n ∧ n ≤ 0x7fffffffffffffff then some ⟨n, h.1, h.2⟩ else none

/-- The units by name, each with its length in nanoseconds. Microseconds have three spellings. -/
def units : List (List Char × Nat) :=
  [(['n', 's'], 1), (['u', 's'], 1000), (['\u00b5', 's'], 1000), (['\u03bc', 's'], 1000),
    (['m', 's'], 1000000), (['s'], 1000000000), (['m'], 60000000000), (['h'], 3600000000000)]

def isNumberChar (c : Char) : Bool := c.isDigit || c == '.'

def unitNanos? (name : List Char) : Option Nat :=
  (units.find? fun u => u.1 == name).map Prod.snd

/-- The limit of intermediate results: they have 128 bits. -/
def wideLimit : Nat := Nat.pow 2 128

/-- A number that stays below `wideLimit`. -/
def wide? (n : Nat) : Option Nat := if n < wideLimit then some n else none

/-- Fraction digits beyond this many are not looked at: they weigh less than a nanosecond. -/
def maxFractionDigits : Nat := 18

def splitNumber (number : List Char) : List Char × List Char :=
  (number.takeWhile (· != '.'), (number.dropWhile (· != '.')).drop 1)

/-- The nanoseconds that a fraction of a unit amounts to, rounded down. -/
def fractionNanos? (fraction : List Char) (scale : Nat) : Option Nat :=
  match fraction.take maxFractionDigits with
  | [] => some 0
  | digits => (Text.readNat 10 digits).map fun n => n * scale / Nat.pow 10 digits.length

def wholeValue? : List Char → Option Nat
  | [] => some 0
  | digits => (Text.readNat 10 digits).bind wide?

/-- The nanoseconds of one number in a unit of length `scale`. -/
def elementNanos? (number : List Char) (scale : Nat) : Option Nat := do
  let (whole, fraction) := splitNumber number
  if whole.isEmpty && fraction.isEmpty then none
  if !fraction.all Char.isDigit then none
  let units ← wholeValue? whole
  let nanos ← wide? (units * scale)
  wide? (nanos + (← fractionNanos? fraction scale))

def splitElement (s : List Char) : List Char × List Char × List Char :=
  let tail := s.dropWhile isNumberChar
  (s.takeWhile isNumberChar, tail.takeWhile (!isNumberChar ·), tail.dropWhile (!isNumberChar ·))

/-- Sums the elements of a text onto `total`. The fuel bounds the number of elements. -/
def sumElements? : Nat → Nat → List Char → Option Nat
  | _, total, [] => some total
  | 0, _, _ => none
  | fuel + 1, total, s => do
    let (number, unit, rest) := splitElement s
    let scale ← unitNanos? unit
    let nanos ← elementNanos? number scale
    sumElements? fuel (← wide? (total + nanos)) rest

def parseElements? (s : List Char) : Option Duration :=
  if s.isEmpty then none else (sumElements? s.length 0 s).bind ofNanos?

/-- Reads a duration. Blanks around it and one leading plus sign carry no weight. -/
def parse? (text : String) : Option Duration :=
  match Text.trimBlanks text.toList with
  | '+' :: s => parseElements? s
  | s => parseElements? s

/-- The units for output, largest first: name, length, and the digits after the point. -/
def outputUnits : List (List Char × Nat × Nat) :=
  [(['s'], 1000000000, 9), (['m', 's'], 1000000, 6), (['\u00b5', 's'], 1000, 3), (['n', 's'], 1, 0)]

/-- A fraction of `places` digits without its trailing zeros, with the point if any is left. -/
def fractionDigits (n places : Nat) : List Char :=
  let digits := Text.natDigits n
  let padded := List.replicate (places - digits.length) '0' ++ digits
  match (padded.reverse.dropWhile (· == '0')).reverse with
  | [] => []
  | kept => '.' :: kept

/-- Writes `n` nanoseconds in the first unit of the list that they reach. -/
def renderNanos (n : Nat) : List (List Char × Nat × Nat) → List Char
  | [] => []
  | (name, scale, places) :: smaller =>
    if scale ≤ n ∨ smaller.isEmpty then
      Text.natDigits (n / scale) ++ fractionDigits (n % scale) places ++ name
    else renderNanos n smaller

/-- The duration in the largest of s, ms, µs and ns that it reaches, exactly. -/
def render (d : Duration) : String := String.ofList (renderNanos d.nanos outputUnits)

def lt (a b : Duration) : Bool := a.nanos < b.nanos

end Duration
end Autoscaler
