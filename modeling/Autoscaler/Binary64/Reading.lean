import Autoscaler.Binary64.Basic

/-!
# Doubles from decimal text

An optional sign, then digits with an optional point and exponent, or a name of an infinity or of
the value that is not a number. The double is the one nearest to the exact value.
-/

namespace Autoscaler.Binary64

/-- The digits of a written exponent stop to count once the number is beyond this. -/
def exponentLimit : Nat := 0x10000

def readExponentDigits : Nat → List Char → Option Nat
  | value, [] => some value
  | value, c :: rest =>
    if c.isDigit then
      readExponentDigits (if value < exponentLimit then 10 * value + Text.digitValue c else value)
        rest
    else none

/-- The exponent after the letter: an optional sign and at least one digit. -/
def readExponent : List Char → Option Int
  | '-' :: c :: rest => (readExponentDigits 0 (c :: rest)).map fun n => -(n : Int)
  | '+' :: c :: rest => (readExponentDigits 0 (c :: rest)).map Int.ofNat
  | '-' :: [] => none
  | '+' :: [] => none
  | [] => none
  | cs => (readExponentDigits 0 cs).map Int.ofNat

/-- The double nearest to `digits · 10 ^ exponent`. Exponents far outside the range of doubles are
settled by the number of digits alone. -/
def ofDecimal (negative : Bool) (digits : Nat) (exponent : Int) : Binary64 :=
  let magnitude : Int := (Text.natDigits digits).length + exponent
  if digits = 0 ∨ magnitude < -400 then zero negative
  else if 400 < magnitude then .infinite negative
  else ofRatio negative (digits * Nat.pow 10 exponent.toNat) (Nat.pow 10 (-exponent).toNat)

/-- A number without its sign. -/
def readUnsigned? (negative : Bool) (s : List Char) : Option Binary64 := do
  let whole := s.takeWhile Char.isDigit
  let afterWhole := s.dropWhile Char.isDigit
  let (fraction, rest) := match afterWhole with
    | '.' :: t => (t.takeWhile Char.isDigit, t.dropWhile Char.isDigit)
    | t => ([], t)
  let digits ← Text.readNat 10 (whole ++ fraction)
  let exponent ← match rest with
    | [] => some 0
    | c :: t => if c = 'e' ∨ c = 'E' then readExponent t else none
  return ofDecimal negative digits (exponent - fraction.length)

/-- The names of values without digits; case does not matter. -/
def readName? (negative : Bool) (s : List Char) : Option Binary64 :=
  match s.map Char.toLower with
  | ['i', 'n', 'f'] => some (.infinite negative)
  | ['i', 'n', 'f', 'i', 'n', 'i', 't', 'y'] => some (.infinite negative)
  | ['n', 'a', 'n'] => some .nan
  | _ => none

def read? (s : List Char) : Option Binary64 :=
  let negative := s.head? == some '-'
  let body := match s with
    | '-' :: t => t
    | '+' :: t => t
    | t => t
  (readUnsigned? negative body).orElse fun _ => readName? negative body

end Autoscaler.Binary64
