/-!
# Whole numbers as text

Digits of a base, unsigned and signed numbers, and their decimal form. Reading is exact: a caller
that has a range checks it afterwards.
-/

namespace Autoscaler.Text

/-- The value of a digit; letters of either case follow nine. -/
def digitValue (c : Char) : Nat :=
  if '0' ≤ c ∧ c ≤ '9' then c.toNat - '0'.toNat
  else if 'a' ≤ c ∧ c ≤ 'z' then c.toNat - 'a'.toNat + 10
  else if 'A' ≤ c ∧ c ≤ 'Z' then c.toNat - 'A'.toNat + 10
  else 36

/-- The number that the digits denote, read on from `value`. -/
def readDigits (base : Nat) : Nat → List Char → Option Nat
  | value, [] => some value
  | value, c :: rest =>
    if digitValue c < base then readDigits base (base * value + digitValue c) rest else none

/-- One digit or more and nothing else. -/
def readNat (base : Nat) : List Char → Option Nat
  | [] => none
  | cs => readDigits base 0 cs

def readUnsigned (base : Nat) : List Char → Option Nat
  | '+' :: cs => readNat base cs
  | cs => readNat base cs

def readSigned (base : Nat) : List Char → Option Int
  | '-' :: cs => (readNat base cs).map fun n => -(n : Int)
  | cs => (readUnsigned base cs).map Int.ofNat

/-- The least number that a signed 64-bit word holds. -/
def minInt64 : Int := -0x8000000000000000

/-- The greatest number that a signed 64-bit word holds. -/
def maxInt64 : Int := 0x7fffffffffffffff

def toInt64? (n : Int) : Option Int64 :=
  if minInt64 ≤ n ∧ n ≤ maxInt64 then some (Int64.ofInt n) else none

/-- A signed word written in decimal with an optional sign. -/
def readInt64 (cs : List Char) : Option Int64 :=
  (readSigned 10 cs).bind toInt64?

inductive NumberFault where
  | empty
  | invalidDigit
  | tooLarge
deriving DecidableEq, Repr

def NumberFault.message : NumberFault → String
  | empty => "cannot parse integer from empty string"
  | invalidDigit => "invalid digit found in string"
  | tooLarge => "number too large to fit in target type"

/-- Reads decimal digits on from a number below `limit`. The first fault counts. -/
def readBounded (limit : Nat) : Nat → List Char → Except NumberFault Nat
  | n, [] => .ok n
  | n, c :: rest =>
    if !c.isDigit then .error .invalidDigit
    else
      let next := 10 * n + digitValue c
      if next < limit then readBounded limit next rest else .error .tooLarge

/-- An unsigned 16-bit word written in decimal with an optional plus sign. -/
def readWord16 (s : String) : Except NumberFault UInt16 :=
  let digits := match s.toList with
    | ['+'] => ['+']
    | '+' :: rest => rest
    | cs => cs
  if digits.isEmpty then .error .empty
  else (readBounded 0x10000 0 digits).map Nat.toUInt16

/-- Decimal digits without leading zeros. -/
def natDigits (n : Nat) : List Char := Nat.toDigits 10 n

/-- A natural number in decimal. -/
def ofNat (n : Nat) : String := String.ofList (natDigits n)

/-- The decimal characters of an integer, with a minus sign below zero. -/
def intDigits : Int → List Char
  | .ofNat n => natDigits n
  | .negSucc n => '-' :: natDigits (n + 1)

/-- An integer in decimal. -/
def ofInt (n : Int) : String := String.ofList (intDigits n)

/-- A natural number in lower-case hexadecimal. -/
def hexDigits (n : Nat) : List Char := Nat.toDigits 16 n

end Autoscaler.Text
