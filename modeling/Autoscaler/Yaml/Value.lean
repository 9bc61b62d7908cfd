import Autoscaler.Binary64.Reading
import Autoscaler.Yaml.Node

/-!
# The values of scalars

What a scalar denotes. A plain scalar is resolved by its text; a tag of the core schema asks for
its own type; everything else is text.
-/

namespace Autoscaler.Yaml

inductive Value where
  | null
  | boolean (b : Bool)
  | integer (n : Int)
  | float (x : Binary64)
  | text (s : String)

inductive CoreType where
  | null
  | boolean
  | integer
  | float
deriving DecidableEq, Repr

namespace Value

def isNull (s : String) : Bool := ["null", "Null", "NULL", "~"].contains s

def readBoolean? (s : String) : Option Bool :=
  if ["true", "True", "TRUE"].contains s then some true
  else if ["false", "False", "FALSE"].contains s then some false
  else none

/-- More than one digit with a zero in front: no number. -/
def isPaddedDigits (cs : List Char) : Bool :=
  match cs with
  | '0' :: rest => !rest.isEmpty && rest.all Char.isDigit
  | _ => false

/-- A number without sign: hexadecimal, octal or binary after a letter, else decimal. -/
def readMagnitude? (cs : List Char) : Option Nat :=
  match cs with
  | '0' :: 'x' :: digits => Text.readNat 16 digits
  | '0' :: 'o' :: digits => Text.readNat 8 digits
  | '0' :: 'b' :: digits => Text.readNat 2 digits
  | digits => if isPaddedDigits digits then none else Text.readNat 10 digits

def readInteger? (s : String) : Option Int :=
  match s.toList with
  | '-' :: cs => (readMagnitude? cs).map fun n => -(n : Int)
  | '+' :: cs => (readMagnitude? cs).map Int.ofNat
  | cs => (readMagnitude? cs).map Int.ofNat

/-- The whole numbers that 128 bits hold, without a sign or with one. -/
def isWideInteger (n : Int) : Bool := -(Nat.pow 2 127 : Int) ≤ n && n < Nat.pow 2 128

def readWideInteger? (s : String) : Option Int := (readInteger? s).filter isWideInteger

/-- A float: an infinity, the value that is not a number, or a finite decimal. -/
def readFloat? (s : String) : Option Binary64 :=
  let body := match s.toList with
    | '+' :: '+' :: _ => none
    | '+' :: '-' :: _ => none
    | '+' :: cs => some cs
    | cs => some cs
  body.bind fun cs =>
    if [".inf", ".Inf", ".INF"].contains (String.ofList cs) then some (.infinite false)
    else if ["-.inf", "-.Inf", "-.INF"].contains s then some (.infinite true)
    else if [".nan", ".NaN", ".NAN"].contains s then some .nan
    else (Binary64.read? cs).filter Binary64.isFinite

/-- Whether the text, apart from a sign, is digits with a zero in front. -/
def isPadded (s : String) : Bool :=
  match s.toList with
  | '-' :: cs => isPaddedDigits cs
  | '+' :: cs => isPaddedDigits cs
  | cs => isPaddedDigits cs

def ofPlain (s : String) : Value :=
  if s.isEmpty || isNull s then .null
  else match readBoolean? s with
    | some b => .boolean b
    | none =>
      match readWideInteger? s with
      | some n => .integer n
      | none =>
        match if isPadded s then none else readFloat? s with
        | some x => .float x
        | none => .text s

def coreType? : String → Option CoreType
  | "tag:yaml.org,2002:null" => some .null
  | "tag:yaml.org,2002:bool" => some .boolean
  | "tag:yaml.org,2002:int" => some .integer
  | "tag:yaml.org,2002:float" => some .float
  | _ => none

def ofTyped? (s : String) : CoreType → Option Value
  | .null => if isNull s then some .null else none
  | .boolean => (readBoolean? s).map .boolean
  | .integer => (readWideInteger? s).map .integer
  | .float => (readFloat? s).map .float

/-- The value of a scalar, or the core type that its text does not fit. -/
def ofScalar (s : Scalar) : Except CoreType Value :=
  match s.tag with
  | none => .ok (if s.style = .plain then ofPlain s.text else .text s.text)
  | some tag =>
    match coreType? tag with
    | some type => (ofTyped? s.text type).elim (.error type) .ok
    | none =>
      .ok (if tag.toList.head? == some '!' && s.style = .plain then ofPlain s.text
        else .text s.text)

end Value

namespace Scalar

/-- Whether the text is read as a type: a plain scalar, or a literal one tagged with the type. -/
def isReadAs (s : Scalar) (tag : String) : Bool :=
  s.style = .plain || (s.style = .literal && s.tag = some tag)

def boolean? (s : Scalar) : Option Bool :=
  if s.isReadAs "tag:yaml.org,2002:bool" then Value.readBoolean? s.text else none

/-- The signed 64-bit word that a scalar denotes. -/
def int64? (s : Scalar) : Option Int64 :=
  if s.isReadAs "tag:yaml.org,2002:int" then (Value.readInteger? s.text).bind Text.toInt64?
  else none

/-- A plain scalar without text also stands for an empty collection. -/
def isBlank (s : Scalar) : Bool := s.style = .plain && s.text.isEmpty

end Scalar
end Autoscaler.Yaml
