import Autoscaler.Text.Number

/-!
# JSON

Values of JSON and their reader, which takes nothing but JSON in the strict sense. Numbers keep
their text, and the members of objects their order.
-/

namespace Autoscaler

inductive Json where
  | null
  | bool (b : Bool)
  | number (digits : List Char)
  | string (s : String)
  | array (items : List Json)
  | object (members : List (String × Json))

namespace Json

def maxDepth : Nat := 127

def isGap (c : Char) : Bool := c == ' ' || c == '\n' || c == '\t' || c == '\r'

def skipGaps (s : List Char) : List Char := s.dropWhile isGap

/-- Four hexadecimal digits. -/
def readHex4 (s : List Char) : Option (Nat × List Char) :=
  match s with
  | a :: b :: c :: d :: rest => (Text.readNat 16 [a, b, c, d]).map fun n => (n, rest)
  | _ => none

/-- The escape after a backslash. A code point beyond the first plane takes two in a row. -/
def readEscape (s : List Char) : Option (Char × List Char) :=
  match s with
  | '"' :: rest => some ('"', rest)
  | '\\' :: rest => some ('\\', rest)
  | '/' :: rest => some ('/', rest)
  | 'b' :: rest => some ('\x08', rest)
  | 'f' :: rest => some ('\x0c', rest)
  | 'n' :: rest => some ('\n', rest)
  | 'r' :: rest => some ('\r', rest)
  | 't' :: rest => some ('\t', rest)
  | 'u' :: rest => do
    let (high, rest) ← readHex4 rest
    if high.isValidChar then return (Char.ofNat high, rest)
    else match rest with
      | '\\' :: 'u' :: rest =>
        let (low, rest) ← readHex4 rest
        if high < 0xDC00 ∧ 0xDC00 ≤ low ∧ low < 0xE000 then
          return (Char.ofNat (0x10000 + (high - 0xD800) * 0x400 + (low - 0xDC00)), rest)
        else none
      | _ => none
  | _ => none

/-- The characters of a string up to its closing quote, after those in `text`, last one first. -/
def readChars : Nat → List Char → List Char → Option (String × List Char)
  | 0, _, _ => none
  | fuel + 1, text, s =>
    match s with
    | [] => none
    | '"' :: rest => some (String.ofList text.reverse, rest)
    | '\\' :: rest => do
      let (c, rest) ← readEscape rest
      readChars fuel (c :: text) rest
    | c :: rest => if c.toNat < 0x20 then none else readChars fuel (c :: text) rest

def splitSign (s : List Char) : List Char × List Char :=
  match s with
  | '-' :: rest => (['-'], rest)
  | rest => ([], rest)

/-- The digits at the front, at least one. -/
def readDigits (s : List Char) : Option (List Char × List Char) :=
  match s.takeWhile Char.isDigit with
  | [] => none
  | digits => some (digits, s.dropWhile Char.isDigit)

def readFraction (s : List Char) : Option (List Char × List Char) :=
  match s with
  | '.' :: rest => (readDigits rest).map fun (digits, rest) => ('.' :: digits, rest)
  | rest => some ([], rest)

def readExponent (s : List Char) : Option (List Char × List Char) :=
  match s with
  | c :: rest =>
    if c = 'e' ∨ c = 'E' then
      let (sign, rest) := match rest with
        | '+' :: rest => (['+'], rest)
        | rest => splitSign rest
      (readDigits rest).map fun (digits, rest) => (c :: sign ++ digits, rest)
    else some ([], c :: rest)
  | [] => some ([], [])

/-- A number, whose whole part has no leading zeros. -/
def readNumber (s : List Char) : Option (Json × List Char) := do
  let (sign, rest) := splitSign s
  let (whole, rest) ← readDigits rest
  if whole.head? = some '0' ∧ 1 < whole.length then none
  let (fraction, rest) ← readFraction rest
  let (exponent, rest) ← readExponent rest
  return (number (sign ++ whole ++ fraction ++ exponent), rest)

def readWord (s : List Char) : Option (Json × List Char) :=
  match s with
  | 'n' :: 'u' :: 'l' :: 'l' :: rest => some (null, rest)
  | 't' :: 'r' :: 'u' :: 'e' :: rest => some (bool true, rest)
  | 'f' :: 'a' :: 'l' :: 's' :: 'e' :: rest => some (bool false, rest)
  | _ => none

mutual

/-- A value nested at most `depth` deep. -/
def readValue (fuel depth : Nat) (s : List Char) : Option (Json × List Char) :=
  match fuel with
  | 0 => none
  | fuel + 1 =>
    match skipGaps s, depth with
    | '"' :: rest, _ =>
      (readChars rest.length.succ [] rest).map fun (text, rest) => (string text, rest)
    | '[' :: rest, depth + 1 =>
      match skipGaps rest with
      | ']' :: rest => some (array [], rest)
      | rest => (readItems fuel depth rest).map fun (items, rest) => (array items, rest)
    | '\x7b' :: rest, depth + 1 =>
      match skipGaps rest with
      | '\x7d' :: rest => some (object [], rest)
      | rest => (readMembers fuel depth rest).map fun (members, rest) => (object members, rest)
    | '-' :: rest, _ => readNumber ('-' :: rest)
    | c :: rest, _ => if c.isDigit then readNumber (c :: rest) else readWord (c :: rest)
    | [], _ => none

def readItems (fuel depth : Nat) (s : List Char) : Option (List Json × List Char) :=
  match fuel with
  | 0 => none
  | fuel + 1 =>
    match readValue fuel depth s with
    | none => none
    | some (item, rest) =>
      match skipGaps rest with
      | ',' :: rest => (readItems fuel depth rest).map fun (items, rest) => (item :: items, rest)
      | ']' :: rest => some ([item], rest)
      | _ => none

def readMembers (fuel depth : Nat) (s : List Char) : Option (List (String × Json) × List Char) :=
  match fuel with
  | 0 => none
  | fuel + 1 =>
    match skipGaps s with
    | '"' :: rest =>
      match readChars rest.length.succ [] rest with
      | none => none
      | some (name, rest) =>
        match skipGaps rest with
        | ':' :: rest =>
          match readValue fuel depth rest with
          | none => none
          | some (value, rest) =>
            match skipGaps rest with
            | ',' :: rest =>
              (readMembers fuel depth rest).map fun (members, rest) =>
                ((name, value) :: members, rest)
            | '\x7d' :: rest => some ([(name, value)], rest)
            | _ => none
        | _ => none
    | _ => none

end

/-- Reads a text that is one value and nothing else. -/
def parse? (text : String) : Option Json :=
  let s := text.toList
  match readValue (2 * s.length + 2) maxDepth s with
  | some (value, rest) => if (skipGaps rest).isEmpty then some value else none
  | none => none

/-- A member of an object; null if there is none. Of members with one name the last counts. -/
def member (name : String) : Json → Json
  | object members => ((members.reverse.find? (·.1 == name)).map Prod.snd).getD null
  | _ => null

/-- A string, or nothing in place of null. -/
def optionalString? : Json → Option (Option String)
  | null => some none
  | string s => some (some s)
  | _ => none

/-- A natural number without fraction and exponent. -/
def nat? : Json → Option Nat
  | number digits => Text.readNat 10 digits
  | _ => none

end Json
end Autoscaler
