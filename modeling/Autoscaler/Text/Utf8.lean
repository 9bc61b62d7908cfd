import Autoscaler.Text.Number

/-!
# Text in bytes

Reading bytes as text in UTF-8, with the place of the first bytes that are none.
-/

namespace Autoscaler.Text

/-- Where bytes are no text: the index of the first such byte, and how many of them there are,
unless the text just breaks off. -/
structure Utf8Fault where
  index : Nat
  length : Option Nat
deriving DecidableEq, Repr

def Utf8Fault.message (f : Utf8Fault) : String :=
  match f.length with
  | some n =>
    "invalid utf-8 sequence of " ++ ofNat n ++ " bytes from index " ++ ofNat f.index
  | none => "incomplete utf-8 byte sequence from index " ++ ofNat f.index

def isContinuation (b : UInt8) : Bool := 0x80 ≤ b && b ≤ 0xBF

/-- What may follow the lead byte of a sequence at once, and how many continuation bytes may come
after that; `none` if no sequence starts with the byte. -/
def sequenceOf (lead : UInt8) : Option (UInt8 × UInt8 × Nat) :=
  if 0xC2 ≤ lead && lead ≤ 0xDF then some (0x80, 0xBF, 0)
  else if lead = 0xE0 then some (0xA0, 0xBF, 1)
  else if lead = 0xED then some (0x80, 0x9F, 1)
  else if 0xE1 ≤ lead && lead ≤ 0xEF then some (0x80, 0xBF, 1)
  else if lead = 0xF0 then some (0x90, 0xBF, 2)
  else if 0xF1 ≤ lead && lead ≤ 0xF3 then some (0x80, 0xBF, 2)
  else if lead = 0xF4 then some (0x80, 0x8F, 2)
  else none

/-- The number of bytes of the sequence that starts the bytes, or how many of them are wrong. -/
def sequenceLength? : List UInt8 → Except (Option Nat) Nat
  | [] => .error none
  | lead :: rest =>
    if lead < 0x80 then .ok 1
    else match sequenceOf lead with
      | none => .error (some 1)
      | some (least, greatest, more) =>
        match rest with
        | [] => .error none
        | second :: rest =>
          if second < least || greatest < second then .error (some 1)
          else
            let good := ((rest.take more).takeWhile isContinuation).length
            if good = more then .ok (2 + more)
            else if rest.length = good then .error none
            else .error (some (2 + good))

/-- The first fault of bytes from an index on; `fuel` bounds the number of characters. -/
def findUtf8Fault (index : Nat) : Nat → List UInt8 → Option Utf8Fault
  | 0, _ => none
  | _, [] => none
  | fuel + 1, bytes =>
    match sequenceLength? bytes with
    | .error length => some ⟨index, length⟩
    | .ok n => findUtf8Fault (index + n) fuel (bytes.drop n)

def utf8Fault? (bytes : List UInt8) : Option Utf8Fault := findUtf8Fault 0 bytes.length bytes

end Autoscaler.Text
