/-!
# The characters of a document

Bytes are read as UTF-8 in blocks of a fixed size. A block with an invalid byte or with a character
that documents may not contain fails as a whole when it is asked for; a sequence that the end of
input cuts short fails when characters beyond it are asked for.
-/

namespace Autoscaler.Yaml

def blockSize : Nat := 16384

def isAllowed (c : Char) : Bool :=
  let n := c.toNat
  n == 0x09 || n == 0x0A || n == 0x0D || (0x20 ≤ n && n ≤ 0x7E) || n == 0x85 ||
    (0xA0 ≤ n && n ≤ 0xD7FF) || (0xE000 ≤ n && n ≤ 0xFFFD) || (0x10000 ≤ n && n ≤ 0x10FFFF)

/-- The length of the sequence that a lead byte starts; zero for a byte that starts none. -/
def sequenceLength (lead : UInt8) : Nat :=
  if lead &&& 0x80 = 0 then 1
  else if lead &&& 0xE0 = 0xC0 then 2
  else if lead &&& 0xF0 = 0xE0 then 3
  else if lead &&& 0xF8 = 0xF0 then 4
  else 0

def leadBits (lead : UInt8) (length : Nat) : Nat :=
  match length with
  | 1 => (lead &&& 0x7F).toNat
  | 2 => (lead &&& 0x1F).toNat
  | 3 => (lead &&& 0x0F).toNat
  | _ => (lead &&& 0x07).toNat

def continueBits : Nat → List UInt8 → Option Nat
  | value, [] => some value
  | value, b :: rest =>
    if b &&& 0xC0 = 0x80 then continueBits (value * 64 + (b &&& 0x3F).toNat) rest else none

def leastCode : Nat → Nat
  | 1 => 0
  | 2 => 0x80
  | 3 => 0x800
  | _ => 0x10000

/-- The character that a whole sequence encodes, if it is valid, shortest and allowed. -/
def sequenceChar? (lead : UInt8) (length : Nat) (tail : List UInt8) : Option Char := do
  let n ← continueBits (leadBits lead length) tail
  if n < leastCode length ∨ ¬ n.isValidChar then none
  let c := Char.ofNat n
  if isAllowed c then some c else none

/-- Decodes bytes as far as sequences are whole; also gives what is left at the end. The fuel
bounds the number of characters. -/
def decodeBlock : Nat → List UInt8 → Option (List Char × List UInt8)
  | 0, bytes => some ([], bytes)
  | _, [] => some ([], [])
  | fuel + 1, lead :: rest =>
    let length := sequenceLength lead
    if length = 0 then none
    else
      let tail := rest.take (length - 1)
      if tail.length < length - 1 then some ([], lead :: rest)
      else do
        let c ← sequenceChar? lead length tail
        let (cs, left) ← decodeBlock fuel (rest.drop (length - 1))
        return (c :: cs, left)

structure Source where
  chars : List Char
  /-- Whether asking for more characters fails, instead of finding the end. -/
  broken : Bool

/-- Decodes block after block. `left` holds the bytes of a sequence that the last block cut. -/
def readBlocks : Nat → List UInt8 → List UInt8 → Source
  | 0, _, _ => ⟨[], true⟩
  | fuel + 1, left, bytes =>
    match bytes.take (blockSize - left.length) with
    | [] => ⟨[], !left.isEmpty⟩
    | block =>
      match decodeBlock blockSize (left ++ block) with
      | none => ⟨[], true⟩
      | some (cs, left') =>
        let later := readBlocks fuel left' (bytes.drop (blockSize - left.length))
        ⟨cs ++ later.chars, later.broken⟩

def Source.ofBytes (bytes : List UInt8) : Source :=
  readBlocks (bytes.length / (blockSize - 4) + 2) [] bytes

end Autoscaler.Yaml
