import Autoscaler.Text.Number

/-!
# Internet addresses

Addresses of both versions of the protocol with their canonical text, in which the longest run of
zero groups is left out, and readers for the strict text forms.
-/

namespace Autoscaler.Net

/-- An address of version 4. -/
structure Ipv4 where
  a : UInt8
  b : UInt8
  c : UInt8
  d : UInt8
deriving DecidableEq, Repr

/-- An address of version 6, as eight groups. -/
structure Ipv6 where
  groups : List UInt16
  length_groups : groups.length = 8
deriving DecidableEq, Repr

abbrev Reader (α : Type) := List Char → Option (α × List Char)

/-- Reads a number of at most `maxDigits` digits. Leading zeros are fine if `padded`. -/
def readNumber (base maxDigits : Nat) (padded : Bool) : Reader Nat := fun s =>
  let digits := s.takeWhile fun c => Text.digitValue c < base
  if maxDigits < digits.length then none
  else if !padded && digits.head? == some '0' && 1 < digits.length then none
  else (Text.readNat base digits).map fun n => (n, s.drop digits.length)

/-- Reads a decimal number below `limit`, of any length. -/
def readBelow (limit : Nat) : Reader Nat := fun s =>
  let digits := s.takeWhile Char.isDigit
  match Text.readNat 10 digits with
  | some n => if n < limit then some (n, s.drop digits.length) else none
  | none => none

def readChar (c : Char) (s : List Char) : Option (List Char) :=
  match s with
  | x :: rest => if x = c then some rest else none
  | [] => none

/-- Reads a part of an address of version 4: at most three digits without leading zeros. -/
def readOctet : Reader UInt8 := fun s => do
  let (n, rest) ← readNumber 10 3 false s
  if n < 256 then some (n.toUInt8, rest) else none

namespace Ipv4

/-- Reads four decimal parts with points between them. -/
def read : Reader Ipv4 := fun s => do
  let (a, s) ← readOctet s
  let (b, s) ← readOctet (← readChar '.' s)
  let (c, s) ← readOctet (← readChar '.' s)
  let (d, s) ← readOctet (← readChar '.' s)
  return (⟨a, b, c, d⟩, s)

/-- The four parts in decimal. -/
def chars (ip : Ipv4) : List Char :=
  Text.natDigits ip.a.toNat ++ '.' :: Text.natDigits ip.b.toNat ++
    '.' :: Text.natDigits ip.c.toNat ++ '.' :: Text.natDigits ip.d.toNat

/-- The address with a 32-bit number. -/
def ofNat (n : Nat) : Ipv4 :=
  ⟨(n / 0x1000000).toUInt8, (n / 0x10000).toUInt8, (n / 0x100).toUInt8, n.toUInt8⟩

/-- The two groups that an address takes in one of version 6. -/
def toGroups (ip : Ipv4) : List UInt16 :=
  [ip.a.toUInt16 * 256 + ip.b.toUInt16, ip.c.toUInt16 * 256 + ip.d.toUInt16]

end Ipv4

namespace Ipv6

def ofGroups? (groups : List UInt16) : Option Ipv6 :=
  if h : groups.length = 8 then some ⟨groups, h⟩ else none

/-- Steps over the colon in front of all groups but the first. -/
def readSeparator (first : Bool) (s : List Char) : Option (List Char) :=
  if first then some s else readChar ':' s

/-- Reads up to `room` groups, of which the last two may be written as an address of version 4.
Also tells whether they are. -/
def readGroups : Nat → Bool → List Char → List UInt16 × Bool × List Char
  | 0, _, s => ([], false, s)
  | room + 1, first, s =>
    let embedded := if room = 0 then none else (readSeparator first s).bind Ipv4.read
    match embedded with
    | some (ip, rest) => (ip.toGroups, true, rest)
    | none =>
      match (readSeparator first s).bind (readNumber 16 4 true) with
      | none => ([], false, s)
      | some (n, rest) =>
        let (groups, embedded, rest) := readGroups room false rest
        (n.toUInt16 :: groups, embedded, rest)

/-- Reads an address. A double colon stands for at least one zero group. -/
def read : Reader Ipv6 := fun s =>
  let (head, embedded, rest) := readGroups 8 true s
  if head.length = 8 then (ofGroups? head).map fun ip => (ip, rest)
  else if embedded then none
  else do
    let rest ← readChar ':' rest
    let rest ← readChar ':' rest
    let (tail, _, rest) := readGroups (7 - head.length) true rest
    let zeros := List.replicate (8 - head.length - tail.length) 0
    let ip ← ofGroups? (head ++ zeros ++ tail)
    return (ip, rest)

/-- The address of version 4 that is mapped here, if one is. -/
def mapped? (ip : Ipv6) : Option Ipv4 :=
  match ip.groups with
  | [0, 0, 0, 0, 0, 0xFFFF, hi, lo] =>
    some ⟨(hi / 256).toUInt8, hi.toUInt8, (lo / 256).toUInt8, lo.toUInt8⟩
  | _ => none

/-- The length of the run of zeros at the front. -/
def zeroRun (groups : List UInt16) : Nat := (groups.takeWhile (· == 0)).length

/-- Where the first of the longest runs of zeros starts, and its length. -/
def longestRun (groups : List UInt16) : Nat × Nat :=
  (List.range 8).foldl
    (fun best i =>
      let run := zeroRun (groups.drop i)
      if best.2 < run then (i, run) else best)
    (0, 0)

/-- Groups in hexadecimal with colons between them. -/
def groupChars (groups : List UInt16) : List Char :=
  [':'].intercalate (groups.map fun g => Text.hexDigits g.toNat)

def chars (ip : Ipv6) : List Char :=
  match ip.mapped? with
  | some v4 => "::ffff:".toList ++ v4.chars
  | none =>
    let (start, run) := longestRun ip.groups
    if run < 2 then groupChars ip.groups
    else
      groupChars (ip.groups.take start) ++ ':' :: ':' :: groupChars (ip.groups.drop (start + run))

end Ipv6
end Autoscaler.Net
