import Autoscaler.Binary64.Reading
import Autoscaler.Text.Blank

/-!
# Resource quantities

Amounts of processing time and memory as the cluster writes them, such as `250m` or `1.5Gi`. A
quantity is never negative; what does not fit a signed 64-bit word is none.
-/

namespace Autoscaler.Cluster

def stripSuffix? (ending s : List Char) : Option (List Char) :=
  if ending.isSuffixOf s then some (s.take (s.length - ending.length)) else none

def wholeQuantity? (x : Binary64) : Option Int64 :=
  if !x.isFinite || x.lt (.ofNat 0) || Binary64.lt (.ofInt Text.maxInt64) x then none
  else some x.roundToInt64

/-- Reads an amount of processing time in thousandths of a core. With the suffix `m` it is a whole
number of those. -/
def cpuMillis? (text : String) : Option Int64 :=
  let s := Text.trimBlanks text.toList
  match stripSuffix? ['m'] s with
  | some digits => (Text.readInt64 digits).filter (0 ≤ ·)
  | none => (Binary64.read? s).bind fun cores => wholeQuantity? (cores * .ofNat 1000)

/-- The suffixes of amounts of memory with their factors, in the order in which they are tried. -/
def memorySuffixes : List (List Char × Binary64) := [
  (['K', 'i'], .ofNat (Nat.pow 1024 1)), (['M', 'i'], .ofNat (Nat.pow 1024 2)), (['G', 'i'], .ofNat (Nat.pow 1024 3)),
  (['T', 'i'], .ofNat (Nat.pow 1024 4)), (['P', 'i'], .ofNat (Nat.pow 1024 5)), (['E', 'i'], .ofNat (Nat.pow 1024 6)),
  (['k'], .ofNat (Nat.pow 1000 1)), (['M'], .ofNat (Nat.pow 1000 2)), (['G'], .ofNat (Nat.pow 1000 3)),
  (['T'], .ofNat (Nat.pow 1000 4)), (['P'], .ofNat (Nat.pow 1000 5)), (['E'], .ofNat (Nat.pow 1000 6)),
  (['m'], .ofRatio false 1 1000)]

def splitMemory (s : List Char) : List Char × Binary64 :=
  (memorySuffixes.findSome? fun (ending, factor) =>
    (stripSuffix? ending s).map fun number => (number, factor)).getD (s, .ofNat 1)

/-- Reads an amount of memory in bytes. -/
def memoryBytes? (text : String) : Option Int64 :=
  let (number, factor) := splitMemory (Text.trimBlanks text.toList)
  (Binary64.read? number).bind fun x => wholeQuantity? (x * factor)

end Autoscaler.Cluster
