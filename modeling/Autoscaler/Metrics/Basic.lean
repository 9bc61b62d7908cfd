import Autoscaler.Cluster.Snapshot

/-!
# Metrics

What the process counts and measures: scan cycles with their durations, failed scans by group, and
five gauges for the latest state of each group.
-/

namespace Autoscaler

/-- Entries with names, in the order of the names. Names with the same key have one entry between
them, under the name that came first. -/
abbrev Series (α : Type) := List (String × α)

namespace Series

variable {α : Type}

/-- The key by which an entry is found: the 64-bit FNV-1a hash of the bytes of its name. -/
def key (name : String) : UInt64 :=
  name.toUTF8.data.toList.foldl (fun hash byte => (hash ^^^ byte.toUInt64) * 0x100000001b3)
    0xcbf29ce484222325

def entryAt? (s : Series α) (k : UInt64) : Option (String × α) := s.find? fun p => key p.1 == k

/-- The value that stands under a name. -/
def get? (s : Series α) (name : String) : Option α := (s.find? (·.1 == name)).map Prod.snd

/-- Puts an entry in at the place of its name. -/
def insert (name : String) (value : α) : Series α → Series α
  | [] => [(name, value)]
  | p :: rest => if name < p.1 then (name, value) :: p :: rest else p :: insert name value rest

/-- Sets the value that the key of a name finds to what `f` makes of its value so far. -/
def alter (name : String) (f : Option α → α) (s : Series α) : Series α :=
  match s.entryAt? (key name) with
  | none => s.insert name (f none)
  | some _ => s.map fun p => if key p.1 = key name then (p.1, f (some p.2)) else p

def put (name : String) (value : α) (s : Series α) : Series α := s.alter name fun _ => value

end Series

namespace Metrics

/-- How often each of some ranges of durations was met, and what the durations add up to. -/
structure Histogram where
  counts : List Nat
  count : Nat
  sum : Binary64

def bounds : List Binary64 :=
  [.ofRatio false 5 100, .ofRatio false 1 10, .ofRatio false 25 100, .ofRatio false 5 10,
    .ofNat 1, .ofRatio false 25 10, .ofNat 5, .ofNat 10, .ofNat 30]

def Histogram.countIn (x : Binary64) : List Binary64 → List Nat → List Nat
  | bound :: bounds, n :: counts =>
    if x.le bound then (n + 1) :: counts else n :: countIn x bounds counts
  | _, counts => counts

def Histogram.empty : Histogram := ⟨bounds.map fun _ => 0, 0, .ofNat 0⟩

def Histogram.observe (h : Histogram) (x : Binary64) : Histogram where
  counts := Histogram.countIn x bounds h.counts
  count := h.count + 1
  sum := h.sum + x

/-- The state of a group, as it was seen last. -/
structure GroupState where
  snapshot : Cluster.Snapshot
  dryMode : Bool
deriving DecidableEq, Repr

end Metrics

structure Metrics where
  cycles : Nat := 0
  durations : Metrics.Histogram := .empty
  errors : Series Nat := []
  nodes : Series Int64 := []
  pods : Series Int64 := []
  cpuPercent : Series Binary64 := []
  memoryPercent : Series Binary64 := []
  dryMode : Series Int64 := []

namespace Metrics

inductive Record where
  | cycle (seconds : Binary64)
  | failure (group : String)
  | state (group : String) (state : GroupState)
deriving DecidableEq, Repr

def add (m : Metrics) : Record → Metrics
  | .cycle seconds => { m with cycles := m.cycles + 1, durations := m.durations.observe seconds }
  | .failure group => { m with errors := m.errors.alter group fun n => n.getD 0 + 1 }
  | .state group state =>
    { m with
      nodes := m.nodes.put group state.snapshot.nodes.toInt64
      pods := m.pods.put group state.snapshot.pods.toInt64
      cpuPercent := m.cpuPercent.put group state.snapshot.cpuRequestPercent
      memoryPercent := m.memoryPercent.put group state.snapshot.memoryRequestPercent
      dryMode := m.dryMode.put group (if state.dryMode then 1 else 0) }

/-- Adds measurements in order. -/
def addAll (m : Metrics) (records : List Record) : Metrics := records.foldl add m

end Metrics
end Autoscaler
