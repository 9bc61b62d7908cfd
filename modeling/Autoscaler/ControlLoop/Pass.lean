import Autoscaler.Cluster.Scan
import Autoscaler.Duration
import Autoscaler.Metrics.Basic

/-!
# One pass over the node groups

Each group is scanned once, in order. A scan that fails is reported and counted; the groups after
it are scanned all the same.
-/

namespace Autoscaler.ControlLoop

structure RunOptions where
  scanInterval : Duration
  nodeGroups : List NodeGroup.Spec
  dryMode : Bool
deriving DecidableEq, Repr

abbrev Outcome := Except Cluster.ScanError Cluster.Snapshot

structure Tally where
  scanned : Nat := 0
  failed : Nat := 0
deriving DecidableEq, Repr

def Tally.add (t : Tally) : Outcome → Tally
  | .ok _ => { t with scanned := t.scanned + 1 }
  | .error _ => { t with failed := t.failed + 1 }

def outcomeRecord (dryMode : Bool) (group : NodeGroup.Spec) : Outcome → Metrics.Record
  | .ok snapshot => .state group.name ⟨snapshot, group.effectiveDryMode dryMode⟩
  | .error _ => .failure group.name

def sizeLog (dryMode : Bool) (group : NodeGroup.Spec) (s : Cluster.Snapshot) : List Log.Event :=
  let fields (bound : String) (value : Int64) : List (String × Log.Value) :=
    [("nodegroup", .shown group.name), ("nodes", .number s.nodes.toNat),
      (bound, .number value.toInt), ("dry_mode", .flag (group.effectiveDryMode dryMode))]
  match Cluster.SizeStatus.of group s with
  | .belowMin =>
    [⟨.warn, .controlLoop, "Node group is below min_nodes", fields "min_nodes" group.minNodes⟩]
  | .aboveMax =>
    [⟨.warn, .controlLoop, "Node group is above max_nodes", fields "max_nodes" group.maxNodes⟩]
  | .withinBounds => []

def outcomeLog (dryMode : Bool) (group : NodeGroup.Spec) : Outcome → List Log.Event
  | .error e =>
    [⟨.warn, .controlLoop, "Scan failed, continuing with next node group",
      [("nodegroup", .shown group.name), ("error", .shown e.message)]⟩]
  | .ok s =>
    ⟨.debug, .controlLoop, "Scanned node group",
      [("nodegroup", .shown group.name), ("nodes", .number s.nodes.toNat),
        ("pods", .number s.pods.toNat), ("cpu_percent", .real s.cpuRequestPercent),
        ("memory_percent", .real s.memoryRequestPercent),
        ("dry_mode", .flag (group.effectiveDryMode dryMode))]⟩ :: sizeLog dryMode group s

/-- A whole pass: its tally, the groups that are scanned, what is measured and what is logged. -/
structure Pass where
  tally : Tally := {}
  calls : List String := []
  records : List Metrics.Record := []
  log : List Log.Event := []

def Pass.add (dryMode : Bool) (p : Pass) (group : NodeGroup.Spec) (outcome : Outcome) : Pass where
  tally := p.tally.add outcome
  calls := p.calls ++ [group.name]
  records := p.records ++ [outcomeRecord dryMode group outcome]
  log := p.log ++ outcomeLog dryMode group outcome

def Pass.run (dryMode : Bool) (scans : List (NodeGroup.Spec × Outcome)) : Pass :=
  scans.foldl (fun p (group, outcome) => p.add dryMode group outcome) {}

/-- A pass that asks a scanner for one outcome after the other. What else the scanner does is up to
its monad. -/
def Pass.perform {m : Type → Type} [Monad m] (dryMode : Bool)
    (scanner : NodeGroup.Spec → m Outcome) (groups : List NodeGroup.Spec) : m Pass :=
  groups.foldlM (fun p group => p.add dryMode group <$> scanner group) {}

/-- Everything that a pass of a length in seconds adds to the metrics: its scans and then itself. -/
def Pass.allRecords (p : Pass) (seconds : Binary64) : List Metrics.Record :=
  p.records ++ [.cycle seconds]

end Autoscaler.ControlLoop
