import Autoscaler.Cluster.Quantity
import Autoscaler.NodeGroup.Spec

/-!
# Snapshots of a node group

What a node group offers and what is asked of it at one point in time, summed up from its nodes and
from the pods that run on them.
-/

namespace Autoscaler.Cluster

abbrev Resources := List (String × String)

def Resources.get? (r : Resources) (name : String) : Option String :=
  (r.find? (·.1 == name)).map Prod.snd

/-- The processing time among resources, zero if it is absent or unreadable. -/
def Resources.cpu (r : Resources) : Int64 := ((r.get? "cpu").bind cpuMillis?).getD 0

/-- The memory among resources, zero if it is absent or unreadable. -/
def Resources.memory (r : Resources) : Int64 := ((r.get? "memory").bind memoryBytes?).getD 0

structure Node where
  name : String
  allocatable : Resources
deriving DecidableEq, Repr

structure PodSpec where
  nodeName : Option String
  requests : List Resources
deriving DecidableEq, Repr

structure Pod where
  spec : Option PodSpec
  phase : Option String
deriving DecidableEq, Repr

structure Snapshot where
  nodes : UInt64 := 0
  pods : UInt64 := 0
  cpuRequestedMillis : Int64 := 0
  cpuAllocatableMillis : Int64 := 0
  memoryRequestedBytes : Int64 := 0
  memoryAllocatableBytes : Int64 := 0
deriving DecidableEq, Repr

/-- A sum that stays within the signed 64-bit words. -/
def addCapped (a b : Int64) : Int64 :=
  Int64.ofInt (max Text.minInt64 (min Text.maxInt64 (a.toInt + b.toInt)))

/-- The sum of quantities, capped at every step. -/
def sumCapped (l : List Int64) : Int64 := l.foldl addCapped 0

def Pod.isTerminal (p : Pod) : Bool := p.phase == some "Succeeded" || p.phase == some "Failed"

/-- Whether a pod runs, or is to run, on one of the nodes with given names. -/
def Pod.isOn (names : List String) (p : Pod) : Bool :=
  p.spec.any fun spec => spec.nodeName.any fun node => names.contains node

def countedPods (nodes : List Node) (pods : List Pod) : List Pod :=
  pods.filter fun p => p.isOn (nodes.map Node.name) && !p.isTerminal

def Pod.requests (p : Pod) : List Resources := (p.spec.map PodSpec.requests).getD []

/-- The state of a group with given nodes, in a cluster with given pods. -/
def Snapshot.of (nodes : List Node) (pods : List Pod) : Snapshot :=
  let counted := countedPods nodes pods
  let requests := counted.flatMap Pod.requests
  { nodes := UInt64.ofNat nodes.length
    pods := UInt64.ofNat counted.length
    cpuRequestedMillis := sumCapped (requests.map Resources.cpu)
    cpuAllocatableMillis := sumCapped (nodes.map fun n => n.allocatable.cpu)
    memoryRequestedBytes := sumCapped (requests.map Resources.memory)
    memoryAllocatableBytes := sumCapped (nodes.map fun n => n.allocatable.memory) }

/-- A share in percent; zero of nothing. -/
def percent (used total : Int64) : Binary64 :=
  if total ≤ 0 then .ofNat 0
  else Binary64.ofInt used.toInt / Binary64.ofInt total.toInt * .ofNat 100

namespace Snapshot

def cpuRequestPercent (s : Snapshot) : Binary64 :=
  percent s.cpuRequestedMillis s.cpuAllocatableMillis

def memoryRequestPercent (s : Snapshot) : Binary64 :=
  percent s.memoryRequestedBytes s.memoryAllocatableBytes

end Snapshot

inductive SizeStatus where
  | belowMin
  | withinBounds
  | aboveMax
deriving DecidableEq, Repr

/-- Compares the number of nodes, taken as a signed word, with the bounds of a group. -/
def SizeStatus.of (group : NodeGroup.Spec) (s : Snapshot) : SizeStatus :=
  let nodes := s.nodes.toInt64
  if nodes < group.minNodes then belowMin
  else if group.maxNodes < nodes then aboveMax
  else withinBounds

end Autoscaler.Cluster
