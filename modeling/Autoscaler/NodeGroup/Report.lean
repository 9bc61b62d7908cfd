import Autoscaler.Log
import Autoscaler.NodeGroup.Rule

/-!
# Reports on node groups

All node groups are checked in one pass, each by the rules for one group and by the rule that names
are distinct. The report holds the groups that fail.
-/

namespace Autoscaler.NodeGroup

structure Failure where
  index : Nat
  name : String
  violations : List Violation
deriving DecidableEq, Repr

/-- The groups that fail, in order. -/
structure Report where
  failures : List Failure
deriving DecidableEq, Repr

/-- The names met so far, each with the position of the first group that has it. -/
abbrev Register := List (String × Nat)

/-- Enters the name of the group at a position, and tells what is wrong with it. An empty name is
passed over. A name that is there already keeps its position, and the group is blamed. -/
def Register.enter (r : Register) (index : Nat) (s : Spec) : Register × List Violation :=
  if s.name.isEmpty then (r, [])
  else match r.lookup s.name with
    | some first => (r, [.duplicateName s.name first])
    | none => ((s.name, index) :: r, [])

/-- A group with its position and everything that is wrong with it. -/
structure Verdict where
  index : Nat
  spec : Spec
  violations : List Violation

/-- The verdicts on groups, on from a position, with the names met before it. -/
def judge (r : Register) (index : Nat) : List Spec → List Verdict
  | [] => []
  | s :: rest =>
    let (r, clash) := r.enter index s
    { index, spec := s, violations := s.violations ++ clash } :: judge r (index + 1) rest

/-- The verdicts on all groups, in order. -/
def verdicts (specs : List Spec) : List Verdict := judge [] 0 specs

def Verdict.failure? (v : Verdict) : Option Failure :=
  if v.violations.isEmpty then none
  else some { index := v.index, name := v.spec.name, violations := v.violations }

namespace Report

def ofSpecs (specs : List Spec) : Report where
  failures := (verdicts specs).filterMap Verdict.failure?

def isOk (r : Report) : Bool := r.failures.isEmpty

def errorCount (r : Report) : Nat := (r.failures.flatMap (·.violations)).length

def renderFailure (f : Failure) : String :=
  "\n  node group #" ++ Text.ofNat f.index ++ " '" ++ f.name ++ "':" ++
    String.join (f.violations.map fun v => "\n    - " ++ v.message)

def render (r : Report) : String :=
  Text.ofNat r.errorCount ++ " problem(s) in " ++ Text.ofNat r.failures.length ++
    " node group(s)" ++ String.join (r.failures.map renderFailure)

def passEvent (s : Spec) : Log.Event :=
  ⟨.info, .validation, "Validating options: [PASS]", [("nodegroup", .shown s.name)]⟩

def failEvent (index : Nat) (s : Spec) : Log.Event :=
  ⟨.error, .validation, "Validating options: [FAIL]",
    [("nodegroup", .shown s.name), ("index", .number index)]⟩

def violationEvent (s : Spec) (v : Violation) : Log.Event :=
  ⟨.error, .validation, "failed check",
    [("nodegroup", .shown s.name), ("error", .shown v.message)]⟩

def verdictLog (v : Verdict) : List Log.Event :=
  if v.violations.isEmpty then [passEvent v.spec]
  else failEvent v.index v.spec :: v.violations.map (violationEvent v.spec)

def log (specs : List Spec) : List Log.Event := (verdicts specs).flatMap verdictLog

end Report
end Autoscaler.NodeGroup
