import Autoscaler.ControlLoop.Machine

/-!
# What a run of the control loop has done

The transitions of a run in order, and what they tell: when passes have begun and ended, and how
each scan has ended.
-/

namespace Autoscaler.ControlLoop

/-- A step of the loop with the states around it. -/
structure Transition where
  before : State
  label : Label
  after : State

namespace Transition

def beginning? (t : Transition) : Option Nat :=
  match t.label with
  | .begin => some t.before.now
  | _ => none

/-- When a transition completes a pass: it brings the loop from the pass back to waiting. -/
def completion? (t : Transition) : Option Nat :=
  match t.before.phase, t.after.phase with
  | .ticked, .waiting => some t.after.now
  | .scanning _, .waiting => some t.after.now
  | _, _ => none

/-- The scan that a transition ends: the group that was being scanned, and the outcome. -/
def scan? (t : Transition) : Option (NodeGroup.Spec × Outcome) :=
  match t.before.phase, t.label with
  | .scanning p, .scanned outcome => some (p.group, outcome)
  | _, _ => none

end Transition

/-- The transitions of a run, as far as its steps are possible. -/
def State.trace (opts : RunOptions) (s : State) : List Label → List Transition
  | [] => []
  | l :: rest =>
    match s.step opts l with
    | none => []
    | some s' => ⟨s, l, s'⟩ :: s'.trace opts rest

/-- The instants at which passes begin. -/
def beginnings (tr : List Transition) : List Nat := tr.filterMap Transition.beginning?

/-- The instants at which passes are completed. -/
def completions (tr : List Transition) : List Nat := tr.filterMap Transition.completion?

/-- How long the completed passes have lasted. -/
def durations (tr : List Transition) : List Nat :=
  List.zipWith (fun completed begun => completed - begun) (completions tr) (beginnings tr)

/-- The scans that have ended, earliest first. -/
def endedScans (tr : List Transition) : List (NodeGroup.Spec × Outcome) :=
  tr.filterMap Transition.scan?

end Autoscaler.ControlLoop
