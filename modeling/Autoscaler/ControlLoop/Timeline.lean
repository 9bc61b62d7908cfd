import Autoscaler.ControlLoop.Machine

/-!
# Runs of the control loop against a script

A script says how long each scan takes and how it ends, and when the stop signal ends. Against it
the loop has one run, in which time jumps from one event to the next. Where the end of the signal
meets other events it comes first, and the loop takes all the others before it looks at the signal.
-/

namespace Autoscaler.ControlLoop

/-- A scan as it is scripted: how long it takes, if it ever ends, and its outcome. -/
structure ScriptedScan where
  delay : Option Nat := some 0
  outcome : Outcome := .ok {}

inductive Ending where
  | close
  | abandon
deriving DecidableEq, Repr

def Ending.label : Ending → Label
  | close => .close
  | abandon => .abandon

structure Script where
  /-- The scans in the order of calls; later ones find nothing and take no time. -/
  scans : List ScriptedScan
  endsAt : Nat
  ending : Ending := .close

namespace Script

/-- The next event of the loop: when it comes, the steps at it, and the scans that remain. -/
def nextEvent? (script : Script) (s : State) : Option (Nat × List Label × List ScriptedScan) :=
  match s.phase with
  | .waiting => some (max s.now (s.timer.fires s.due), [.tick, .begin], script.scans)
  | .scanning _ =>
    let scan := script.scans.headD {}
    let started := (s.calls.head?.map Prod.fst).getD s.now
    scan.delay.map fun delay => (started + delay, [.scanned scan.outcome], script.scans.drop 1)
  | _ => none

/-- The steps up to the next event, with the scans that remain. Events after the end of the signal
do not come; `none` once the loop has stopped. -/
def nextLabels (script : Script) (s : State) : Option (List Label × List ScriptedScan) :=
  let ended := s.signal.releases
  let event := (script.nextEvent? s).filter fun e =>
    if ended then e.1 ≤ s.now else e.1 < script.endsAt
  match event with
  | some (instant, labels, scans) =>
    some (if s.now < instant then .elapse (instant - s.now) :: labels else labels, scans)
  | none =>
    if s.phase = .stopped then none
    else if ended then some ([.quit], script.scans)
    else some ([.elapse (script.endsAt - s.now), script.ending.label], script.scans)

/-- The run of the loop from a state on. The fuel bounds the number of events. -/
def run (opts : RunOptions) : Nat → Script → State → State
  | 0, _, s => s
  | fuel + 1, script, s =>
    match script.nextLabels s with
    | none => s
    | some (labels, scans) =>
      match s.run opts labels with
      | none => s
      | some s => run opts fuel { script with scans } s

/-- A bound on the number of events: ticks are at least a period apart when due, and each brings at
most one scan of every group. -/
def bound (opts : RunOptions) (script : Script) : Nat :=
  (script.endsAt / opts.scanInterval.nanos + 2) * (opts.nodeGroups.length + 2)

def play (opts : RunOptions) (immediately stoppedBefore : Bool) (script : Script) : State :=
  let signal : StopSignal := if stoppedBefore then (({} : StopSignal).close).1 else {}
  let s := State.start opts immediately signal
  let s := if stoppedBefore then { s with log := s.log ++ [(0, StopSignal.closeLog)] } else s
  run opts (script.bound opts) script s

end Script
end Autoscaler.ControlLoop
