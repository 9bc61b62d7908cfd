import Autoscaler.ControlLoop.Pass
import Autoscaler.StopSignal

/-!
# The control loop

A pass runs at once or after one interval, and then at every tick, until the stop signal closes or
is abandoned. The loop is a machine whose steps are the events of its environment and its own
choices: where a tick or the end of a scan and the end of the signal come together, either may be
taken first. Time does not pass while a step is due.
-/

namespace Autoscaler.ControlLoop

/-- A tick that is taken later than this after it was due shifts the ones after it. -/
def lateness : Nat := 5000000

/-- When the next tick is due, after one that was due at `due` and is taken at `taken`. -/
def nextDue (period due taken : Nat) : Nat :=
  if due + lateness < taken then taken + period else due + period

def timerResolution : Nat := 1000000

/-- When a timer fires that is set to an instant: not before it, and by less than the resolution
after it. -/
structure Timer where
  fires : Nat → Nat
  le_fires : ∀ instant, instant ≤ fires instant
  fires_lt : ∀ instant, fires instant < instant + timerResolution

/-- The timer that fires at whole milliseconds only. -/
def Timer.wholeMillis : Timer where
  fires instant := (instant + (timerResolution - 1)) / timerResolution * timerResolution
  le_fires instant := by simp only [timerResolution]; omega
  fires_lt instant := by simp only [timerResolution]; omega

/-- A pass that is going on: when it began, its tally so far, the group whose scan is going on and
the groups after it. -/
structure Progress where
  begun : Nat
  tally : Tally
  group : NodeGroup.Spec
  rest : List NodeGroup.Spec
deriving DecidableEq, Repr

inductive Phase where
  | waiting
  /-- A tick is taken, and the pass has not begun. -/
  | ticked
  | scanning (progress : Progress)
  | stopped
deriving DecidableEq, Repr

/-- The loop with its surroundings. Times are in nanoseconds since the start; what was logged and
which scans were started is kept with its time, latest first. -/
structure State where
  timer : Timer := .wholeMillis
  now : Nat := 0
  due : Nat
  phase : Phase := .waiting
  signal : StopSignal := {}
  metrics : Metrics := {}
  log : List (Nat × Log.Event) := []
  calls : List (Nat × String) := []

inductive Label where
  | elapse (nanos : Nat)
  | close
  | abandon
  | tick
  | begin
  | scanned (outcome : Outcome)
  | quit

namespace State

def startLog (opts : RunOptions) : Log.Event :=
  ⟨.info, .controlLoop, "Control loop started",
    [("scan_interval", .shown opts.scanInterval.render),
      ("node_groups", .number opts.nodeGroups.length), ("dry_mode", .flag opts.dryMode)]⟩

def stopLog : Log.Event := ⟨.info, .controlLoop, "Control loop stopped", []⟩

def passLog (tally : Tally) : Log.Event :=
  ⟨.debug, .controlLoop, "Scan cycle complete",
    [("scanned", .number tally.scanned), ("failed", .number tally.failed)]⟩

/-- Logs events in order at the present time. -/
def emit (s : State) (events : List Log.Event) : State :=
  { s with log := (events.map fun e => (s.now, e)).reverse ++ s.log }

/-- A span of nanoseconds in seconds. -/
def seconds (nanos : Nat) : Binary64 :=
  .ofNat (nanos / 1000000000) + .ofNat (nanos % 1000000000) / .ofNat 1000000000

/-- Starts the scan of a group in a pass that began at `begun`. -/
def startScan (s : State) (begun : Nat) (tally : Tally) (group : NodeGroup.Spec)
    (rest : List NodeGroup.Spec) : State :=
  { s with
    phase := .scanning { begun, tally, group, rest }
    calls := (s.now, group.name) :: s.calls }

/-- Ends a pass that began at `begun`. -/
def endPass (s : State) (begun : Nat) (tally : Tally) : State :=
  { s with
    phase := .waiting
    metrics := s.metrics.add (.cycle (seconds (s.now - begun))) }.emit [passLog tally]

/-- Goes on with a pass: to the scan of the next group, or to the end if there is none. -/
def advance (s : State) (begun : Nat) (tally : Tally) : List NodeGroup.Spec → State
  | [] => s.endPass begun tally
  | group :: rest => s.startScan begun tally group rest

/-- Measures and reports the outcome of a scan. -/
def takeOutcome (opts : RunOptions) (s : State) (group : NodeGroup.Spec) (outcome : Outcome) :
    State :=
  { s with metrics := s.metrics.add (outcomeRecord opts.dryMode group outcome) }.emit
    (outcomeLog opts.dryMode group outcome)

/-- Whether time may pass until an instant: not beyond a step that is due. -/
def mayReach (s : State) (instant : Nat) : Bool :=
  match s.phase with
  | .waiting => !s.signal.releases && instant ≤ s.timer.fires s.due
  | .ticked => false
  | .scanning _ => !s.signal.releases
  | .stopped => true

def step (opts : RunOptions) (s : State) : Label → Option State
  | .elapse nanos =>
    if s.mayReach (s.now + nanos) then some { s with now := s.now + nanos } else none
  | .close =>
    match s.signal.controlled, s.signal.close with
    | true, (signal, true) => some ({ s with signal }.emit [StopSignal.closeLog])
    | true, (signal, false) => some { s with signal }
    | false, _ => none
  | .abandon => some { s with signal := s.signal.dropController }
  | .tick =>
    match s.phase with
    | .waiting =>
      if s.timer.fires s.due ≤ s.now then
        some { s with phase := .ticked, due := nextDue opts.scanInterval.nanos s.due s.now }
      else none
    | _ => none
  | .begin =>
    match s.phase with
    | .ticked => some (s.advance s.now {} opts.nodeGroups)
    | _ => none
  | .scanned outcome =>
    match s.phase with
    | .scanning p =>
      some ((s.takeOutcome opts p.group outcome).advance p.begun (p.tally.add outcome) p.rest)
    | _ => none
  | .quit =>
    if s.signal.releases && s.phase != .stopped then
      some ({ s with phase := .stopped }.emit [stopLog])
    else none

/-- The loop at its start. The first tick is due at once or after one interval. -/
def start (opts : RunOptions) (immediately : Bool) (signal : StopSignal)
    (timer : Timer := .wholeMillis) : State :=
  let s : State := { timer, due := if immediately then 0 else opts.scanInterval.nanos, signal }
  s.emit [startLog opts]

/-- The state after steps in order, if all of them are possible. -/
def run (opts : RunOptions) (s : State) : List Label → Option State
  | [] => some s
  | l :: rest => (s.step opts l).bind fun s => s.run opts rest

end State

def State.history (s : State) : List (Nat × Log.Event) := s.log.reverse

end Autoscaler.ControlLoop
