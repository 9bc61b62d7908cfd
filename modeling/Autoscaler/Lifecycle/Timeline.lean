import Autoscaler.Lifecycle.Machine

/-!
# Lives against a plan

A plan says when and how each activity ends. Against it the process has one life, in which time
jumps from one event to the next. A watcher that has done its last act ends at once, before anyone
looks at its task. Then the coordinator goes first, sees the stop signal before the driver, and goes
on as far as it can.
-/

namespace Autoscaler.Lifecycle

inductive Deadline where
  | never
  | afterStart (millis : Nat)
  /-- So many after the stop signal has released those who wait for it. -/
  | afterStop (millis : Nat)
deriving DecidableEq, Repr

structure Plan where
  terminateAt : Option Nat
  termination : Termination := .panicked
  serverEnds : Deadline
  serverEnd : ServerEnd := .finished
  driverReturns : Deadline
  earlierTasks : Nat := 0

/-- A life at an instant: the machine, and the times of what has happened. -/
structure Moment where
  now : Nat := 0
  state : State
  releasedAt : Option Nat := none
  driverReturnedAt : Option Nat := none
  log : List (Nat × Log.Event) := []

def Deadline.instant (d : Deadline) (releasedAt : Option Nat) : Option Nat :=
  match d with
  | .never => none
  | .afterStart millis => some millis
  | .afterStop millis => releasedAt.map (· + millis)

namespace Plan

def next? (p : Plan) (m : Moment) : Option Label :=
  let reached := fun (t : Option Nat) => t.any (· ≤ m.now)
  let s := m.state
  let ready := s.driverReady || reached (p.driverReturns.instant m.releasedAt)
  let ended := reached (p.serverEnds.instant m.releasedAt)
  let candidates : List (Bool × Label) := [
    (true, .watcherFinish), (true, .spawn), (true, .announce), (true, .proceed), (true, .seeStop),
    (!s.driverReady && ready, .driverReady), (s.driverReady, .pollDriver), (true, .joinWatcher),
    (true, .serverCancel), (true, .watcherCancel),
    (reached p.terminateAt, .terminate p.termination), (ended, .serverEnd p.serverEnd),
    (true, .joinServer)]
  candidates.findSome? fun (possible, l) =>
    if possible && (s.step l).isSome then some l else none

def advance (m : Moment) (l : Label) : Moment :=
  match m.state.step l with
  | none => m
  | some s =>
    let fresh := s.log.take (s.log.length - m.state.log.length)
    { m with
      state := s
      releasedAt := m.releasedAt.orElse fun _ => if s.signal.releases then some m.now else none
      driverReturnedAt :=
        m.driverReturnedAt.orElse fun _ => if s.driverReturned then some m.now else none
      log := fresh.map (fun e => (m.now, e)) ++ m.log }

/-- Takes all steps that are possible at the present instant, at most `fuel` of them. -/
def settle (p : Plan) : Nat → Moment → Moment
  | 0, m => m
  | fuel + 1, m =>
    match p.next? m with
    | none => m
    | some l => settle p fuel (advance m l)

/-- The first instant after the present one at which an activity ends. -/
def nextInstant (p : Plan) (m : Moment) : Option Nat :=
  let times := [p.terminateAt, p.serverEnds.instant m.releasedAt,
    p.driverReturns.instant m.releasedAt]
  (times.filterMap id).filter (m.now < ·) |>.min?

/-- How many steps a life can have: each activity has a few. -/
def maxSteps : Nat := 20

def isOver (m : Moment) : Bool :=
  match m.state.stage with
  | .returned _ => true
  | _ => false

/-- The life up to an instant, without what happens at the instant itself. -/
def before (p : Plan) (instant : Nat) : Nat → Moment → Moment
  | 0, m => m
  | fuel + 1, m =>
    if instant ≤ m.now then m
    else
      let m := p.settle maxSteps m
      match p.nextInstant m with
      | some t => if t < instant then before p instant fuel { m with now := t } else
          { m with now := instant }
      | none => { m with now := instant }

def birth (p : Plan) : Moment := { state := { earlierTasks := p.earlierTasks } }

def finish (p : Plan) (limit : Nat) : Nat → Moment → Moment
  | 0, m => m
  | fuel + 1, m =>
    let m := p.settle maxSteps m
    if isOver m then m
    else match p.nextInstant m with
      | some t => if t < limit then finish p limit fuel { m with now := t } else
          { m with now := limit }
      | none => { m with now := limit }

/-- The moments at which a life is looked at, in order of time. -/
def probe (p : Plan) : Moment → List Nat → List Moment
  | _, [] => []
  | m, t :: rest =>
    let m := p.before t maxSteps m
    m :: probe p m rest

end Plan
end Autoscaler.Lifecycle
