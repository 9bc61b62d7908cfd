import Autoscaler.StopSignal

/-!
# The life of the process

Three activities run side by side: a watcher that closes the stop signal once a termination comes, a
server for metrics, and a driver that does the work. A coordinator starts them, waits for the
driver, and then joins the other two. The machine here takes their steps in any order. Where the
driver and the stop signal are ready together, the coordinator may see either first, and between any
two looks of the coordinator at the signal or at a task the others may go on.
-/

namespace Autoscaler.Lifecycle

/-- The state that the coordinator publishes. -/
inductive Published where
  | starting
  | running
  | shuttingDown
  | stopped
deriving DecidableEq, Repr

namespace Published

def name : Published → String
  | starting => "Starting"
  | running => "Running"
  | shuttingDown => "ShuttingDown"
  | stopped => "Stopped"

def event (p : Published) : Log.Event :=
  ⟨.info, .lifecycle, "Lifecycle state changed", [("state", .shown p.name)]⟩

end Published

inductive Termination where
  | signal (name : String)
  /-- Signals cannot be watched. -/
  | failed (reason : String)
  | panicked
deriving DecidableEq, Repr

namespace Termination

def log : Termination → List Log.Event
  | signal name =>
    [⟨.info, .lifecycle, "Stopping autoscaler gracefully", [("signal", .name name)]⟩]
  | failed reason =>
    [⟨.error, .lifecycle, "Termination watcher failed, stopping", [("error", .shown reason)]⟩]
  | panicked => []

/-- The watcher's last act: it closes the stop signal, unless it panics, and lets go of it. Tells
whether the signal was open and is closed now. -/
def act (t : Termination) (s : StopSignal) : StopSignal × Bool :=
  match t with
  | panicked => (s.dropController, false)
  | _ => (s.close.1.dropController, s.close.2)

end Termination

inductive ServerEnd where
  | finished
  | failed (reason : String)
  | panicked (message : String)
deriving DecidableEq, Repr

namespace ServerEnd

def log : ServerEnd → List Log.Event
  | failed reason => [⟨.warn, .lifecycle, "Metrics server failed", [("error", .shown reason)]⟩]
  | _ => []

/-- What is logged of the end when the server's task, which has a number, is joined. -/
def joinLog (task : Nat) : ServerEnd → List Log.Event
  | panicked message =>
    let error := "task " ++ Text.ofNat task ++ " panicked with message " ++ Text.quoted message
    [⟨.warn, .lifecycle, "Metrics server task failed", [("error", .shown error)]⟩]
  | _ => []

end ServerEnd

inductive Watcher where
  | waiting
  /-- It has done its last act, but cannot be joined yet. -/
  | ending (t : Termination)
  | finished (t : Termination)
  | cancelled
deriving DecidableEq, Repr

inductive Server where
  | running
  | cancelled
  | ended (e : ServerEnd)
deriving DecidableEq, Repr

/-- What the coordinator has done with a task that it has started. -/
structure Handle where
  /-- The task is to be cancelled where it waits next. -/
  aborted : Bool := false
  /-- The end of the task was waited for. -/
  joined : Bool := false
deriving DecidableEq, Repr

inductive LifecycleError where
  | signalRegistration (reason : String)
  | watcherFailed
deriving DecidableEq, Repr

def LifecycleError.message : LifecycleError → String
  | signalRegistration reason => "Failed to register termination signal handler: " ++ reason
  | watcherFailed => "Termination watcher task failed"

abbrev Outcome := Except LifecycleError Unit

/-- Where the coordinator stands. -/
inductive Stage where
  | created
  /-- The others are started, and nothing is announced. -/
  | launched
  /-- It waits for the driver or the stop signal, whichever comes first. -/
  | selecting
  /-- It waits for the driver, after the stop signal. -/
  | draining
  /-- The driver has returned before the stop signal was seen. -/
  | returnedEarly
  /-- The driver has returned. A closed signal means that the watcher is to be joined. -/
  | judging
  /-- The signal was open. A watcher that has finished is to be joined all the same. -/
  | probing
  | joiningWatcher
  /-- With the outcome at hand it turns to the server, which ends by itself if the signal is
  closed. -/
  | turning (outcome : Outcome)
  | joiningServer (outcome : Outcome)
  | returned (outcome : Outcome)

/-- The coordinator and the activities around it. -/
structure State where
  stage : Stage := .created
  published : Published := .starting
  ready : Bool := false
  signal : StopSignal := {}
  watcher : Watcher := .waiting
  watcherHandle : Handle := {}
  server : Server := .running
  serverHandle : Handle := {}
  /-- Whether the driver returns when it is polled next. -/
  driverReady : Bool := false
  driverReturned : Bool := false
  /-- How many tasks the process has started before this life. -/
  earlierTasks : Nat := 0
  log : List Log.Event := []

/-- A step of one of the activities or of the coordinator. -/
inductive Label where
  | spawn
  | announce
  | terminate (t : Termination)
  /-- The watcher's task can be joined. -/
  | watcherFinish
  /-- The watcher's task is cancelled as was asked. -/
  | watcherCancel
  | serverEnd (e : ServerEnd)
  /-- The server's task is cancelled as was asked. -/
  | serverCancel
  | driverReady
  /-- The coordinator polls the driver, which returns if it is ready. -/
  | pollDriver
  | seeStop
  /-- The coordinator looks at the signal or at the watcher and goes on without waiting. -/
  | proceed
  | joinWatcher
  | joinServer
deriving DecidableEq, Repr

namespace State

def enter (s : State) (p : Published) : State :=
  { s with published := p, log := p.event :: s.log }

def watch (s : State) (t : Termination) : State :=
  let (signal, closed) := t.act s.signal
  { s with
    watcher := .ending t
    signal
    log := (if closed then [StopSignal.closeLog] else []) ++ t.log ++ s.log }

/-- The outcome that a termination decides. -/
def terminationOutcome : Termination → Outcome
  | .signal _ => .ok ()
  | .failed reason => .error (.signalRegistration reason)
  | .panicked => .error .watcherFailed

/-- The outcome that the watcher decides, if its task can be joined. -/
def watcherOutcome? (s : State) : Option Outcome :=
  match s.watcher with
  | .finished t => some (terminationOutcome t)
  | .cancelled => some (.error .watcherFailed)
  | _ => none

/-- The number of the server's task. Tasks are numbered from one on in the order in which the whole
process starts them, and the watcher's task is started just before the server's. -/
def serverTask (s : State) : Nat := s.earlierTasks + 2

def beginShutdown (s : State) : State := { s.enter .shuttingDown with ready := false }

/-- What is logged where the driver returns before the signal closes. -/
def earlyReturnLog : Log.Event :=
  ⟨.warn, .lifecycle, "Control loop returned before the stop signal closed", []⟩

/-- A look at the signal after the driver has returned before it was seen. -/
def noteEarlyReturn (s : State) : State :=
  { s with
    stage := .judging
    log := (if s.signal.closed then [] else [earlyReturnLog]) ++ s.log }

/-- The watcher is not waited for. -/
def abortWatcher (s : State) : State :=
  { s with stage := .turning (.ok ()), watcherHandle := { s.watcherHandle with aborted := true } }

/-- The server does not end by itself unless the signal is closed. -/
def turnToServer (s : State) (outcome : Outcome) : State :=
  { s with
    stage := .joiningServer outcome
    serverHandle := { s.serverHandle with aborted := s.serverHandle.aborted || !s.signal.closed } }

def conclude (s : State) (outcome : Outcome) : State :=
  { s.enter .stopped with
    stage := .returned outcome
    serverHandle := { s.serverHandle with joined := true } }

/-- The state after a step that the coordinator takes without waiting. -/
def proceed? (s : State) : Option State :=
  match s.stage with
  | .returnedEarly => some s.noteEarlyReturn
  | .judging => some { s with stage := if s.signal.closed then .joiningWatcher else .probing }
  | .probing =>
    if s.watcherOutcome?.isSome then some { s with stage := .joiningWatcher }
    else some s.abortWatcher
  | .turning outcome => some (s.turnToServer outcome)
  | _ => none

def pollDriver? (s : State) : Option State :=
  match s.stage with
  | .selecting =>
    if s.driverReady then some { s.beginShutdown with driverReturned := true, stage := .returnedEarly }
    else some s
  | .draining =>
    if s.driverReady then some { s with driverReturned := true, stage := .judging } else some s
  | _ => none

/-- The state after a step, if the step is possible. -/
def step (s : State) : Label → Option State
  | .spawn =>
    match s.stage with
    | .created => some { s with stage := .launched }
    | _ => none
  | .announce =>
    match s.stage with
    | .launched => some { s.enter .running with ready := true, stage := .selecting }
    | _ => none
  | .terminate t =>
    match s.stage, s.watcher with
    | .created, _ => none
    | _, .waiting => some (s.watch t)
    | _, _ => none
  | .watcherFinish =>
    match s.watcher with
    | .ending t => some { s with watcher := .finished t }
    | _ => none
  | .watcherCancel =>
    match s.watcher with
    | .waiting =>
      if s.watcherHandle.aborted then
        some { s with watcher := .cancelled, signal := s.signal.dropController }
      else none
    | _ => none
  | .serverEnd e =>
    match s.stage, s.server with
    | .created, _ => none
    | _, .running => some { s with server := .ended e, log := e.log ++ s.log }
    | _, _ => none
  | .serverCancel =>
    match s.server with
    | .running => if s.serverHandle.aborted then some { s with server := .cancelled } else none
    | _ => none
  | .driverReady => some { s with driverReady := true }
  | .pollDriver => s.pollDriver?
  | .seeStop =>
    match s.stage with
    | .selecting =>
      if s.signal.releases then some { s.beginShutdown with stage := .draining } else none
    | _ => none
  | .proceed => s.proceed?
  | .joinWatcher =>
    match s.stage with
    | .joiningWatcher => s.watcherOutcome?.map fun outcome =>
      { s with
        stage := .turning outcome
        watcherHandle := { s.watcherHandle with joined := true } }
    | _ => none
  | .joinServer =>
    match s.stage, s.server with
    | .joiningServer outcome, .ended e =>
      some ({ s with log := e.joinLog s.serverTask ++ s.log }.conclude outcome)
    | .joiningServer outcome, .cancelled => some (s.conclude outcome)
    | _, _ => none

/-- The state after steps in order, if all of them are possible. -/
def run (s : State) : List Label → Option State
  | [] => some s
  | l :: rest => (s.step l).bind fun s => s.run rest

end State
end Autoscaler.Lifecycle
