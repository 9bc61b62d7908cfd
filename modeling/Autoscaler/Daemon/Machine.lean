import Autoscaler.ControlLoop.Machine
import Autoscaler.Daemon.Launch

/-!
# The running process

After a launch the coordinator runs with the control loop as its driver and the server of metrics
beside it. The machine puts the two machines together: the loop moves only while the coordinator
waits for it, it sees the coordinator's stop signal, and its end is the return of the driver.
-/

namespace Autoscaler.Daemon

/-- The process between its launch and its end. What was done and logged is kept latest first. -/
structure Running where
  settings : Settings
  opts : ControlLoop.RunOptions
  life : Lifecycle.State := {}
  loop : Option ControlLoop.State := none
  bound : Bool := false
  acts : List Act := []
  log : List Log.Event := []

inductive Label where
  | life (l : Lifecycle.Label)
  | startLoop
  | loop (l : ControlLoop.Label)
  | bind (fault : Option String)

def receivedLog (signal : String) : Log.Event :=
  ⟨.info, .stopSignal, "Signal received", [("signal", .name signal)]⟩

namespace Running

def ofLaunch (s : Settings) (opts : ControlLoop.RunOptions) : Running := { settings := s, opts }

def attends (r : Running) : Bool :=
  match r.life.stage with
  | .selecting => true
  | .draining => true
  | _ => false

/-- Takes over a new state of the coordinator, and shows its signal to the loop. -/
def setLife (r : Running) (life : Lifecycle.State) : Running :=
  let fresh := life.log.take (life.log.length - r.life.log.length)
  { r with
    life
    loop := r.loop.map fun s => { s with signal := life.signal }
    log := fresh ++ r.log }

/-- Takes over a new state of the loop. A loop that has stopped is a driver that returns. -/
def setLoop (r : Running) (before : ControlLoop.State) (s : ControlLoop.State) : Running :=
  let fresh := s.log.take (s.log.length - before.log.length)
  let calls := s.calls.take (s.calls.length - before.calls.length)
  { r with
    loop := some s
    life := { r.life with driverReady := s.phase = .stopped }
    acts := calls.map (fun c => .scan c.2) ++ r.acts
    log := fresh.map Prod.snd ++ r.log }

/-- Steps of the loop that it takes by itself or that time and scans bring. -/
def isLoopStep : ControlLoop.Label → Bool
  | .close => false
  | .abandon => false
  | _ => true

/-- The state after a step of the coordinator, the watcher or the server. -/
def stepLife (r : Running) (l : Lifecycle.Label) : Option Running :=
  match l with
  | .driverReady => none
  | .terminate (.signal name) =>
    (r.life.step l).map ({ r with log := receivedLog name :: r.log }.setLife ·)
  | l => (r.life.step l).map r.setLife

def step (r : Running) : Label → Option Running
  | .life l => r.stepLife l
  | .startLoop =>
    match r.loop with
    | some _ => none
    | none =>
      if r.attends then
        let s := ControlLoop.State.start r.opts true r.life.signal
        some { r with loop := some s, log := s.log.map Prod.snd ++ r.log }
      else none
  | .loop l =>
    match r.loop with
    | some s =>
      if r.attends && isLoopStep l then (s.step r.opts l).map (r.setLoop s) else none
    | none => none
  | .bind fault =>
    match r.life.stage, r.life.server, r.bound with
    | .created, _, _ => none
    | _, .running, false =>
      let r := { r with bound := true, acts := .bind r.settings.address :: r.acts }
      match fault with
      | none => some r
      | some reason => (r.life.step (.serverEnd (.failed reason))).map r.setLife
    | _, _, _ => none

/-- The state after steps in order, if all of them are possible. -/
def run (r : Running) : List Label → Option Running
  | [] => some r
  | l :: rest => (r.step l).bind fun r => r.run rest

def outcome? (r : Running) : Option (Except DaemonError Unit) :=
  match r.life.stage with
  | .returned outcome => some (outcome.mapError .life)
  | _ => none

end Running

def finalLog : Except DaemonError Unit → Log.Event
  | .ok () => ⟨.info, .process, "nodescaler shut down gracefully", []⟩
  | .error e =>
    ⟨.error, .process, "Shutdown could not be coordinated", [("error", .shown e.message)]⟩

/-- A life in which a signal comes during the first pass and everything ends in order. -/
def interruption (signal : String) : List Label := [
  .life .spawn, .life .announce, .startLoop, .bind none, .loop .tick,
  .life (.terminate (.signal signal)), .life .seeStop, .loop .quit, .life .pollDriver,
  .life .proceed, .life .watcherFinish, .life .joinWatcher, .life .proceed,
  .life (.serverEnd .finished), .life .joinServer]

end Autoscaler.Daemon
