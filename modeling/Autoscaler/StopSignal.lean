import Autoscaler.Log

/-!
# The stop signal

A signal that is open until it is closed once, for good. Its controller closes it, and any number
of views observe it. A view remembers the version of the signal that it saw last, so that a wait
that goes to sleep between two looks does not miss a change in between.
-/

namespace Autoscaler

structure StopSignal where
  closed : Bool := false
  /-- Whether the controller still exists; without it nothing will ever change. -/
  controlled : Bool := true
  version : Nat := 0
deriving DecidableEq, Repr

namespace StopSignal

/-- Whether whoever waits for the signal may go on. -/
def releases (s : StopSignal) : Bool := s.closed || !s.controlled

/-- Closes the signal. Tells whether it was open. -/
def close (s : StopSignal) : StopSignal × Bool :=
  if s.closed then (s, false) else ({ s with closed := true, version := s.version + 1 }, true)

def dropController (s : StopSignal) : StopSignal := { s with controlled := false }

def closeLog : Log.Event := ⟨.info, .stopSignal, "Shutdown signal sent", []⟩

/-- Where a wait on a view has got to. Between its steps anything may happen to the signal. -/
inductive Wait where
  /-- About to look whether the signal is closed. -/
  | looking
  /-- Has seen the signal open, and is about to ask for a change since. -/
  | asking
  /-- Asleep until it is woken; it goes on only if it was. -/
  | asleep (woken : Bool)
deriving DecidableEq, Repr

/-- A view: the version that it saw last, and the wait on it if there is one. -/
structure View where
  seen : Nat
  wait : Option Wait := none
deriving DecidableEq, Repr

def subscribe (s : StopSignal) : View := { seen := s.version }

namespace View

/-- The next step of the wait on a view, which is over if the signal is seen closed or will never
change. -/
def proceed (s : StopSignal) (v : View) : View :=
  match v.wait with
  | none => v
  | some .looking => ⟨s.version, if s.closed then none else some .asking⟩
  | some .asking =>
    if s.version ≠ v.seen then ⟨s.version, some .looking⟩
    else { v with wait := if s.controlled then some (.asleep false) else none }
  | some (.asleep true) => { v with wait := some .asking }
  | some (.asleep false) => v

/-- Polls the wait on a view: it goes on until it is over or asleep, for which it needs five steps at
most. -/
def poll (s : StopSignal) (v : View) : View := Nat.repeat (proceed s) 5 v

def wake (v : View) : View :=
  { v with wait := v.wait.map fun
      | .asleep _ => .asleep true
      | w => w }

end View

/-- A signal with its numbered views; those that were dropped are gone. -/
structure Hub where
  signal : StopSignal := {}
  views : List (Option View) := [some { seen := 0 }]
  /-- What was logged, latest first. -/
  log : List Log.Event := []

/-- What is done with a signal, its controller and its views. -/
inductive Call where
  | close
  | dropController
  | subscribe
  | clone (i : Nat)
  /-- Asks whether the signal is closed. -/
  | check (i : Nat)
  /-- Begins a wait on a view. -/
  | begin (i : Nat)
  /-- Lets the wait on a view take one step. -/
  | proceed (i : Nat)
  | poll (i : Nat)
  /-- Gives up the wait on a view. -/
  | abandon (i : Nat)
  | drop (i : Nat)
deriving DecidableEq, Repr

inductive Reply where
  | nothing
  | flag (b : Bool)
  | view (number : Nat)
deriving DecidableEq, Repr

namespace Hub

def view? (h : Hub) (i : Nat) : Option View := (h.views[i]?).join

def wait? (h : Hub) (i : Nat) : Option Wait := (h.view? i).bind View.wait

def setView (h : Hub) (i : Nat) (v : View) : Hub := { h with views := h.views.set i (some v) }

/-- Wakes all waits that are asleep. -/
def wakeAll (h : Hub) : Hub := { h with views := h.views.map (Option.map View.wake) }

/-- Adds a view; gives its number. -/
def addView (h : Hub) (v : View) : Hub × Nat :=
  ({ h with views := h.views ++ [some v] }, h.views.length)

def subscribe? (h : Hub) : Option (Hub × Nat) :=
  if h.signal.controlled then some (h.addView h.signal.subscribe) else none

/-- A view that has seen what another one has. -/
def clone? (h : Hub) (i : Nat) : Option (Hub × Nat) :=
  (h.view? i).map fun v => h.addView { v with wait := none }

def close? (h : Hub) : Option (Hub × Bool) :=
  if h.signal.controlled then
    let (signal, closed) := h.signal.close
    some (if closed then { h.wakeAll with signal, log := closeLog :: h.log } else h, closed)
  else none

def isClosed? (h : Hub) (i : Nat) : Option Bool := (h.view? i).map fun _ => h.signal.closed

/-- Begins a wait on a view without one. -/
def begin? (h : Hub) (i : Nat) : Option Hub :=
  (h.view? i).bind fun v =>
    if v.wait.isSome then none else some (h.setView i { v with wait := some .looking })

/-- Moves the wait on a view; tells whether it is over. -/
def move? (h : Hub) (move : StopSignal → View → View) (i : Nat) : Option (Hub × Bool) :=
  (h.view? i).bind fun v =>
    if v.wait.isSome then
      let v := move h.signal v
      some (h.setView i v, v.wait.isNone)
    else none

def abandon? (h : Hub) (i : Nat) : Option Hub :=
  (h.view? i).map fun v => h.setView i { v with wait := none }

/-- Polls a new wait on a view once and gives it up; tells whether it was over. -/
def pollOnce? (h : Hub) (i : Nat) : Option (Hub × Bool) := do
  let h ← h.begin? i
  let (h, ended) ← h.move? View.poll i
  let h ← h.abandon? i
  return (h, ended)

def drop (h : Hub) (i : Nat) : Hub := { h with views := h.views.set i none }

def dropController (h : Hub) : Hub :=
  { h.wakeAll with signal := h.signal.dropController }

/-- Makes a call; none is possible without the controller or view that it needs. -/
def call? (h : Hub) : Call → Option (Hub × Reply)
  | .close => h.close?.map fun (h, first) => (h, .flag first)
  | .dropController => some (h.dropController, .nothing)
  | .subscribe => h.subscribe?.map fun (h, i) => (h, .view i)
  | .clone i => (h.clone? i).map fun (h, j) => (h, .view j)
  | .check i => (h.isClosed? i).map fun b => (h, .flag b)
  | .begin i => (h.begin? i).map fun h => (h, .nothing)
  | .proceed i => (h.move? View.proceed i).map fun (h, ended) => (h, .flag ended)
  | .poll i => (h.move? View.poll i).map fun (h, ended) => (h, .flag ended)
  | .abandon i => (h.abandon? i).map fun h => (h, .nothing)
  | .drop i => some (h.drop i, .nothing)

def reply? (h : Hub) (c : Call) : Option Reply := (h.call? c).map Prod.snd

/-- The hub after calls in order, if all of them are possible. -/
def run (h : Hub) (calls : List Call) : Option Hub :=
  calls.foldlM (fun h c => (h.call? c).map Prod.fst) h

end Hub
end StopSignal
end Autoscaler
