import Autoscaler.CommandLine
import Autoscaler.Log.Filter
import Autoscaler.Daemon.Machine

/-!
# The end of the process

What the process leaves when it ends: an exit code, text on both outputs, and the log as far as a
filter lets it through.
-/

namespace Autoscaler.Daemon

structure Exit where
  code : Nat
  stdout : String := ""
  stderr : String := ""
  log : List String := []
deriving DecidableEq, Repr

def filterVariable : String := "RUST_LOG"

/-- The filter for the log: that of the environment if it can be read, else the log level. -/
def filterOf (env : List (String × String)) (level : LogLevel) : Log.Filter :=
  let given := (env.find? (·.1 == filterVariable)).bind fun v => Log.Filter.read? v.2
  given.getD (.upTo level.limit)

/-- The lines of the events that pass. -/
def logLines (f : Log.Filter) (events : List Log.Event) : List String :=
  (events.filter f.passes).flatMap fun e => e.line.splitOn "\n"

def filteredLog (env : List (String × String)) (o : Options) (events : List Log.Event) :
    List String :=
  match Settings.ofOptions o with
  | .ok s => logLines (filterOf env s.logLevel) events
  | .error _ => []

def Exit.ofOutcome (outcome : Except DaemonError Unit) (log : List String) : Exit :=
  match outcome with
  | .ok () => { code := 0, log }
  | .error e => { code := 1, stderr := e.report, log }

def Exit.ofStop (env : List (String × String)) : CommandLine.Stop → Exit
  | .help => { code := 0, stdout := CommandLine.helpText env }
  | .version => { code := 0, stdout := CommandLine.versionText }
  | _ => { code := 2 }

/-- How a process that a world has launched goes on: the steps up to its end. -/
abbrev Course := List Label

def exitWith (env : List (String × String)) (w : World) (course : Course) (o : Options) :
    Option Exit :=
  let l := launch w o
  match l.outcome with
  | .error e => some (.ofOutcome (.error e) (filteredLog env o l.log))
  | .ok (s, opts) => do
    let r ← (Running.ofLaunch s opts).run course
    let outcome ← r.outcome?
    return .ofOutcome outcome (filteredLog env o (l.log ++ r.log.reverse ++ [finalLog outcome]))

/-- The exit of a process with arguments and an environment, if it ends. -/
def exit? (args : List String) (env : List (String × String)) (w : World) (course : Course) :
    Option Exit :=
  match CommandLine.read args env with
  | .error stop => some (.ofStop env stop)
  | .ok o => exitWith env w course o

end Autoscaler.Daemon
