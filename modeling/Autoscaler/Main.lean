import Autoscaler.Cluster.Scan
import Autoscaler.Daemon.Exit

/-!
# The program

Reads the arguments, the environment and the files that they name, launches the process, and runs
the control loop until the process is ended from outside. All decisions are made elsewhere. No
connection to a cluster is made from here, so every scan meets a cluster that does not answer.
-/

namespace Autoscaler.Main

def variableNames : List String :=
  CommandLine.Opt.all.map CommandLine.Opt.envName ++
    [Credentials.hostVariable, Credentials.portVariable, Daemon.filterVariable]

def readEnvironment : IO (List (String × String)) := do
  let found ← variableNames.mapM fun name => do
    return (← IO.getEnv name).map fun value => (name, value)
  return found.filterMap id

def faultOf : IO.Error → Files.Fault
  | .noFileOrDirectory _ _ _ => .notFound
  | .inappropriateType _ 21 _ => .isADirectory
  | .inappropriateType _ _ _ => .notADirectory
  | _ => .notFound

def openReal (path : String) : IO (Except Files.Fault Files.File) := do
  if path.toList.contains '\x00' then return .error .containsNul
  try
    return .ok (.regular (← IO.FS.readBinFile path).toList)
  catch e =>
    match faultOf e with
    | .isADirectory => return .ok .directory
    | fault => return .error fault

def pathsOf (o : Options) : List String :=
  let credentials := match CredentialMode.ofKubeconfig o.kubeconfig with
    | .inCluster => Credentials.namespacePath
    | .outOfCluster path => path
  [credentials, o.nodeGroups]

def realWorld (env : List (String × String)) (o : Options) : IO Daemon.World := do
  let opened ← (pathsOf o).mapM fun path => return (path, ← openReal path)
  let openPath := fun path =>
    ((opened.find? (·.1 == path)).map Prod.snd).getD (.error .notFound)
  return { resolve := Credentials.resolve { environment := env, openPath }, openPath }

/-- Prints the lines of events. -/
def printLog (f : Log.Filter) (events : List Log.Event) : IO Unit := do
  for line in Daemon.logLines f events do
    IO.println line
  (← IO.getStdout).flush

def nextSteps (begun : Nat) (s : ControlLoop.State) : IO (List ControlLoop.Label) := do
  match s.phase with
  | .scanning p =>
    let outcome := (Cluster.scan (fun _ => none) p.group).result
    return [.scanned outcome]
  | _ =>
    let now := (← IO.monoNanosNow) - begun
    IO.sleep ((s.timer.fires s.due - now) / 1000000).toUInt32
    return [.elapse (s.timer.fires s.due - s.now), .tick, .begin]

partial def serve (opts : ControlLoop.RunOptions) (f : Log.Filter) (begun : Nat)
    (s : ControlLoop.State) : IO UInt32 := do
  match s.run opts (← nextSteps begun s) with
  | none => return 1
  | some next =>
    let fresh := next.log.take (next.log.length - s.log.length)
    printLog f (fresh.reverse.map Prod.snd)
    serve opts f begun next

def launch (env : List (String × String)) (o : Options) : IO UInt32 := do
  let world ← realWorld env o
  let l := Daemon.launch world o
  for line in Daemon.filteredLog env o l.log do
    IO.println line
  match l.outcome with
  | .error e =>
    IO.eprint e.report
    return 1
  | .ok (s, opts) =>
    let f := Daemon.filterOf env s.logLevel
    let loop := ControlLoop.State.start opts true {}
    printLog f (loop.log.map Prod.snd)
    serve opts f (← IO.monoNanosNow) loop

end Autoscaler.Main

def main (args : List String) : IO UInt32 := do
  let env ← Autoscaler.Main.readEnvironment
  match Autoscaler.CommandLine.read args env with
  | .error stop =>
    let e := Autoscaler.Daemon.Exit.ofStop env stop
    IO.print e.stdout
    return e.code.toUInt32
  | .ok o => Autoscaler.Main.launch env o
