import Autoscaler.Daemon.Error

/-!
# Launching the process

From options to what the process runs with. Options that make no sense end the launch before
anything outside the process is touched.
-/

namespace Autoscaler.Daemon

inductive Act where
  | resolveCredentials (mode : CredentialMode)
  | openConfig (path : String)
  | bind (address : Net.SocketAddress)
  | scan (group : String)
deriving DecidableEq, Repr

structure World where
  resolve : CredentialMode → Credentials.Resolution
  openPath : String → Except Files.Fault Files.File

/-- What comes of a launch: what was done and logged, and whether the process can run. -/
structure Launch where
  outcome : Except DaemonError (Settings × ControlLoop.RunOptions)
  acts : List Act := []
  log : List Log.Event := []

def startingLog (s : Settings) : Log.Event :=
  ⟨.info, .process, "Starting nodescaler", [("level", .shown s.logLevel.name)]⟩

def metricsLog : Log.Event := ⟨.info, .process, "Prometheus metrics registry initialized", []⟩

/-- The acts of a startup: the configuration is opened only after credentials are found. -/
def startupActs (w : World) (s : Settings) : List Act :=
  .resolveCredentials s.credentialMode ::
    match (w.resolve s.credentialMode).outcome with
    | .ok () => [.openConfig s.nodeGroupsPath]
    | .error _ => []

def launchWith (w : World) (s : Settings) : Launch :=
  let p := Startup.prepare w.resolve w.openPath s
  { outcome := (p.outcome.map fun opts => (s, opts)).mapError .startup
    acts := startupActs w s
    log := startingLog s :: p.log ++ match p.outcome with
      | .ok _ => [metricsLog]
      | .error _ => [] }

def launch (w : World) (o : Options) : Launch :=
  match Settings.ofOptions o with
  | .error reason => { outcome := .error (.settings reason) }
  | .ok s => launchWith w s

end Autoscaler.Daemon
