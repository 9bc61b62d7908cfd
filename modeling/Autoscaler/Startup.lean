import Autoscaler.ControlLoop.Pass
import Autoscaler.Credentials.Resolution
import Autoscaler.NodeGroup.Decode
import Autoscaler.NodeGroup.Report
import Autoscaler.Settings.Basic

/-!
# Startup

Before the control loop runs, credentials are resolved, the node groups are read, and all of them
are checked, in this order. The first stage that fails ends the startup.
-/

namespace Autoscaler.Startup

inductive LoadError where
  | cannotOpen (path : String) (fault : Files.Fault)
  | undecodable (reason : NodeGroup.DecodeError)

def LoadError.message : LoadError → String
  | cannotOpen path fault => "Failed to open config file " ++ path ++ ": " ++ fault.message
  | undecodable reason => reason.message

/-- Why the process does not start. -/
inductive StartupError where
  | credentials (reason : Credentials.CredentialError)
  | load (reason : LoadError)
  | invalid (path : String) (report : NodeGroup.Report)

namespace StartupError

def message : StartupError → String
  | credentials reason => reason.message
  | load reason => reason.message
  | invalid path report =>
    "There are " ++ Text.ofNat report.errorCount ++
      " problems when validating the node groups. Please check " ++ path ++ "\n" ++ report.render

def causes : StartupError → List String
  | credentials reason => reason.causes
  | load (.cannotOpen _ fault) => [fault.message]
  | _ => []

end StartupError

def decodeFile (path : String) (file : Except Files.Fault Files.File) :
    Except LoadError (List NodeGroup.Spec) :=
  match file with
  | .error fault => .error (.cannotOpen path fault)
  | .ok file =>
    match file.read with
    | .error fault => .error (.undecodable (.unreadable fault.message))
    | .ok bytes => (NodeGroup.decode bytes).mapError .undecodable

/-- What comes of a startup: what the control loop runs with, and what is logged. -/
structure Preparation where
  outcome : Except StartupError ControlLoop.RunOptions
  log : List Log.Event

/-- Logs events before those of a preparation. -/
def Preparation.after (events : List Log.Event) (p : Preparation) : Preparation :=
  { p with log := events ++ p.log }

def fail (error : StartupError) (log : List Log.Event) : Preparation := ⟨.error error, log⟩

def registration (dryMode : Bool) (group : NodeGroup.Spec) : Log.Event :=
  ⟨.info, .bootstrap, "Registered node group",
    [("nodegroup", .shown group.name), ("dry_mode", .flag (group.effectiveDryMode dryMode))]⟩

def accept (s : Settings) (groups : List NodeGroup.Spec) : Preparation :=
  let report := NodeGroup.Report.ofSpecs groups
  Preparation.after (NodeGroup.Report.log groups) <|
    if report.isOk then
      { outcome := .ok {
          scanInterval := s.scanInterval, nodeGroups := groups, dryMode := s.dryMode }
        log := groups.map (registration s.dryMode) }
    else
      fail (.invalid s.nodeGroupsPath report)
        [⟨.error, .bootstrap, "Node group validation failed",
          [("problems", .number report.errorCount),
            ("node_groups", .number report.failures.length), ("path", .shown s.nodeGroupsPath)]⟩]

def load (s : Settings) (file : Except Files.Fault Files.File) : Preparation :=
  match decodeFile s.nodeGroupsPath file with
  | .ok groups => accept s groups
  | .error e =>
    fail (.load e)
      [⟨.error, .bootstrap, "Failed to load node group config",
        [("error", .shown e.message), ("path", .shown s.nodeGroupsPath)]⟩]

/-- Starts up with what resolving credentials comes to and what a path leads to. -/
def prepare (resolve : CredentialMode → Credentials.Resolution)
    (openPath : String → Except Files.Fault Files.File) (s : Settings) : Preparation :=
  let resolution := resolve s.credentialMode
  Preparation.after resolution.log <|
    match resolution.outcome with
    | .ok () => load s (openPath s.nodeGroupsPath)
    | .error e =>
      fail (.credentials e)
        [⟨.error, .bootstrap, "Failed to create Kubernetes client",
          [("error", .shown e.message)]⟩]

end Autoscaler.Startup
