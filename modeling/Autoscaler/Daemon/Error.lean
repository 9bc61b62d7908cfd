import Autoscaler.Lifecycle.Machine
import Autoscaler.Startup

/-!
# Errors of the process

Why the process ends with an error, and the text that it leaves then: the error itself and, below
it, the errors behind it.
-/

namespace Autoscaler.Daemon

inductive DaemonError where
  | settings (reason : SettingsError)
  | startup (reason : Startup.StartupError)
  | life (reason : Lifecycle.LifecycleError)

namespace DaemonError

def message : DaemonError → String
  | settings reason => reason.message
  | startup reason => reason.message
  | life reason => reason.message

def causes : DaemonError → List String
  | settings _ => []
  | startup reason => reason.causes
  | life (.signalRegistration reason) => [reason]
  | life .watcherFailed => []

/-- A text whose later lines stand below the first one, after a margin of blanks. -/
def hang (margin : Nat) (text : String) : String :=
  ("\n" ++ String.ofList (List.replicate margin ' ')).intercalate (text.splitOn "\n")

def renderCauses : List String → String
  | [] => ""
  | [cause] => "\n\nCaused by:\n    " ++ hang 4 cause
  | causes =>
    "\n\nCaused by:" ++ String.join (causes.zipIdx.map fun (cause, i) =>
      "\n    " ++ Text.ofNat i ++ ": " ++ hang 7 cause)

def report (e : DaemonError) : String :=
  "Error: " ++ e.message ++ renderCauses e.causes ++ "\n"

end DaemonError
end Autoscaler.Daemon
