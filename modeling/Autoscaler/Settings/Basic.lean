import Autoscaler.Credentials
import Autoscaler.Duration
import Autoscaler.Net.SocketAddress
import Autoscaler.Settings.LogLevel

/-!
# Settings

What the process is asked to do: the options as they are given, and the settings that they amount
to if all of them make sense.
-/

namespace Autoscaler

structure Options where
  logLevel : Int64 := 4
  address : String := ":8080"
  scanInterval : String := "60s"
  kubeconfig : Option String := none
  nodeGroups : String
  dryMode : Bool := false
deriving DecidableEq, Repr

inductive SettingsError where
  | logLevel (given : Int64)
  | address (given : String) (reason : Net.AddressError)
  | scanInterval (given : String)
deriving DecidableEq, Repr

def SettingsError.message : SettingsError → String
  | logLevel n =>
    "Invalid log level " ++ Text.ofInt n.toInt ++
      " provided. Must be between 0 (Critical) and 5 (Debug)"
  | address given reason => "Invalid listen address '" ++ given ++ "': " ++ reason.message
  | scanInterval given =>
    "Invalid scan interval '" ++ given ++
      "': must be a positive duration such as '30s', '1m30s' or '1h'"

structure Settings where
  logLevel : LogLevel
  address : Net.SocketAddress
  scanInterval : Duration
  kubeconfig : Option String
  nodeGroupsPath : String
  dryMode : Bool
deriving DecidableEq, Repr

namespace Settings

/-- The settings that options amount to. The log level is checked first, then the address, then
the interval. -/
def ofOptions (o : Options) : Except SettingsError Settings :=
  match LogLevel.ofNumber? o.logLevel with
  | none => .error (.logLevel o.logLevel)
  | some logLevel =>
    match Net.SocketAddress.parse o.address with
    | .error reason => .error (.address o.address reason)
    | .ok address =>
      match Duration.parse? o.scanInterval with
      | none => .error (.scanInterval o.scanInterval)
      | some scanInterval =>
        .ok { logLevel, address, scanInterval, kubeconfig := o.kubeconfig
              nodeGroupsPath := o.nodeGroups, dryMode := o.dryMode }

def credentialMode (s : Settings) : CredentialMode := .ofKubeconfig s.kubeconfig

end Settings
end Autoscaler
