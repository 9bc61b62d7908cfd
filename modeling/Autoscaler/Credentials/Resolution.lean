import Autoscaler.Credentials
import Autoscaler.Credentials.Kubeconfig
import Autoscaler.Log
import Autoscaler.Net.Ip

/-!
# Resolving credentials

A client is made from a kubeconfig or from what the cluster gives to the process: two variables of
its environment and some files. Failures are final.
-/

namespace Autoscaler.Credentials

/-- Why the environment of the process does not lead to its cluster. -/
inductive InClusterError where
  | missingVariable
  | badPort (reason : Text.NumberFault)
  | badServer (fault : Net.Uri.Fault)
  | noNamespace (fault : Files.Fault)
deriving DecidableEq, Repr

/-- The text of an error, with the error behind it if there is one. -/
def InClusterError.messages : InClusterError → List String
  | missingVariable => caused "failed to read an incluster environment variable"
      "environment variable not found"
  | badPort reason => caused "failed to parse cluster port" reason.message
  | badServer fault => caused "failed to parse cluster url" fault.message
  | noNamespace fault => caused "failed to read the default namespace" fault.message
where
  caused (what why : String) : List String := [what ++ ": " ++ why, why]

inductive CredentialError where
  | read (path : String) (reason : Kubeconfig.ReadError)
  | load (path : String) (reason : Kubeconfig.LoadError)
  | inCluster (reason : InClusterError)
  /-- The credentials are there, but no client can be made from them. -/
  | client (reason : String)
deriving DecidableEq, Repr

namespace CredentialError

def causes : CredentialError → List String
  | read _ reason => reason.messages
  | load _ reason => reason.messages
  | inCluster reason => reason.messages
  | client reason => [reason]

def heading : CredentialError → String
  | read path _ => "Failed to read kubeconfig from " ++ path
  | load path _ => "Failed to load kubeconfig from " ++ path
  | inCluster _ => "Failed to load in-cluster config"
  | client _ => "Failed to create Kubernetes client"

def message (e : CredentialError) : String := e.heading ++ ": " ++ e.causes.headD ""

end CredentialError

/-- What comes of resolving credentials: whether there is a client, and what is logged. -/
structure Resolution where
  outcome : Except CredentialError Unit
  log : List Log.Event := []

def hostVariable : String := "KUBERNETES_SERVICE_HOST"

def portVariable : String := "KUBERNETES_SERVICE_PORT"

def namespacePath : String := "/var/run/secrets/kubernetes.io/serviceaccount/namespace"

/-- What resolving can look at: variables of the environment and files. -/
structure Surroundings where
  environment : List (String × String) := []
  openPath : String → Except Files.Fault Files.File

def Surroundings.variable? (s : Surroundings) (name : String) : Option String :=
  (s.environment.find? (·.1 == name)).map Prod.snd

/-- The location of a server by its host and port. An address of the sixth version stands in
brackets, and the usual port is left out. -/
def location (host : String) (port : UInt16) : String :=
  let isV6 := (Net.Ipv6.read host.toList).any fun (_, rest) => rest.isEmpty
  let host := if isV6 then "[" ++ host ++ "]" else host
  "https://" ++ host ++ if port = 443 then "" else ":" ++ Text.ofNat port.toNat

def checkInCluster (s : Surroundings) : Except InClusterError Unit := do
  let some host := s.variable? hostVariable | throw .missingVariable
  let some port := s.variable? portVariable | throw .missingVariable
  match Text.readWord16 port with
  | .error reason => throw (.badPort reason)
  | .ok port =>
    if let .error fault := Net.Uri.check (location host port) then throw (.badServer fault)
    if let .error fault := (s.openPath namespacePath).bind Files.File.read then
      throw (.noNamespace fault)

def resolve (s : Surroundings) : CredentialMode → Resolution
  | .inCluster =>
    { outcome := (checkInCluster s).mapError .inCluster
      log := [⟨.info, .credentials, "Using in cluster config", []⟩] }
  | .outOfCluster path =>
    { outcome :=
        match Kubeconfig.read path (s.openPath path) with
        | .error reason => .error (.read path reason)
        | .ok config => (config.server.mapError (.load path)).map fun _ => ()
      log := [⟨.info, .credentials, "Using out of cluster config", [("path", .shown path)]⟩] }

end Autoscaler.Credentials
