import Autoscaler.Text.Blank

/-!
# Credentials

Where the credentials for the cluster come from.
-/

namespace Autoscaler

inductive CredentialMode where
  | inCluster
  | outOfCluster (path : String)
deriving DecidableEq, Repr

/-- A kubeconfig path that is not blank selects the file. -/
def CredentialMode.ofKubeconfig (kubeconfig : Option String) : CredentialMode :=
  match kubeconfig with
  | none => .inCluster
  | some path =>
    match Text.trimBlanks path.toList with
    | [] => .inCluster
    | trimmed => .outOfCluster (String.ofList trimmed)

end Autoscaler
