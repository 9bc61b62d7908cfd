import Autoscaler.Cluster.Snapshot
import Autoscaler.Json
import Autoscaler.Log

/-!
# Scanning a node group

The state of a node group is had from two listings of the cluster's interface: the nodes with the
group's label, and the pods that have not run to their end. Without nodes the pods do not matter.
-/

namespace Autoscaler.Cluster

inductive Request where
  | nodes (labelSelector : String)
  | pods (fieldSelector : String)
deriving DecidableEq, Repr

/-- The answer to a request: a status code and a text. -/
structure Reply where
  status : Nat
  body : String
deriving DecidableEq, Repr

/-- The cluster's interface; no reply means that it cannot be reached. -/
abbrev Interface := Request → Option Reply

inductive ApiError where
  | unreachable
  | refused (code : Nat) (reason : String)
  | unreadable
deriving DecidableEq, Repr

inductive ScanError where
  | api (cause : ApiError)
  | other (text : String)
deriving DecidableEq, Repr

def ApiError.message : ApiError → String
  | unreachable => "the cluster cannot be reached"
  | refused code reason => reason ++ " (" ++ Text.ofNat code ++ ")"
  | unreadable => "the reply cannot be read"

def ScanError.message : ScanError → String
  | api cause => "Kubernetes API error: " ++ cause.message
  | other text => "Scan failed: " ++ text

/-- A mapping from names to quantities; null stands for an empty one. -/
def readResources : Json → Option Resources
  | .null => some []
  | .object members =>
    members.reverse.mapM fun (name, value) => match value with
      | .string s => some (name, s)
      | _ => none
  | _ => none

/-- An object, or null in place of it. -/
def readObject : Json → Option Json
  | .null => some .null
  | .object members => some (.object members)
  | _ => none

def readNode (j : Json) : Option Node := do
  let .object _ := j | none
  let metadata ← readObject (j.member "metadata")
  let name ← (metadata.member "name").optionalString?
  let generateName ← (metadata.member "generateName").optionalString?
  let status ← readObject (j.member "status")
  let allocatable ← readResources (status.member "allocatable")
  return { name := (name.orElse fun _ => generateName).getD "", allocatable }

def readContainer (j : Json) : Option Resources := do
  let .object _ := j | none
  let resources ← readObject (j.member "resources")
  readResources (resources.member "requests")

def readPodSpec (j : Json) : Option PodSpec := do
  let nodeName ← (j.member "nodeName").optionalString?
  let requests ← match j.member "containers" with
    | .null => some []
    | .array items => items.mapM readContainer
    | _ => none
  return { nodeName, requests }

def readPod (j : Json) : Option Pod := do
  let .object _ := j | none
  let _ ← readObject (j.member "metadata")
  let spec ← match ← readObject (j.member "spec") with
    | .null => some none
    | spec => (readPodSpec spec).map some
  let status ← readObject (j.member "status")
  let phase ← (status.member "phase").optionalString?
  return { spec, phase }

def readItems {α : Type} (item : Json → Option α) (j : Json) : Option (List α) :=
  match j.member "items" with
  | .array items => items.mapM item
  | _ => none

def readRefusal (status : Nat) (body : String) : ApiError :=
  let refusal : Option ApiError := do
    let j ← Json.parse? body
    let .object _ := j | none
    let code ← match j.member "code" with
      | .null => some 0
      | code => code.nat?
    let reason ← (j.member "reason").optionalString?
    if code < 0x10000 then some (.refused code (reason.getD "")) else none
  refusal.getD (.refused status "Failed to parse error data")

def Reply.listing {α : Type} (item : Json → Option α) (r : Option Reply) :
    Except ApiError (List α) :=
  match r with
  | none => .error .unreachable
  | some r =>
    if 400 ≤ r.status ∧ r.status < 600 then .error (readRefusal r.status r.body)
    else ((Json.parse? r.body).bind (readItems item)).elim (.error .unreadable) .ok

/-- Pods that have run to their end are not asked for. -/
def podSelector : String := "status.phase!=Succeeded,status.phase!=Failed"

/-- What a scan yields: its result, the requests that it sends, and what it logs. -/
structure Scan where
  result : Except ScanError Snapshot
  requests : List Request
  log : List Log.Event

def scanPods (cluster : Interface) (first : Request) (nodes : List Node) : Scan :=
  let request := Request.pods podSelector
  { result := match Reply.listing readPod (cluster request) with
      | .error e => .error (.api e)
      | .ok pods => .ok (Snapshot.of nodes pods)
    requests := [first, request]
    log := [] }

def scan (cluster : Interface) (group : NodeGroup.Spec) : Scan :=
  let request := Request.nodes group.labelSelector
  match Reply.listing readNode (cluster request) with
  | .error e => { result := .error (.api e), requests := [request], log := [] }
  | .ok [] =>
    { result := .ok {}
      requests := [request]
      log := [⟨.debug, .scanner, "No nodes match selector",
        [("nodegroup", .shown group.name), ("selector", .shown group.labelSelector)]⟩] }
  | .ok nodes => scanPods cluster request nodes

end Autoscaler.Cluster
