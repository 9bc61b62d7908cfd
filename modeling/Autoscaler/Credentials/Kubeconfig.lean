import Autoscaler.Files
import Autoscaler.Net.Uri
import Autoscaler.Text.Quoted
import Autoscaler.Text.Utf16
import Autoscaler.Text.Utf8
import Autoscaler.Yaml.Data

/-!
# Kubeconfig files

A kubeconfig names clusters, users and contexts that pair them, and one context is current. Reading
it yields the cluster of that context. A file of several documents is their union, in which what
comes first counts.
-/

namespace Autoscaler.Kubeconfig

structure Cluster where
  server : Option String := none
  insecure : Option Bool := none
deriving DecidableEq, Repr

structure Context where
  cluster : String
  user : Option String := none
deriving DecidableEq, Repr

/-- Something with a name; it may be left empty. -/
structure Named (α : Type) where
  name : String
  value : Option α
deriving DecidableEq, Repr

end Kubeconfig

/-- The content of a kubeconfig. Of users only the names matter. -/
structure Kubeconfig where
  clusters : List (Kubeconfig.Named Kubeconfig.Cluster) := []
  users : List (Kubeconfig.Named Unit) := []
  contexts : List (Kubeconfig.Named Kubeconfig.Context) := []
  currentContext : Option String := none
  kind : Option String := none
  apiVersion : Option String := none

namespace Kubeconfig

namespace Encoding

inductive Fault where
  | utf8 (fault : Text.Utf8Fault)
  /-- Half of a pair of 16-bit units stands alone. -/
  | loneSurrogate
deriving DecidableEq, Repr

def Fault.message : Fault → String
  | utf8 fault => fault.message
  | loneSurrogate => "invalid utf-16: lone surrogate found"

/-- The bytes of 16-bit units as UTF-8. -/
def ofUnits (lowFirst : Bool) (bytes : List UInt8) : Except Fault (List UInt8) :=
  match Text.ofUnits16? (Text.units16 lowFirst bytes) with
  | some cs => .ok (String.ofList cs).toUTF8.toList
  | none => .error .loneSurrogate

/-- Checks that bytes are UTF-8. -/
def ofUtf8 (bytes : List UInt8) : Except Fault (List UInt8) :=
  match Text.utf8Fault? bytes with
  | some fault => .error (.utf8 fault)
  | none => .ok bytes

/-- Text in bytes as UTF-8 without a mark at its start. The mark tells the encoding. -/
def normalize : List UInt8 → Except Fault (List UInt8)
  | 0xFF :: 0xFE :: rest => ofUnits true rest
  | 0xFE :: 0xFF :: rest => ofUnits false rest
  | 0xEF :: 0xBB :: 0xBF :: rest => ofUtf8 rest
  | bytes => ofUtf8 bytes

end Encoding

inductive ReadError where
  | file (path : String) (fault : Files.Fault)
  | notText (path : String) (fault : Encoding.Fault)
  | malformed
  | kindMismatch
  | apiVersionMismatch
deriving DecidableEq, Repr

/-- Why a kubeconfig does not lead to a cluster. -/
inductive LoadError where
  | noCurrentContext
  | unknownContext (name : String)
  | unknownCluster (name : String)
  | unknownUser (name : String)
  | noServer
  | badServer (fault : Net.Uri.Fault)
deriving DecidableEq, Repr

/-- The text of an error, with the error behind it if there is one. -/
def ReadError.messages : ReadError → List String
  | file path fault =>
    ["failed to read kubeconfig from '" ++ Text.quotedPath path ++ "': " ++ fault.message,
      fault.message]
  | notText path fault =>
    ["failed to read kubeconfig from '" ++ Text.quotedPath path ++ "': " ++ fault.message,
      fault.message]
  | malformed => ["the kubeconfig is malformed"]
  | kindMismatch => ["kubeconfigs with mismatching kind cannot be merged"]
  | apiVersionMismatch => ["kubeconfigs with mismatching api version cannot be merged"]

/-- The text of an error, with the error behind it if there is one. -/
def LoadError.messages : LoadError → List String
  | noCurrentContext => ["failed to determine current context"]
  | unknownContext name => ["failed to load current context: " ++ name]
  | unknownCluster name => ["failed to load the cluster of context: " ++ name]
  | unknownUser name => ["failed to find named user: " ++ name]
  | noServer => ["cluster url is missing on selected cluster"]
  | badServer fault => ["failed to parse cluster url: " ++ fault.message, fault.message]

open Yaml

def readCluster (d : Data) : Option Cluster := do
  let fields ← d.fields?
  for key in ["certificate-authority", "certificate-authority-data", "proxy-url",
      "tls-server-name"] do
    let _ ← Data.optional Data.text? fields key
  let _ ← Data.optional Data.flag? fields "disable-compression"
  return {
    server := ← Data.optional Data.text? fields "server"
    insecure := ← Data.optional Data.flag? fields "insecure-skip-tls-verify" }

def readContext (d : Data) : Option Context := do
  let fields ← d.fields?
  let cluster ← fields.find? (·.1 == "cluster")
  let _ ← Data.optional Data.text? fields "namespace"
  return { cluster := ← cluster.2.text?, user := ← Data.optional Data.text? fields "user" }

/-- Reads a user. Nothing is kept of the credentials, but they must be text. -/
def readUser (d : Data) : Option Unit := do
  let fields ← d.fields?
  for key in ["username", "password", "token", "tokenFile", "client-certificate",
      "client-certificate-data", "client-key", "client-key-data", "as"] do
    let _ ← Data.optional Data.text? fields key
  let _ ← Data.optional (fun groups => do (← groups.items?).mapM Data.text?) fields "as-groups"

def readNamed {α : Type} (key : String) (read : Data → Option α) (d : Data) :
    Option (Named α) := do
  let fields ← d.fields?
  let name ← fields.find? (·.1 == "name")
  return { name := ← name.2.text?, value := ← Data.optional read fields key }

/-- Reads a list of things with names, which may be missing. -/
def readList {α : Type} (key item : String) (read : Data → Option α)
    (fields : List (String × Data)) : Option (List (Named α)) := do
  let items ← Data.optional Data.items? fields key
  (items.getD []).mapM (readNamed item read)

def ofData? (d : Data) : Option Kubeconfig := do
  let fields ← d.fields?
  return {
    clusters := ← readList "clusters" "cluster" readCluster fields
    users := ← readList "users" "user" readUser fields
    contexts := ← readList "contexts" "context" readContext fields
    currentContext := ← Data.optional Data.text? fields "current-context"
    kind := ← Data.optional Data.text? fields "kind"
    apiVersion := ← Data.optional Data.text? fields "apiVersion" }

/-- Whether two optional texts are both there and different. -/
def differ (a b : Option String) : Bool := a.isSome && b.isSome && a != b

def addNew {α : Type} (base next : List (Named α)) : List (Named α) :=
  base ++ next.filter fun n => !base.any (·.name == n.name)

def merge (base next : Kubeconfig) : Except ReadError Kubeconfig :=
  if differ base.kind next.kind then .error .kindMismatch
  else if differ base.apiVersion next.apiVersion then .error .apiVersionMismatch
  else .ok {
    clusters := addNew base.clusters next.clusters
    users := addNew base.users next.users
    contexts := addNew base.contexts next.contexts
    currentContext := base.currentContext.or next.currentContext
    kind := base.kind.or next.kind
    apiVersion := base.apiVersion.or next.apiVersion }

def ofDocuments (documents : List Document) : Except ReadError Kubeconfig := do
  let configs ← documents.mapM fun d =>
    ((Data.ofDocument? d).bind ofData?).elim (.error .malformed) .ok
  match configs with
  | [] => return {}
  | first :: rest => rest.foldlM merge first

def read (path : String) (file : Except Files.Fault Files.File) : Except ReadError Kubeconfig :=
  match file.bind Files.File.read with
  | .error fault => .error (.file path fault)
  | .ok bytes =>
    match Encoding.normalize bytes with
    | .error fault => .error (.notText path fault)
    | .ok text => ofDocuments (Document.listOfBytes text)

/-- The thing with a name, if it is not left empty. -/
def find? {α : Type} (things : List (Named α)) (name : String) : Option α :=
  (things.find? (·.name == name)).bind (·.value)

def currentCluster (k : Kubeconfig) : Except LoadError Cluster := do
  let some name := k.currentContext | throw .noCurrentContext
  let some context := find? k.contexts name | throw (.unknownContext name)
  let some cluster := find? k.clusters context.cluster | throw (.unknownCluster context.cluster)
  if let some user := context.user then
    if (find? k.users user).isNone then throw (.unknownUser user)
  return cluster

def server (k : Kubeconfig) : Except LoadError String := do
  let cluster ← k.currentCluster
  let some server := cluster.server | throw .noServer
  match Net.Uri.check server with
  | .ok () => return server
  | .error fault => throw (.badServer fault)

end Kubeconfig
end Autoscaler
