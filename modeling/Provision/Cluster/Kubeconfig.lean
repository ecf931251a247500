import Provision.Disk
import Provision.Failure
import Provision.Json.Reading
import Provision.Text.Utf8
import Provision.Yaml.Documents
import Provision.Yaml.Value

/-!
Kubeconfig files: clusters by name, contexts that pick one of them, and the context that is current. The
address of the cluster is found by following the current context.
-/

namespace Provision

/-- A cluster of a kubeconfig. -/
structure NamedCluster where
  name : String := ""
  /-- Its address, where the entry has one. -/
  server : Option (Option String) := none
deriving Repr

/-- A context of a kubeconfig. -/
structure NamedContext where
  name : String := ""
  /-- The name of its cluster, where the entry has one. -/
  cluster : Option String := none
deriving Repr

/-- What a kubeconfig says about clusters. -/
structure Kubeconfig where
  current : Option String := none
  contexts : List NamedContext := []
  clusters : List NamedCluster := []
deriving Repr

/-- Why a kubeconfig leads to no cluster. -/
inductive KubeconfigFault where
  | unreadable (path why : String)
  | malformed (why : String)
  | wrongShape (fault : ReadFault)
  | noCurrent
  | noContext (name : String)
  | noCluster (name : String)
  | noServer
  | badServer (why : String)

def KubeconfigFault.message : KubeconfigFault → String
  | unreadable path why => "failed to read kubeconfig from '" ++ quoted path ++ "': " ++ why
  | malformed why => "failed to parse kubeconfig YAML: " ++ why
  | wrongShape fault => "the structure of the parsed kubeconfig is invalid: " ++ fault.message
  | noCurrent => "failed to determine current context"
  | noContext name => "failed to load current context: " ++ name
  | noCluster name => "failed to load the cluster of context: " ++ name
  | noServer => "cluster url is missing on selected cluster"
  | badServer why => "failed to parse cluster url: " ++ why

namespace Kubeconfig

open Json

/-- A record that must be written with its member names; null is a record without members. -/
def readMapping {ρ : Type} (name : String) (slots : List (Slot ρ)) (start : ρ) : Reader ρ
  | null => readRecord name slots start (object [])
  | array items => wrongType ("struct " ++ name) (array items)
  | j => readRecord name slots start j

/-- A list; null is the empty one. -/
def readItems {α : Type} (read : Reader α) : Reader (List α)
  | null => .ok []
  | j => readList read j

def readWord : Reader String
  | null => .error (.wrongType "unit value" "a string")
  | j => readString j

def readServer : Reader (Option String) :=
  readMapping "Cluster" [slot "server" (readOption readWord) (fun _ v => v) .optional] none

def readCluster : Reader NamedCluster :=
  readMapping "NamedCluster" [
    slot "name" readWord fun c v => { c with name := v },
    slot "cluster" (readOption readServer) (fun c v => { c with server := v }) .optional]
    {}

def readTarget : Reader String :=
  readMapping "Context" [slot "cluster" readWord fun _ v => v] ""

def readContext : Reader NamedContext :=
  readMapping "NamedContext" [
    slot "name" readWord fun c v => { c with name := v },
    slot "context" (readOption readTarget) (fun c v => { c with cluster := v }) .optional]
    {}

def read : Reader Kubeconfig :=
  readMapping "Kubeconfig" [
    slot "clusters" (readItems readCluster) (fun k v => { k with clusters := v }) .defaulted,
    slot "contexts" (readItems readContext) (fun k v => { k with contexts := v }) .defaulted,
    slot "current-context" (readOption readWord) (fun k v => { k with current := v }) .optional]
    {}

/-- What two documents of one file say together; the first one has precedence. -/
def union (a b : Kubeconfig) : Kubeconfig where
  current := a.current.or b.current
  contexts := a.contexts ++ b.contexts
  clusters := a.clusters ++ b.clusters

/-- One document of a file. -/
def ofDocument (document : String) : Except KubeconfigFault Kubeconfig :=
  match Yaml.toJson document with
  | .error e => .error (.malformed e.message)
  | .ok j => (read j).mapError .wrongShape

/-- What the text of a file says. -/
def ofText (text : String) : Except KubeconfigFault Kubeconfig := do
  let documents ← (Yaml.splitDocuments text).mapM ofDocument
  return documents.foldl union {}

/-- Addresses hold visible characters of ASCII only. -/
def checkAddress (url : String) : Except KubeconfigFault String :=
  if url.isEmpty then .error (.badServer "empty string")
  else if url.toList.all fun c => 0x21 ≤ c.toNat && c.toNat ≤ 0x7E then .ok url
  else .error (.badServer "invalid uri character")

/-- The address of the cluster of the current context. -/
def server (k : Kubeconfig) : Except KubeconfigFault String := do
  let some name := k.current | throw .noCurrent
  let some cluster := (k.contexts.find? fun c => c.name == name).bind NamedContext.cluster
    | throw (.noContext name)
  let some entry := (k.clusters.find? fun c => c.name == cluster).bind NamedCluster.server
    | throw (.noCluster cluster)
  let some url := entry | throw .noServer
  checkAddress url

/-- The address that the kubeconfig at a path leads to. -/
def serverAt (disk : Disk.Node) (path : String) : Except KubeconfigFault String :=
  match Disk.read disk path with
  | .error e => .error (.unreadable path e.message)
  | .ok bytes =>
    match Utf8.decode bytes with
    | .error _ => .error (.unreadable path "stream did not contain valid UTF-8")
    | .ok text => ofText text >>= server

/-- Finding the cluster of the surroundings as the engine reports it. -/
def locate (disk : Disk.Node) (path : String) : Except Failure String :=
  (serverAt disk path).mapError fun f =>
    .internal ("failed to load kubeconfig: " ++ f.message) "create_client"

end Kubeconfig
end Provision
