import ClusterTriage.Cluster.Server
import ClusterTriage.Datum.Json.Parser
import ClusterTriage.Datum.Record
import ClusterTriage.Files.Basic
import ClusterTriage.Files.Path
import ClusterTriage.Text.Blank
import ClusterTriage.Text.Quoted

/-!
# Kubeconfig files

A kubeconfig lists clusters and contexts. A context names a cluster, and one context is current. The
file is read as JSON; an empty file is a kubeconfig without entries.
-/

namespace ClusterTriage

/-- Why a kubeconfig leads to no cluster. -/
inductive KubeconfigError where
  | file (path : String) (cause : FileError)
  | undecodable
  | malformed
  | noCurrentContext
  | unknownContext (name : String)
  | unknownCluster (name : String)
  | noServer
  | invalidServer (cause : Cluster.ServerError)
  | noHome
deriving DecidableEq, Repr

/-- The sentence for each cause. What exactly is wrong with a text is left open. -/
def KubeconfigError.message : KubeconfigError → String
  | .file path cause =>
    "failed to read kubeconfig from '" ++ Text.quoted path ++ "': " ++ cause.message
  | .undecodable => "failed to parse kubeconfig YAML"
  | .malformed => "the structure of the parsed kubeconfig is invalid"
  | .noCurrentContext => "failed to determine current context"
  | .unknownContext name => "failed to load current context: " ++ name
  | .unknownCluster name => "failed to load the cluster of context: " ++ name
  | .noServer => "cluster url is missing on selected cluster"
  | .invalidServer cause => "failed to parse cluster url: " ++ cause.message
  | .noHome => "failed to find the path of kubeconfig"

/-- What a kubeconfig says of where clusters are. An entry may stand without its content. -/
structure Kubeconfig where
  /-- The cluster of each context. -/
  contexts : List (String × Option String) := []
  /-- The server of each cluster, which may be left out. -/
  clusters : List (String × Option (Option String)) := []
  currentContext : Option String := none
deriving DecidableEq, Repr

namespace Kubeconfig

/-! ## 1. Reading -/

def optional {α : Type} (d : Datum) (name : String) (decode : Datum → Option α) :
    Option (Option α) :=
  match d.field? name with
  | some v => (decode v).map some
  | none => some none

def object? : Datum → Option Datum
  | d@(.object _) => some d
  | _ => none

/-- A list of named entries, each with content that may be left out. -/
def entries {α : Type} (content : String) (decode : Datum → Option α) (d : Datum) :
    Option (List (String × Option α)) :=
  d.arrayOf? fun e => do
    let e ← object? e
    let name ← e.field? "name" >>= Datum.string?
    return (name, ← optional e content fun v => object? v >>= decode)

def ofDatum? (d : Datum) : Option Kubeconfig := do
  let d ← object? d
  let cluster (c : Datum) : Option String := c.field? "cluster" >>= Datum.string?
  let server (c : Datum) : Option (Option String) := optional c "server" Datum.string?
  return {
    contexts := (← optional d "contexts" (entries "context" cluster)).getD []
    clusters := (← optional d "clusters" (entries "cluster" server)).getD []
    currentContext := ← optional d "current-context" Datum.string? }

def parse (text : String) : Except KubeconfigError Kubeconfig :=
  if Text.isBlankString text then .ok {}
  else
    match Json.parse text with
    | none => .error .undecodable
    | some d =>
      match ofDatum? d with
      | none => .error .malformed
      | some k => .ok k

/-! ## 2. Choosing a cluster -/

/-- The server of a context, the current one if none is named. -/
def server (k : Kubeconfig) (context : Option String) : Except KubeconfigError Cluster.Server :=
  match context.or k.currentContext with
  | none => .error .noCurrentContext
  | some context =>
    match (k.contexts.lookup context).join with
    | none => .error (.unknownContext context)
    | some cluster =>
      match (k.clusters.lookup cluster).join with
      | none => .error (.unknownCluster cluster)
      | some none => .error .noServer
      | some (some server) => (Cluster.Server.parse server).mapError .invalidServer

/-! ## 3. The file -/

/-- The kubeconfig of a user. -/
def inHome (home : String) : String := Path.join home ".kube/config"

variable {m : Type → Type} [Monad m] [MonadFiles m]

def load (path : String) : m (Except KubeconfigError Kubeconfig) := do
  match ← Files.readText path with
  | .error e => return .error (.file path e)
  | .ok text => return parse text

/-- The server of a context in a file, which is the user's own file if none is named. -/
def locate (context path home : Option String) : m (Except KubeconfigError Cluster.Server) := do
  match path.or (home.map inHome) with
  | none => return .error .noHome
  | some path => return (← load path) >>= (·.server context)

end Kubeconfig
end ClusterTriage
