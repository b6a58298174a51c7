import ClusterTriage.Cluster.Kubeconfig

/-!
# Finding the cluster

Where a context or a kubeconfig is named, that decides; otherwise the user's kubeconfig does, as the
program does not run inside a cluster. A cluster can say in one document what its fields mean.
-/

namespace ClusterTriage
namespace Cluster

/-- Why the cluster could not be used. -/
inductive ConnectError where
  | kubeconfig (cause : KubeconfigError)
  /-- Nothing was named, and the usual way led nowhere. -/
  | inference (cause : KubeconfigError)
  | request (cause : RequestError)
  | undecodableDocument
deriving DecidableEq, Repr

def notInside : String :=
  "failed to read an incluster environment variable: environment variable not found"

def unreachable : String := "client error (Connect)"

def ConnectError.message : ConnectError → String
  | .kubeconfig cause => "Failed to read kubeconfig: " ++ cause.message
  | .inference cause =>
    "Failed to infer Kubernetes config: failed to infer config: in-cluster: (" ++ notInside ++
      "), kubeconfig: (" ++ cause.message ++ ")"
  | .request cause => "Failed to create Kubernetes client: " ++ cause.message
  | .undecodableDocument => "Failed to parse OpenAPI schema"

def locate {m : Type → Type} [Monad m] [MonadFiles m] (context kubeconfig home : Option String) :
    m (Except ConnectError Server) := do
  let found ← Kubeconfig.locate context kubeconfig home
  return found.mapError (if context.isNone && kubeconfig.isNone then .inference else .kubeconfig)

/-- The cluster's document about its own interface. -/
def Connection.documentation {m : Type → Type} [Monad m] (c : Connection m) :
    m (Except ConnectError Datum) := do
  match ← c.getText "/openapi/v2" with
  | .error e => return .error (.request e)
  | .ok text =>
    match (Json.parse text).filter Datum.readable with
    | some d => return .ok d
    | none => return .error .undecodableDocument

end Cluster
end ClusterTriage
