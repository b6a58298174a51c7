import ClusterTriage.Analyzer.Context
import ClusterTriage.Analyzer.Inspection
import ClusterTriage.Selection.Registry

/-!
# The built-in analyzers

Each looks for the objects of one kind and inspects them one by one. The analyzer of services asks
for what is behind each service that selects pods; if one of these questions fails, what was found
before it is kept.
-/

namespace ClusterTriage
namespace Analyzer

variable {m : Type → Type} [Monad m] (x : Context m)

/-! ## 1. Analyzers that need only one list -/

def inspectAll {α : Type} (k : Cluster.Kind α) (inspect : α → Option Finding) : m Outcome := do
  return (← x.list k).map (·.filterMap inspect)

def pod : m Outcome := inspectAll x .pod (Inspection.pod x.key)

def deployment : m Outcome :=
  inspectAll x .deployment <| Inspection.deployment x.key <|
    x.fieldDocumentation "io.k8s.api.apps.v1.DeploymentSpec" "replicas"

def replicaSet : m Outcome := inspectAll x .replicaSet (Inspection.replicaSet x.key)

def claim : m Outcome := inspectAll x .claim (Inspection.claim x.key)

/-- Nodes belong to no namespace, so all of them are inspected. -/
def node : m Outcome := do
  return (← x.listIn .node none x.selector).map (·.filterMap (Inspection.node x.key))

/-! ## 2. Services -/

/-- The number of ready addresses behind a service. -/
def readyAddresses (s : Cluster.Service) : m (Except AnalyzerError Nat) := do
  let found ← x.find? .endpoints (s.metadata.space.getD "default") (s.metadata.name.getD "")
  return found.map fun e => (e.map (·.ready.foldr (· + ·) 0)).getD 0

/-- Looks behind services one after another. -/
def services (found : List Finding) : List Cluster.Service → m Outcome
  | [] => return .ok found
  | s :: rest => do
    if s.selector.isEmpty then services found rest
    else
      match ← readyAddresses x s with
      | .error e => return .error (.interrupted found e)
      | .ok 0 => services (found ++ [Inspection.service x.key s]) rest
      | .ok _ => services found rest

def service : m Outcome := do
  match ← x.list .service with
  | .error e => return .error e
  | .ok list => services x [] list

/-! ## 3. Ingresses -/

/-- Ingresses without a class that the cluster knows. -/
def ingress : m Outcome := do
  match ← x.listIn .ingressClass none none with
  | .error e => return .error e
  | .ok classes =>
    inspectAll x .ingress (Inspection.ingress x.key (classes.filterMap (·.metadata.name)))

/-! ## 4. The registry -/

/-- All built-in analyzers. The one of ingresses runs only if it is named. -/
def builtin : Registry (m Outcome) :=
  ({} : Registry (m Outcome))
    |>.withCore "Pod" (pod x)
    |>.withCore "Deployment" (deployment x)
    |>.withCore "ReplicaSet" (replicaSet x)
    |>.withCore "Service" (service x)
    |>.withCore "PersistentVolumeClaim" (claim x)
    |>.withCore "Node" (node x)
    |>.withAdditional "Ingress" (ingress x)

end Analyzer
end ClusterTriage
