import ClusterTriage.Cluster.Object
import ClusterTriage.Finding.Basic
import ClusterTriage.Redaction.Key
import ClusterTriage.Text.Blank

/-!
# Inspecting one object

What is said of a single object, by its kind. An object that is fine yields nothing; any other
yields one finding under its qualified name, with at least one failure.
-/

namespace ClusterTriage
namespace Inspection

open Cluster

variable (key : Redaction.Key)

/-! ## 1. Common parts -/

def rules (d : Metadata) : Redaction.Rules :=
  ([d.space, d.name].filterMap id |>.filter (· ≠ "")).map key.rule

/-- The finding on an object, unless nothing is wrong with it. -/
def finding? (kind : String) (d : Metadata) (failures : List Failure)
    (parent : Option String := none) : Option Finding :=
  if failures.isEmpty then none else some { kind, name := d.qualifiedName, failures, parent }

/-! ## 2. Pods -/

/-- The reasons for waiting that mean that a container is broken. -/
def brokenReasons : List String :=
  ["CrashLoopBackOff", "ImagePullBackOff", "ErrImagePull", "InvalidImageName",
    "CreateContainerConfigError", "CreateContainerError", "RunContainerError"]

def containerText? (c : ContainerStatus) : Option String :=
  match c.waiting with
  | some w =>
    match w.reason with
    | some reason =>
      if reason ∈ brokenReasons then
        some ("the container " ++ c.name ++ " is in " ++ reason ++ " state: " ++
          w.message.getD "no message reported")
      else none
    | none => none
  | none => none

/-- Whether a condition says that a pod finds no node. -/
def isUnschedulable (c : Condition) : Bool :=
  c.type == "PodScheduled" && c.reason == some "Unschedulable"

def unschedulableText (p : Pod) (c : Condition) : String :=
  "Pod " ++ p.metadata.qualifiedName ++ " is unschedulable: " ++ c.message.getD ""

def podTexts (p : Pod) : List String :=
  (if p.phase = some "Pending" then
    (p.conditions.filter isUnschedulable).map (unschedulableText p)
  else []) ++
    (p.initContainers ++ p.containers).filterMap containerText?

/-- A pod that finds no node, or has a broken container. -/
def pod (p : Pod) : Option Finding :=
  finding? "Pod" p.metadata
    ((podTexts p).map fun text => { text, sensitive := rules key p.metadata }) p.metadata.parent

/-! ## 3. Deployments and replica sets -/

def deploymentText (d : Deployment) (desired ready : Int) : String :=
  "Deployment " ++ d.metadata.qualifiedName ++ " has " ++ toString desired ++ " replicas but " ++
    toString ready ++ " are available"

/-- A deployment with fewer ready replicas than it asks for. -/
def deployment (documentation : Option String) (d : Deployment) : Option Finding :=
  let desired := d.replicas.getD 1
  let ready := d.ready.getD 0
  if desired ≤ ready then none
  else
    finding? "Deployment" d.metadata
      [{ text := deploymentText d desired ready, sensitive := rules key d.metadata, documentation }]

def isReplicaFailure (c : Condition) : Bool := c.type == "ReplicaFailure" && c.status == "True"

def replicaFailureText (c : Condition) : String :=
  Text.trimEndString (c.reason.getD "ReplicaFailure" ++ " " ++ c.message.getD "")

/-- A replica set whose replicas cannot be made. -/
def replicaSet (r : ReplicaSet) : Option Finding :=
  finding? "ReplicaSet" r.metadata
    ((r.conditions.filter isReplicaFailure).map fun c =>
      { text := replicaFailureText c, sensitive := rules key r.metadata })
    r.metadata.parent

/-! ## 4. Services -/

def serviceText (s : Service) : String :=
  "Service has no endpoints, expected label " ++
    ", ".intercalate (s.selector.entries.map fun (label, value) => label ++ "=" ++ value)

def labelRules (s : Service) : Redaction.Rules :=
  s.selector.entries.flatMap fun (label, value) => [key.rule label, key.rule value]

/-- A service with nothing behind it. -/
def service (s : Service) : Finding where
  kind := "Service"
  name := s.metadata.qualifiedName
  failures := [{ text := serviceText s, sensitive := rules key s.metadata ++ labelRules key s }]

/-! ## 5. Claims -/

def claimText (c : Claim) : String :=
  "PersistentVolumeClaim " ++ c.metadata.qualifiedName ++ " is Pending (storage class " ++
    c.storageClass.getD "<default>" ++ ")"

/-- A claim that waits for storage. -/
def claim (c : Claim) : Option Finding :=
  if c.phase = some "Pending" then
    finding? "PersistentVolumeClaim" c.metadata
      [{ text := claimText c, sensitive := rules key c.metadata }]
  else none

/-! ## 6. Nodes -/

/-- Whether a condition of a node is a problem: not being ready is one, and so is anything else that
is the case. -/
def isNodeProblem (c : Condition) : Bool :=
  if c.type = "Ready" then c.status != "True" else c.status == "True"

def nodeText (name : String) (c : Condition) : String :=
  name ++ " has condition of type " ++ c.type ++ ", reason " ++ c.reason.getD "" ++ ": " ++
    c.message.getD ""

/-- A node with problems. It goes by its bare name. -/
def node (n : Node) : Option Finding :=
  let name := n.metadata.name.getD ""
  finding? "Node" { n.metadata with space := none }
    ((n.conditions.filter isNodeProblem).map fun c =>
      { text := nodeText name c, sensitive := [key.rule name] })

/-! ## 7. Ingresses -/

/-- The annotation by which an ingress used to name its class. -/
def classAnnotation : String := "kubernetes.io/ingress.class"

def ingressClass? (i : Ingress) : Option String :=
  i.className.orElse fun _ => i.metadata.annotations.find? classAnnotation

def classlessText (i : Ingress) : String :=
  "Ingress " ++ i.metadata.qualifiedName ++ " does not specify an Ingress class"

def unknownClassText (name : String) : String :=
  "Ingress uses the ingress class " ++ name ++ " which does not exist"

/-- An ingress that names no class, or an unknown one. -/
def ingress (known : List String) (i : Ingress) : Option Finding :=
  match ingressClass? i with
  | none =>
    finding? "Ingress" i.metadata
      [{ text := classlessText i, sensitive := rules key i.metadata }]
  | some name =>
    if name ∈ known then none
    else
      finding? "Ingress" i.metadata
        [{ text := unknownClassText name
           sensitive := rules key i.metadata ++ [key.rule name] }]

end Inspection
end ClusterTriage
