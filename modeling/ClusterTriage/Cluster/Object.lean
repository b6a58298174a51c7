import ClusterTriage.Cluster.Schema.Network
import ClusterTriage.Cluster.Schema.Node
import ClusterTriage.Cluster.Schema.Workload
import ClusterTriage.NameMap

/-!
# Objects of the cluster

The objects that are looked at, as far as they are looked at. An object is read only if all of it
has the shape of its kind, so reading itself cannot fail: what is not set has a default or is
absent.
-/

namespace ClusterTriage
namespace Cluster

/-! ## 1. Metadata -/

structure Owner where
  kind : String
  name : String
deriving DecidableEq, Repr

structure Metadata where
  name : Option String := none
  space : Option String := none
  owners : List Owner := []
  annotations : NameMap String := .empty
deriving DecidableEq, Repr

namespace Metadata

/-- The name with its namespace in front, if it has one. -/
def qualifiedName (d : Metadata) : String :=
  match d.space with
  | some ns => if ns = "" then d.name.getD "" else ns ++ "/" ++ d.name.getD ""
  | none => d.name.getD ""

/-- The first owner, with its kind. -/
def parent (d : Metadata) : Option String := d.owners.head?.map fun o => o.kind ++ "/" ++ o.name

end Metadata

/-! ## 2. Kinds of objects -/

structure Condition where
  type : String := ""
  status : String := ""
  reason : Option String := none
  message : Option String := none
deriving DecidableEq, Repr

/-- What a container waits for. -/
structure Waiting where
  reason : Option String := none
  message : Option String := none
deriving DecidableEq, Repr

/-- How a container is. -/
structure ContainerStatus where
  name : String := ""
  waiting : Option Waiting := none
deriving DecidableEq, Repr

/-- A group of containers that run together. -/
structure Pod where
  metadata : Metadata := {}
  phase : Option String := none
  conditions : List Condition := []
  initContainers : List ContainerStatus := []
  containers : List ContainerStatus := []
deriving DecidableEq, Repr

structure Deployment where
  metadata : Metadata := {}
  /-- How many replicas are asked for. -/
  replicas : Option Int := none
  /-- How many replicas are ready. -/
  ready : Option Int := none
deriving DecidableEq, Repr

/-- What keeps a number of pods alive. -/
structure ReplicaSet where
  metadata : Metadata := {}
  conditions : List Condition := []
deriving DecidableEq, Repr

structure Service where
  metadata : Metadata := {}
  /-- The labels of the pods that the service stands for. -/
  selector : NameMap String := .empty
deriving DecidableEq, Repr

/-- What is behind a service: groups of addresses, as the number of those that are ready. -/
structure Endpoints where
  ready : List Nat := []
deriving DecidableEq, Repr

/-- A claim of storage. -/
structure Claim where
  metadata : Metadata := {}
  phase : Option String := none
  storageClass : Option String := none
deriving DecidableEq, Repr

structure Node where
  metadata : Metadata := {}
  conditions : List Condition := []
deriving DecidableEq, Repr

/-- Rules by which requests from outside reach services. -/
structure Ingress where
  metadata : Metadata := {}
  className : Option String := none
deriving DecidableEq, Repr

/-- A kind of ingress that the cluster serves. -/
structure IngressClass where
  metadata : Metadata := {}
deriving DecidableEq, Repr

/-! ## 3. Reading -/

def textOf? (d : Datum) (name : String) : Option String := d.field? name >>= Datum.string?

def listOf {α : Type} (d : Datum) (name : String) (read : Datum → α) : List α :=
  match d.field? name with
  | some (.array items) => items.map read
  | _ => []

def mapOf (d : Datum) (name : String) : NameMap String :=
  match d.field? name with
  | some (.object members) => .ofList (members.filterMap fun (k, v) => v.string?.map (k, ·))
  | _ => .empty

/-- A part of an object; what is absent has no fields. -/
def part (d : Datum) (name : String) : Datum := (d.field? name).getD .null

def Owner.read (d : Datum) : Owner :=
  ⟨(textOf? d "kind").getD "", (textOf? d "name").getD ""⟩

def Metadata.read (object : Datum) : Metadata :=
  let d := part object "metadata"
  { name := textOf? d "name", space := textOf? d "namespace"
    owners := listOf d "ownerReferences" Owner.read, annotations := mapOf d "annotations" }

def Condition.read (d : Datum) : Condition :=
  { type := (textOf? d "type").getD "", status := (textOf? d "status").getD ""
    reason := textOf? d "reason", message := textOf? d "message" }

def ContainerStatus.read (d : Datum) : ContainerStatus :=
  { name := (textOf? d "name").getD ""
    waiting := ((d.field? "state") >>= Datum.field? "waiting").map fun w =>
      ⟨textOf? w "reason", textOf? w "message"⟩ }

/-- A kind of objects: where they are listed, their shape, and how one is read. -/
structure Kind (α : Type) where
  root : String
  plural : String
  schema : Schema
  read : Datum → α

def Kind.ofDatum? {α : Type} (k : Kind α) (d : Datum) : Option α :=
  if k.schema.conforms d then some (k.read d) else none

/-- The objects that a list denotes. Members besides the two that count only have to be readable. -/
def Kind.listOfDatum? {α : Type} (k : Kind α) : Datum → Option (List α)
  | .object members =>
    let counts (name : String) : Bool := name == "items" || name == "metadata"
    let rest := members.filter fun (name, _) => !counts name
    let metadata := members.filter (·.1 == "metadata")
    if !(Datum.object rest).readable || 1 < metadata.length ||
        !metadata.all fun (_, d) => Schema.listMetadata.conforms d then none
    else
      match members.filter (·.1 == "items") with
      | [(_, .null)] => some []
      | [(_, .array items)] => items.mapM k.ofDatum?
      | _ => none
  | _ => none

namespace Kind

def pod : Kind Pod where
  root := "/api/v1"
  plural := "pods"
  schema := Schema.pod
  read d :=
    let status := part d "status"
    { metadata := .read d, phase := textOf? status "phase"
      conditions := listOf status "conditions" Condition.read
      initContainers := listOf status "initContainerStatuses" ContainerStatus.read
      containers := listOf status "containerStatuses" ContainerStatus.read }

def deployment : Kind Deployment where
  root := "/apis/apps/v1"
  plural := "deployments"
  schema := Schema.deployment
  read d :=
    { metadata := .read d
      replicas := (part d "spec").field? "replicas" >>= Datum.int64?
      ready := (part d "status").field? "readyReplicas" >>= Datum.int64? }

def replicaSet : Kind ReplicaSet where
  root := "/apis/apps/v1"
  plural := "replicasets"
  schema := Schema.replicaSet
  read d :=
    { metadata := .read d, conditions := listOf (part d "status") "conditions" Condition.read }

def service : Kind Service where
  root := "/api/v1"
  plural := "services"
  schema := Schema.service
  read d := { metadata := .read d, selector := mapOf (part d "spec") "selector" }

def endpoints : Kind Endpoints where
  root := "/api/v1"
  plural := "endpoints"
  schema := Schema.endpoints
  read d := ⟨listOf d "subsets" fun s => (listOf s "addresses" id).length⟩

def claim : Kind Claim where
  root := "/api/v1"
  plural := "persistentvolumeclaims"
  schema := Schema.persistentVolumeClaim
  read d :=
    { metadata := .read d, phase := textOf? (part d "status") "phase"
      storageClass := textOf? (part d "spec") "storageClassName" }

def node : Kind Node where
  root := "/api/v1"
  plural := "nodes"
  schema := Schema.node
  read d :=
    { metadata := .read d, conditions := listOf (part d "status") "conditions" Condition.read }

def ingress : Kind Ingress where
  root := "/apis/networking.k8s.io/v1"
  plural := "ingresses"
  schema := Schema.ingress
  read d :=
    { metadata := .read d, className := textOf? (part d "spec") "ingressClassName" }

def ingressClass : Kind IngressClass where
  root := "/apis/networking.k8s.io/v1"
  plural := "ingressclasses"
  schema := Schema.ingressClass
  read d := { metadata := .read d }

end Kind
end Cluster
end ClusterTriage
