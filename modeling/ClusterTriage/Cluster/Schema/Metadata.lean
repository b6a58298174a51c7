import ClusterTriage.Cluster.Schema.Basic

/-!
# Metadata

What objects and lists of objects bear, whatever their kind, and the ways in which objects refer to
one another.
-/

namespace ClusterTriage
namespace Cluster
namespace Schema

/-- One requirement on a label. -/
def labelRequirement : Schema := .object (texts ["key", "operator"] ++ textLists ["values"])

def labelSelector : Schema :=
  .object (textMaps ["matchLabels"] ++ [("matchExpressions", .list labelRequirement)])

def ownerReference : Schema :=
  .object <|
    texts ["apiVersion", "kind", "name", "uid"] ++
    flags ["blockOwnerDeletion", "controller"]

/-- Who manages which fields. -/
def managedFields : Schema :=
  .object <|
    texts ["apiVersion", "fieldsType", "manager", "operation", "subresource"] ++
    times ["time"] ++
    [("fieldsV1", .anything)]

def objectMetadata : Schema :=
  .object <|
    texts ["generateName", "name", "namespace", "resourceVersion", "selfLink", "uid"] ++
    int64s ["deletionGracePeriodSeconds", "generation"] ++
    times ["creationTimestamp", "deletionTimestamp"] ++
    textLists ["finalizers"] ++
    textMaps ["annotations", "labels"] ++
    [("managedFields", .list managedFields), ("ownerReferences", .list ownerReference)]

def listMetadata : Schema :=
  .object (texts ["continue", "resourceVersion", "selfLink"] ++ int64s ["remainingItemCount"])

def localObjectReference : Schema := .object (texts ["name"])

/-- An object of the same namespace, with its kind. -/
def typedLocalObjectReference : Schema := .object (texts ["apiGroup", "kind", "name"])

def objectReference : Schema :=
  .object (texts ["apiVersion", "fieldPath", "kind", "name", "namespace", "resourceVersion", "uid"])

def nameValue : Schema := .object (texts ["name", "value"])

/-- A condition with the time of its last change. -/
def condition : Schema :=
  .object <|
    texts ["message", "reason", "status", "type"] ++
    int64s ["observedGeneration"] ++
    times ["lastTransitionTime"]

end Schema
end Cluster
end ClusterTriage
