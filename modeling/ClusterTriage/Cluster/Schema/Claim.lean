import ClusterTriage.Cluster.Schema.Metadata

/-!
# Claims of storage

The shape of a claim of storage, which also occurs inside the volumes of a pod.
-/

namespace ClusterTriage
namespace Cluster
namespace Schema

def resourceAmounts : Schema := .object (textMaps ["limits", "requests"])

def volumeSource : Schema := .object (texts ["apiGroup", "kind", "name", "namespace"])

def claimSpec : Schema :=
  .object <|
    texts ["storageClassName", "volumeAttributesClassName", "volumeMode", "volumeName"] ++
    textLists ["accessModes"] ++
    [("dataSource", typedLocalObjectReference), ("dataSourceRef", volumeSource),
      ("resources", resourceAmounts), ("selector", labelSelector)]

def claimCondition : Schema :=
  .object <|
    texts ["message", "reason", "status", "type"] ++
    times ["lastProbeTime", "lastTransitionTime"]

/-- A change of a claim in progress. -/
def claimModification : Schema := .object (texts ["status", "targetVolumeAttributesClassName"])

def claimStatus : Schema :=
  .object <|
    texts ["currentVolumeAttributesClassName", "phase"] ++
    textLists ["accessModes"] ++
    textMaps ["allocatedResourceStatuses", "allocatedResources", "capacity"] ++
    [("conditions", .list claimCondition), ("modifyVolumeStatus", claimModification)]

def persistentVolumeClaim : Schema :=
  .object <|
    [("apiVersion", .constant "v1"), ("kind", .constant "PersistentVolumeClaim"),
      ("metadata", objectMetadata), ("spec", claimSpec), ("status", claimStatus)]

end Schema
end Cluster
end ClusterTriage
