import ClusterTriage.Cluster.Schema.Pod

/-!
# Deployments and replica sets

The shapes of the objects that keep pods running.
-/

namespace ClusterTriage
namespace Cluster
namespace Schema

/-- How far an update may go at once. -/
def rollingUpdate : Schema := .object [("maxSurge", .intOrText), ("maxUnavailable", .intOrText)]

def strategy : Schema := .object (texts ["type"] ++ [("rollingUpdate", rollingUpdate)])

def deploymentSpec : Schema :=
  .object <|
    flags ["paused"] ++
    int32s ["minReadySeconds", "progressDeadlineSeconds", "replicas", "revisionHistoryLimit"] ++
    [("selector", labelSelector), ("strategy", strategy), ("template", podTemplate)]

def deploymentCondition : Schema :=
  .object <|
    texts ["message", "reason", "status", "type"] ++
    times ["lastTransitionTime", "lastUpdateTime"]

def deploymentStatus : Schema :=
  .object <|
    int32s ["availableReplicas", "collisionCount", "readyReplicas", "replicas",
      "terminatingReplicas", "unavailableReplicas", "updatedReplicas"] ++
    int64s ["observedGeneration"] ++
    [("conditions", .list deploymentCondition)]

def deployment : Schema :=
  .object <|
    [("apiVersion", .constant "apps/v1"), ("kind", .constant "Deployment"),
      ("metadata", objectMetadata), ("spec", deploymentSpec), ("status", deploymentStatus)]

def replicaSetSpec : Schema :=
  .object <|
    int32s ["minReadySeconds", "replicas"] ++
    [("selector", labelSelector), ("template", podTemplate)]

def replicaSetCondition : Schema :=
  .object (texts ["message", "reason", "status", "type"] ++ times ["lastTransitionTime"])

def replicaSetStatus : Schema :=
  .object <|
    int32s ["availableReplicas", "fullyLabeledReplicas", "readyReplicas", "replicas",
      "terminatingReplicas"] ++
    int64s ["observedGeneration"] ++
    [("conditions", .list replicaSetCondition)]

def replicaSet : Schema :=
  .object <|
    [("apiVersion", .constant "apps/v1"), ("kind", .constant "ReplicaSet"),
      ("metadata", objectMetadata), ("spec", replicaSetSpec), ("status", replicaSetStatus)]

end Schema
end Cluster
end ClusterTriage
