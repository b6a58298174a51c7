import ClusterTriage.Cluster.Schema.Metadata

/-!
# Nodes

The shape of a node: what it is to be and how it is.
-/

namespace ClusterTriage
namespace Cluster
namespace Schema

/-- A map that a node is configured by. -/
def nodeMap : Schema :=
  .object (texts ["kubeletConfigKey", "name", "namespace", "resourceVersion", "uid"])

def nodeConfigSource : Schema := .object [("configMap", nodeMap)]

/-- What keeps pods from a node. -/
def taint : Schema := .object (texts ["effect", "key", "value"] ++ times ["timeAdded"])

def nodeSpec : Schema :=
  .object <|
    texts ["externalID", "podCIDR", "providerID"] ++
    flags ["unschedulable"] ++
    textLists ["podCIDRs"] ++
    [("configSource", nodeConfigSource), ("taints", .list taint)]

def nodeAddress : Schema := .object (texts ["address", "type"])

/-- A condition of a node. -/
def nodeCondition : Schema :=
  .object <|
    texts ["message", "reason", "status", "type"] ++
    times ["lastHeartbeatTime", "lastTransitionTime"]

def nodeConfigStatus : Schema :=
  .object <|
    texts ["error"] ++
    [("active", nodeConfigSource), ("assigned", nodeConfigSource),
      ("lastKnownGood", nodeConfigSource)]

def daemonEndpoint : Schema := .object (int32s ["Port"])

def daemonEndpoints : Schema := .object [("kubeletEndpoint", daemonEndpoint)]

def nodeFeatures : Schema := .object (flags ["supplementalGroupsPolicy"])

def nodeImage : Schema := .object (int64s ["sizeBytes"] ++ textLists ["names"])

def nodeSwap : Schema := .object (int64s ["capacity"])

def nodeSystem : Schema :=
  .object <|
    texts ["architecture", "bootID", "containerRuntimeVersion", "kernelVersion", "kubeProxyVersion",
      "kubeletVersion", "machineID", "operatingSystem", "osImage", "systemUUID"] ++
    [("swap", nodeSwap)]

def handlerFeatures : Schema := .object (flags ["recursiveReadOnlyMounts", "userNamespaces"])

def runtimeHandler : Schema := .object (texts ["name"] ++ [("features", handlerFeatures)])

def attachedVolume : Schema := .object (texts ["devicePath", "name"])

def nodeStatus : Schema :=
  .object <|
    texts ["phase"] ++
    textLists ["volumesInUse"] ++
    textMaps ["allocatable", "capacity"] ++
    [("addresses", .list nodeAddress), ("conditions", .list nodeCondition),
      ("config", nodeConfigStatus), ("daemonEndpoints", daemonEndpoints),
      ("features", nodeFeatures), ("images", .list nodeImage), ("nodeInfo", nodeSystem),
      ("runtimeHandlers", .list runtimeHandler), ("volumesAttached", .list attachedVolume)]

def node : Schema :=
  .object <|
    [("apiVersion", .constant "v1"), ("kind", .constant "Node"), ("metadata", objectMetadata),
      ("spec", nodeSpec), ("status", nodeStatus)]

end Schema
end Cluster
end ClusterTriage
