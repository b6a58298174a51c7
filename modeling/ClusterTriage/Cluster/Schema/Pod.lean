import ClusterTriage.Cluster.Schema.Container

/-!
# Pods

The shape of a pod: what it is made of and how it is.
-/

namespace ClusterTriage
namespace Cluster
namespace Schema

def nodeRequirement : Schema := .object (texts ["key", "operator"] ++ textLists ["values"])

/-- Requirements that hold together. -/
def nodeTerm : Schema :=
  .object [("matchExpressions", .list nodeRequirement), ("matchFields", .list nodeRequirement)]

def nodeSelector : Schema := .object [("nodeSelectorTerms", .list nodeTerm)]

def preferredNodes : Schema := .object (int32s ["weight"] ++ [("preference", nodeTerm)])

def nodeAffinity : Schema :=
  .object <|
    [("preferredDuringSchedulingIgnoredDuringExecution", .list preferredNodes),
      ("requiredDuringSchedulingIgnoredDuringExecution", nodeSelector)]

def podTerm : Schema :=
  .object <|
    texts ["topologyKey"] ++
    textLists ["matchLabelKeys", "mismatchLabelKeys", "namespaces"] ++
    [("labelSelector", labelSelector), ("namespaceSelector", labelSelector)]

/-- A term with a weight. -/
def preferredPods : Schema := .object (int32s ["weight"] ++ [("podAffinityTerm", podTerm)])

def podAffinity : Schema :=
  .object <|
    [("preferredDuringSchedulingIgnoredDuringExecution", .list preferredPods),
      ("requiredDuringSchedulingIgnoredDuringExecution", .list podTerm)]

def affinity : Schema :=
  .object <|
    [("nodeAffinity", nodeAffinity), ("podAffinity", podAffinity), ("podAntiAffinity", podAffinity)]

def nameServers : Schema :=
  .object (textLists ["nameservers", "searches"] ++ [("options", .list nameValue)])

def hostAlias : Schema := .object (texts ["ip"] ++ textLists ["hostnames"])

/-- A condition that readiness needs. -/
def readinessGate : Schema := .object (texts ["conditionType"])

/-- A claimed resource of a pod. -/
def podResourceClaim : Schema :=
  .object (texts ["name", "resourceClaimName", "resourceClaimTemplateName"])

def podSecurityContext : Schema :=
  .object <|
    texts ["fsGroupChangePolicy", "seLinuxChangePolicy", "supplementalGroupsPolicy"] ++
    flags ["runAsNonRoot"] ++
    int64s ["fsGroup", "runAsGroup", "runAsUser"] ++
    [("appArmorProfile", profile), ("seLinuxOptions", seLinuxOptions), ("seccompProfile", profile),
      ("supplementalGroups", .list .int64), ("sysctls", .list nameValue),
      ("windowsOptions", windowsOptions)]

def toleration : Schema :=
  .object (texts ["effect", "key", "operator", "value"] ++ int64s ["tolerationSeconds"])

def spreadConstraint : Schema :=
  .object <|
    texts ["nodeAffinityPolicy", "nodeTaintsPolicy", "topologyKey", "whenUnsatisfiable"] ++
    int32s ["maxSkew", "minDomains"] ++
    textLists ["matchLabelKeys"] ++
    [("labelSelector", labelSelector)]

/-- What a pod is made of. -/
def podSpec : Schema :=
  .object <|
    texts ["dnsPolicy", "hostname", "hostnameOverride", "nodeName", "preemptionPolicy",
      "priorityClassName", "restartPolicy", "runtimeClassName", "schedulerName", "serviceAccount",
      "serviceAccountName", "subdomain"] ++
    flags ["automountServiceAccountToken", "enableServiceLinks", "hostIPC", "hostNetwork",
      "hostPID", "hostUsers", "setHostnameAsFQDN", "shareProcessNamespace"] ++
    int32s ["priority"] ++
    int64s ["activeDeadlineSeconds", "terminationGracePeriodSeconds"] ++
    textMaps ["nodeSelector", "overhead"] ++
    [("affinity", affinity), ("containers", .list container), ("dnsConfig", nameServers),
      ("ephemeralContainers", .list ephemeralContainer), ("hostAliases", .list hostAlias),
      ("imagePullSecrets", .list localObjectReference), ("initContainers", .list container),
      ("os", localObjectReference), ("readinessGates", .list readinessGate),
      ("resourceClaims", .list podResourceClaim), ("resources", resourceRequirements),
      ("schedulingGates", .list localObjectReference), ("securityContext", podSecurityContext),
      ("tolerations", .list toleration), ("topologySpreadConstraints", .list spreadConstraint),
      ("volumes", .list volume)]

/-- What pods are made after. -/
def podTemplate : Schema := .object [("metadata", objectMetadata), ("spec", podSpec)]

def podCondition : Schema :=
  .object <|
    texts ["message", "reason", "status", "type"] ++
    int64s ["observedGeneration"] ++
    times ["lastProbeTime", "lastTransitionTime"]

def runningState : Schema := .object (times ["startedAt"])

def terminatedState : Schema :=
  .object <|
    texts ["containerID", "message", "reason"] ++
    int32s ["exitCode", "signal"] ++
    times ["finishedAt", "startedAt"]

def waitingState : Schema := .object (texts ["message", "reason"])

def containerState : Schema :=
  .object [("running", runningState), ("terminated", terminatedState), ("waiting", waitingState)]

def resourceHealth : Schema := .object (texts ["health", "resourceID"])

def resourceStatus : Schema := .object (texts ["name"] ++ [("resources", .list resourceHealth)])

def processUser : Schema :=
  .object (int64s ["gid", "uid"] ++ [("supplementalGroups", .list .int64)])

def containerUser : Schema := .object [("linux", processUser)]

/-- A volume that is mounted. -/
def mountStatus : Schema :=
  .object (texts ["mountPath", "name", "recursiveReadOnly"] ++ flags ["readOnly"])

def containerStatus : Schema :=
  .object <|
    texts ["containerID", "image", "imageID", "name", "stopSignal"] ++
    flags ["ready", "started"] ++
    int32s ["restartCount"] ++
    textMaps ["allocatedResources"] ++
    [("allocatedResourcesStatus", .list resourceStatus), ("lastState", containerState),
      ("resources", resourceRequirements), ("state", containerState), ("user", containerUser),
      ("volumeMounts", .list mountStatus)]

/-- A request and the container it is for. -/
def requestMapping : Schema := .object (texts ["containerName", "requestName", "resourceName"])

/-- A claim made for extended resources. -/
def extendedClaim : Schema :=
  .object (texts ["resourceClaimName"] ++ [("requestMappings", .list requestMapping)])

def hostAddress : Schema := .object (texts ["ip"])

def claimNames : Schema := .object (texts ["name", "resourceClaimName"])

def podStatus : Schema :=
  .object <|
    texts ["hostIP", "message", "nominatedNodeName", "phase", "podIP", "qosClass", "reason",
      "resize"] ++
    int64s ["observedGeneration"] ++
    times ["startTime"] ++
    [("conditions", .list podCondition), ("containerStatuses", .list containerStatus),
      ("ephemeralContainerStatuses", .list containerStatus),
      ("extendedResourceClaimStatus", extendedClaim), ("hostIPs", .list hostAddress),
      ("initContainerStatuses", .list containerStatus), ("podIPs", .list hostAddress),
      ("resourceClaimStatuses", .list claimNames)]

def pod : Schema :=
  .object <|
    [("apiVersion", .constant "v1"), ("kind", .constant "Pod"), ("metadata", objectMetadata),
      ("spec", podSpec), ("status", podStatus)]

end Schema
end Cluster
end ClusterTriage
