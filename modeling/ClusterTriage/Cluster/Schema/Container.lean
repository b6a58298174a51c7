import ClusterTriage.Cluster.Schema.Volume

/-!
# Containers

The shape of a container: its environment, its probes, its resources and what it is allowed.
-/

namespace ClusterTriage
namespace Cluster
namespace Schema

def keySelector : Schema := .object (texts ["key", "name"] ++ flags ["optional"])

def fileKeySelector : Schema := .object (texts ["key", "path", "volumeName"] ++ flags ["optional"])

def variableSource : Schema :=
  .object <|
    [("configMapKeyRef", keySelector), ("fieldRef", fieldReference),
      ("fileKeyRef", fileKeySelector), ("resourceFieldRef", resourceFieldReference),
      ("secretKeyRef", keySelector)]

def environmentVariable : Schema :=
  .object (texts ["name", "value"] ++ [("valueFrom", variableSource)])

/-- A map or secret that may be missing. -/
def optionalReference : Schema := .object (texts ["name"] ++ flags ["optional"])

/-- Where many variables come from. -/
def variablesSource : Schema :=
  .object <|
    texts ["prefix"] ++
    [("configMapRef", optionalReference), ("secretRef", optionalReference)]

def commandAction : Schema := .object (textLists ["command"])

def httpAction : Schema :=
  .object <|
    texts ["host", "path", "scheme"] ++
    [("httpHeaders", .list nameValue), ("port", .intOrText)]

def sleepAction : Schema := .object (int64s ["seconds"])

def socketAction : Schema := .object (texts ["host"] ++ [("port", .intOrText)])

def grpcAction : Schema := .object (texts ["service"] ++ int32s ["port"])

def lifecycleHandler : Schema :=
  .object <|
    [("exec", commandAction), ("httpGet", httpAction), ("sleep", sleepAction),
      ("tcpSocket", socketAction)]

/-- The turns of a container's life. -/
def lifecycle : Schema :=
  .object (texts ["stopSignal"] ++ [("postStart", lifecycleHandler), ("preStop", lifecycleHandler)])

def probe : Schema :=
  .object <|
    int32s ["failureThreshold", "initialDelaySeconds", "periodSeconds", "successThreshold",
      "timeoutSeconds"] ++
    int64s ["terminationGracePeriodSeconds"] ++
    [("exec", commandAction), ("grpc", grpcAction), ("httpGet", httpAction),
      ("tcpSocket", socketAction)]

def containerPort : Schema :=
  .object (texts ["hostIP", "name", "protocol"] ++ int32s ["containerPort", "hostPort"])

/-- What a change of resources entails. -/
def resizePolicy : Schema := .object (texts ["resourceName", "restartPolicy"])

def resourceClaimUse : Schema := .object (texts ["name", "request"])

def resourceRequirements : Schema :=
  .object (textMaps ["limits", "requests"] ++ [("claims", .list resourceClaimUse)])

def profile : Schema := .object (texts ["localhostProfile", "type"])

def capabilities : Schema := .object (textLists ["add", "drop"])

def seLinuxOptions : Schema := .object (texts ["level", "role", "type", "user"])

def windowsOptions : Schema :=
  .object <|
    texts ["gmsaCredentialSpec", "gmsaCredentialSpecName", "runAsUserName"] ++
    flags ["hostProcess"]

def securityContext : Schema :=
  .object <|
    texts ["procMount"] ++
    flags ["allowPrivilegeEscalation", "privileged", "readOnlyRootFilesystem", "runAsNonRoot"] ++
    int64s ["runAsGroup", "runAsUser"] ++
    [("appArmorProfile", profile), ("capabilities", capabilities),
      ("seLinuxOptions", seLinuxOptions), ("seccompProfile", profile),
      ("windowsOptions", windowsOptions)]

def volumeDevice : Schema := .object (texts ["devicePath", "name"])

def volumeMount : Schema :=
  .object <|
    texts ["mountPath", "mountPropagation", "name", "recursiveReadOnly", "subPath",
      "subPathExpr"] ++
    flags ["readOnly"]

def exitCodes : Schema := .object (texts ["operator"] ++ [("values", .list .int32)])

def restartRule : Schema := .object (texts ["action"] ++ [("exitCodes", exitCodes)])

def containerFields : List (String × Schema) :=
  texts ["image", "imagePullPolicy", "name", "restartPolicy", "terminationMessagePath",
    "terminationMessagePolicy", "workingDir"] ++
  flags ["stdin", "stdinOnce", "tty"] ++
  textLists ["args", "command"] ++
  [("env", .list environmentVariable), ("envFrom", .list variablesSource), ("lifecycle", lifecycle),
    ("livenessProbe", probe), ("ports", .list containerPort), ("readinessProbe", probe),
    ("resizePolicy", .list resizePolicy), ("resources", resourceRequirements),
    ("restartPolicyRules", .list restartRule), ("securityContext", securityContext),
    ("startupProbe", probe), ("volumeDevices", .list volumeDevice),
    ("volumeMounts", .list volumeMount)]

def container : Schema := .object containerFields

/-- A container that is added to a running pod. -/
def ephemeralContainer : Schema :=
  .object (containerFields ++ texts ["targetContainerName"])

end Schema
end Cluster
end ClusterTriage
