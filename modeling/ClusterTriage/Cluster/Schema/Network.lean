import ClusterTriage.Cluster.Schema.Metadata

/-!
# Services and ingresses

The shapes of the objects by which pods are reached.
-/

namespace ClusterTriage
namespace Cluster
namespace Schema

def servicePort : Schema :=
  .object <|
    texts ["appProtocol", "name", "protocol"] ++
    int32s ["nodePort", "port"] ++
    [("targetPort", .intOrText)]

/-- How long a client stays with a pod. -/
def clientAffinity : Schema := .object (int32s ["timeoutSeconds"])

def sessionAffinity : Schema := .object [("clientIP", clientAffinity)]

def serviceSpec : Schema :=
  .object <|
    texts ["clusterIP", "externalName", "externalTrafficPolicy", "internalTrafficPolicy",
      "ipFamilyPolicy", "loadBalancerClass", "loadBalancerIP", "sessionAffinity",
      "trafficDistribution", "type"] ++
    flags ["allocateLoadBalancerNodePorts", "publishNotReadyAddresses"] ++
    int32s ["healthCheckNodePort"] ++
    textLists ["clusterIPs", "externalIPs", "ipFamilies", "loadBalancerSourceRanges"] ++
    textMaps ["selector"] ++
    [("ports", .list servicePort), ("sessionAffinityConfig", sessionAffinity)]

def portStatus : Schema := .object (texts ["error", "protocol"] ++ int32s ["port"])

def balancerAddress : Schema :=
  .object (texts ["hostname", "ip", "ipMode"] ++ [("ports", .list portStatus)])

def balancerStatus : Schema := .object [("ingress", .list balancerAddress)]

def serviceStatus : Schema :=
  .object [("conditions", .list condition), ("loadBalancer", balancerStatus)]

def service : Schema :=
  .object <|
    [("apiVersion", .constant "v1"), ("kind", .constant "Service"), ("metadata", objectMetadata),
      ("spec", serviceSpec), ("status", serviceStatus)]

def endpointAddress : Schema :=
  .object (texts ["hostname", "ip", "nodeName"] ++ [("targetRef", objectReference)])

def endpointPort : Schema := .object (texts ["appProtocol", "name", "protocol"] ++ int32s ["port"])

/-- Addresses and ports that belong together. -/
def endpointSubset : Schema :=
  .object <|
    [("addresses", .list endpointAddress), ("notReadyAddresses", .list endpointAddress),
      ("ports", .list endpointPort)]

def endpoints : Schema :=
  .object <|
    [("apiVersion", .constant "v1"), ("kind", .constant "Endpoints"), ("metadata", objectMetadata),
      ("subsets", .list endpointSubset)]

/-- A port of a backend. -/
def backendPort : Schema := .object (texts ["name"] ++ int32s ["number"])

def serviceBackend : Schema := .object (texts ["name"] ++ [("port", backendPort)])

def backend : Schema :=
  .object [("resource", typedLocalObjectReference), ("service", serviceBackend)]

def ingressPath : Schema := .object (texts ["path", "pathType"] ++ [("backend", backend)])

def ingressPaths : Schema := .object [("paths", .list ingressPath)]

def ingressRule : Schema := .object (texts ["host"] ++ [("http", ingressPaths)])

def ingressTls : Schema := .object (texts ["secretName"] ++ textLists ["hosts"])

def ingressSpec : Schema :=
  .object <|
    texts ["ingressClassName"] ++
    [("defaultBackend", backend), ("rules", .list ingressRule), ("tls", .list ingressTls)]

def ingressAddress : Schema := .object (texts ["hostname", "ip"] ++ [("ports", .list portStatus)])

def ingressBalancer : Schema := .object [("ingress", .list ingressAddress)]

def ingressStatus : Schema := .object [("loadBalancer", ingressBalancer)]

def ingress : Schema :=
  .object <|
    [("apiVersion", .constant "networking.k8s.io/v1"), ("kind", .constant "Ingress"),
      ("metadata", objectMetadata), ("spec", ingressSpec), ("status", ingressStatus)]

def ingressParameters : Schema := .object (texts ["apiGroup", "kind", "name", "namespace", "scope"])

def ingressClassSpec : Schema :=
  .object (texts ["controller"] ++ [("parameters", ingressParameters)])

def ingressClass : Schema :=
  .object <|
    [("apiVersion", .constant "networking.k8s.io/v1"), ("kind", .constant "IngressClass"),
      ("metadata", objectMetadata), ("spec", ingressClassSpec)]

end Schema
end Cluster
end ClusterTriage
