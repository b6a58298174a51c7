import ClusterTriage.Cluster.Schema.Claim

/-!
# Volumes

The shape of the volumes of a pod. A volume has exactly one source, but what is checked is only that
every source that is written has its shape.
-/

namespace ClusterTriage
namespace Cluster
namespace Schema

/-- A key of a map, and the file it becomes. -/
def keyToPath : Schema := .object (texts ["key", "path"] ++ int32s ["mode"])

def fieldReference : Schema := .object (texts ["apiVersion", "fieldPath"])

def resourceFieldReference : Schema := .object (texts ["containerName", "divisor", "resource"])

def downwardFile : Schema :=
  .object <|
    texts ["path"] ++
    int32s ["mode"] ++
    [("fieldRef", fieldReference), ("resourceFieldRef", resourceFieldReference)]

def blockStoreVolume : Schema :=
  .object (texts ["fsType", "volumeID"] ++ flags ["readOnly"] ++ int32s ["partition"])

/-- A disk of one provider. -/
def cachedDiskVolume : Schema :=
  .object (texts ["cachingMode", "diskName", "diskURI", "fsType", "kind"] ++ flags ["readOnly"])

def shareVolume : Schema := .object (texts ["secretName", "shareName"] ++ flags ["readOnly"])

def cephVolume : Schema :=
  .object <|
    texts ["path", "secretFile", "user"] ++
    flags ["readOnly"] ++
    textLists ["monitors"] ++
    [("secretRef", localObjectReference)]

/-- A disk of one provider. -/
def volumeWithSecretVolume : Schema :=
  .object <|
    texts ["fsType", "volumeID"] ++
    flags ["readOnly"] ++
    [("secretRef", localObjectReference)]

def configMapVolume : Schema :=
  .object <|
    texts ["name"] ++
    flags ["optional"] ++
    int32s ["defaultMode"] ++
    [("items", .list keyToPath)]

def driverVolume : Schema :=
  .object <|
    texts ["driver", "fsType"] ++
    flags ["readOnly"] ++
    textMaps ["volumeAttributes"] ++
    [("nodePublishSecretRef", localObjectReference)]

def downwardVolume : Schema := .object (int32s ["defaultMode"] ++ [("items", .list downwardFile)])

def emptyDirVolume : Schema := .object (texts ["medium", "sizeLimit"])

def claimTemplate : Schema := .object [("metadata", objectMetadata), ("spec", claimSpec)]

def ephemeralVolume : Schema := .object [("volumeClaimTemplate", claimTemplate)]

def channelVolume : Schema :=
  .object <|
    texts ["fsType"] ++
    flags ["readOnly"] ++
    int32s ["lun"] ++
    textLists ["targetWWNs", "wwids"]

def flexVolume : Schema :=
  .object <|
    texts ["driver", "fsType"] ++
    flags ["readOnly"] ++
    textMaps ["options"] ++
    [("secretRef", localObjectReference)]

/-- A data set. -/
def dataSetVolume : Schema := .object (texts ["datasetName", "datasetUUID"])

def persistentDiskVolume : Schema :=
  .object (texts ["fsType", "pdName"] ++ flags ["readOnly"] ++ int32s ["partition"])

def repositoryVolume : Schema := .object (texts ["directory", "repository", "revision"])

def endpointsVolume : Schema := .object (texts ["endpoints", "path"] ++ flags ["readOnly"])

def hostPathVolume : Schema := .object (texts ["path", "type"])

def imageVolume : Schema := .object (texts ["pullPolicy", "reference"])

/-- A disk on a network. -/
def iscsiVolume : Schema :=
  .object <|
    texts ["fsType", "initiatorName", "iqn", "iscsiInterface", "targetPortal"] ++
    flags ["chapAuthDiscovery", "chapAuthSession", "readOnly"] ++
    int32s ["lun"] ++
    textLists ["portals"] ++
    [("secretRef", localObjectReference)]

def nfsVolume : Schema := .object (texts ["path", "server"] ++ flags ["readOnly"])

def claimVolume : Schema := .object (texts ["claimName"] ++ flags ["readOnly"])

/-- A disk of one provider. -/
def diskByIdVolume : Schema := .object (texts ["fsType", "pdID"])

def volumeByIdVolume : Schema := .object (texts ["fsType", "volumeID"] ++ flags ["readOnly"])

def trustBundle : Schema :=
  .object <|
    texts ["name", "path", "signerName"] ++
    flags ["optional"] ++
    [("labelSelector", labelSelector)]

/-- A map or secret among other sources. -/
def projectedMap : Schema :=
  .object (texts ["name"] ++ flags ["optional"] ++ [("items", .list keyToPath)])

/-- Fields of the pod among other sources. -/
def projectedFields : Schema := .object [("items", .list downwardFile)]

def podCertificate : Schema :=
  .object <|
    texts ["certificateChainPath", "credentialBundlePath", "keyPath", "keyType", "signerName"] ++
    int32s ["maxExpirationSeconds"]

def accountToken : Schema := .object (texts ["audience", "path"] ++ int64s ["expirationSeconds"])

/-- One of several sources of a volume. -/
def volumeProjection : Schema :=
  .object <|
    [("clusterTrustBundle", trustBundle), ("configMap", projectedMap),
      ("downwardAPI", projectedFields), ("podCertificate", podCertificate),
      ("secret", projectedMap), ("serviceAccountToken", accountToken)]

def projectedVolume : Schema :=
  .object (int32s ["defaultMode"] ++ [("sources", .list volumeProjection)])

/-- A shared file system. -/
def tenantVolume : Schema :=
  .object (texts ["group", "registry", "tenant", "user", "volume"] ++ flags ["readOnly"])

def poolImageVolume : Schema :=
  .object <|
    texts ["fsType", "image", "keyring", "pool", "user"] ++
    flags ["readOnly"] ++
    textLists ["monitors"] ++
    [("secretRef", localObjectReference)]

def systemVolume : Schema :=
  .object <|
    texts ["fsType", "gateway", "protectionDomain", "storageMode", "storagePool", "system",
      "volumeName"] ++
    flags ["readOnly", "sslEnabled"] ++
    [("secretRef", localObjectReference)]

def secretVolume : Schema :=
  .object <|
    texts ["secretName"] ++
    flags ["optional"] ++
    int32s ["defaultMode"] ++
    [("items", .list keyToPath)]

def namespacedVolume : Schema :=
  .object <|
    texts ["fsType", "volumeName", "volumeNamespace"] ++
    flags ["readOnly"] ++
    [("secretRef", localObjectReference)]

def diskByPathVolume : Schema :=
  .object (texts ["fsType", "storagePolicyID", "storagePolicyName", "volumePath"])

def volume : Schema :=
  .object <|
    texts ["name"] ++
    [("awsElasticBlockStore", blockStoreVolume), ("azureDisk", cachedDiskVolume),
      ("azureFile", shareVolume), ("cephfs", cephVolume), ("cinder", volumeWithSecretVolume),
      ("configMap", configMapVolume), ("csi", driverVolume), ("downwardAPI", downwardVolume),
      ("emptyDir", emptyDirVolume), ("ephemeral", ephemeralVolume), ("fc", channelVolume),
      ("flexVolume", flexVolume), ("flocker", dataSetVolume),
      ("gcePersistentDisk", persistentDiskVolume), ("gitRepo", repositoryVolume),
      ("glusterfs", endpointsVolume), ("hostPath", hostPathVolume), ("image", imageVolume),
      ("iscsi", iscsiVolume), ("nfs", nfsVolume), ("persistentVolumeClaim", claimVolume),
      ("photonPersistentDisk", diskByIdVolume), ("portworxVolume", volumeByIdVolume),
      ("projected", projectedVolume), ("quobyte", tenantVolume), ("rbd", poolImageVolume),
      ("scaleIO", systemVolume), ("secret", secretVolume), ("storageos", namespacedVolume),
      ("vsphereVolume", diskByPathVolume)]

end Schema
end Cluster
end ClusterTriage
