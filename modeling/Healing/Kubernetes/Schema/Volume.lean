/-
  The shapes of volumes.

  1. **Parts** - keys that become files, claims, projections.
  2. **Sources** - one shape for every kind of volume.
  3. **Volumes** - `volume`, with one field for every kind.
-/
import Healing.Kubernetes.Schema.Meta

namespace Healing.Kubernetes.Schema

open Shape (may must)

/-- A key and the file it becomes. -/
def keyToPath : Shape := .record [
  must "key" .text, may "mode" .int32, must "path" .text]

/-- A field of the pod. -/
def objectFieldSelector : Shape := .record [
  may "apiVersion" .text, must "fieldPath" .text]

/-- A resource of a container. -/
def resourceFieldSelector : Shape := .record [
  may "containerName" .text, may "divisor" .text, must "resource" .text]

/-- A file that shows a field of the pod. -/
def downwardApiFile : Shape := .record [
  may "fieldRef" objectFieldSelector, may "mode" .int32, must "path" .text,
  may "resourceFieldRef" resourceFieldSelector]

/-- An object of the same namespace, with its kind. -/
def typedLocalObjectReference : Shape := .record [
  may "apiGroup" .text, must "kind" .text, must "name" .text]

/-- An object with its kind. -/
def typedObjectReference : Shape := .record [
  may "apiGroup" .text, must "kind" .text, must "name" .text, may "namespace" .text]

/-- The resources of a volume. -/
def volumeResources : Shape := .record [
  may "limits" .textMap, may "requests" .textMap]

/-- What a claim of a volume asks for. -/
def volumeClaimSpec : Shape := .record [
  may "accessModes" .texts, may "dataSource" typedLocalObjectReference,
  may "dataSourceRef" typedObjectReference, may "resources" volumeResources,
  may "selector" labelSelector, may "storageClassName" .text,
  may "volumeAttributesClassName" .text, may "volumeMode" .text, may "volumeName" .text]

/-- A claim of a volume to be made. -/
def volumeClaimTemplate : Shape := .record [
  may "metadata" objectMeta, must "spec" volumeClaimSpec]

/-- The certificates of a trust bundle. -/
def clusterTrustBundleProjection : Shape := .record [
  may "labelSelector" labelSelector, may "name" .text, may "optional" .flag, must "path" .text,
  may "signerName" .text]

/-- The keys of a config map or a secret. -/
def namedProjection : Shape := .record [
  may "items" (.list keyToPath), must "name" .text, may "optional" .flag]

/-- Fields of the pod. -/
def downwardApiProjection : Shape := .record [
  may "items" (.list downwardApiFile)]

/-- The token of a service account. -/
def serviceAccountTokenProjection : Shape := .record [
  may "audience" .text, may "expirationSeconds" .int64, must "path" .text]

/-- A part of a projected volume. -/
def volumeProjection : Shape := .record [
  may "clusterTrustBundle" clusterTrustBundleProjection, may "configMap" namedProjection,
  may "downwardAPI" downwardApiProjection, may "secret" namedProjection,
  may "serviceAccountToken" serviceAccountTokenProjection]

/-- A disk of a cloud. -/
def awsElasticBlockStore : Shape := .record [
  may "fsType" .text, may "partition" .int32, may "readOnly" .flag, must "volumeID" .text]

/-- A disk of a cloud. -/
def azureDisk : Shape := .record [
  may "cachingMode" .text, must "diskName" .text, must "diskURI" .text, may "fsType" .text,
  may "kind" .text, may "readOnly" .flag]

/-- A shared directory of a cloud. -/
def azureFile : Shape := .record [
  may "readOnly" .flag, must "secretName" .text, must "shareName" .text]

/-- A shared file system. -/
def cephFs : Shape := .record [
  must "monitors" .texts, may "path" .text, may "readOnly" .flag, may "secretFile" .text,
  may "secretRef" localObjectReference, may "user" .text]

/-- A disk of a cloud. -/
def cinder : Shape := .record [
  may "fsType" .text, may "readOnly" .flag, may "secretRef" localObjectReference,
  must "volumeID" .text]

/-- The keys of a config map as files. -/
def configMapVolume : Shape := .record [
  may "defaultMode" .int32, may "items" (.list keyToPath), must "name" .text,
  may "optional" .flag]

/-- A volume of a storage driver. -/
def csi : Shape := .record [
  must "driver" .text, may "fsType" .text, may "nodePublishSecretRef" localObjectReference,
  may "readOnly" .flag, may "volumeAttributes" .textMap]

/-- Fields of the pod as files. -/
def downwardApiVolume : Shape := .record [
  may "defaultMode" .int32, may "items" (.list downwardApiFile)]

/-- An empty directory. -/
def emptyDir : Shape := .record [
  may "medium" .text, may "sizeLimit" .text]

/-- A volume that lives as long as the pod. -/
def ephemeralVolume : Shape := .record [
  may "volumeClaimTemplate" volumeClaimTemplate]

/-- A disk behind a fibre channel. -/
def fibreChannel : Shape := .record [
  may "fsType" .text, may "lun" .int32, may "readOnly" .flag, may "targetWWNs" .texts,
  may "wwids" .texts]

/-- A volume of a plugin. -/
def flexVolume : Shape := .record [
  must "driver" .text, may "fsType" .text, may "options" .textMap, may "readOnly" .flag,
  may "secretRef" localObjectReference]

/-- A volume of a data manager. -/
def flocker : Shape := .record [
  may "datasetName" .text, may "datasetUUID" .text]

/-- A disk of a cloud. -/
def gcePersistentDisk : Shape := .record [
  may "fsType" .text, may "partition" .int32, must "pdName" .text, may "readOnly" .flag]

/-- A checkout of a repository. -/
def gitRepo : Shape := .record [
  may "directory" .text, must "repository" .text, may "revision" .text]

/-- A shared file system. -/
def glusterfs : Shape := .record [
  must "endpoints" .text, must "path" .text, may "readOnly" .flag]

/-- A directory of the node. -/
def hostPath : Shape := .record [
  must "path" .text, may "type" .text]

/-- The files of an image. -/
def imageVolume : Shape := .record [
  may "pullPolicy" .text, may "reference" .text]

/-- A disk behind a network. -/
def iscsi : Shape := .record [
  may "chapAuthDiscovery" .flag, may "chapAuthSession" .flag, may "fsType" .text,
  may "initiatorName" .text, must "iqn" .text, may "iscsiInterface" .text, must "lun" .int32,
  may "portals" .texts, may "readOnly" .flag, may "secretRef" localObjectReference,
  must "targetPortal" .text]

/-- A shared directory of a server. -/
def nfs : Shape := .record [
  must "path" .text, may "readOnly" .flag, must "server" .text]

/-- A volume that has been claimed. -/
def volumeClaim : Shape := .record [
  must "claimName" .text, may "readOnly" .flag]

/-- A disk of a cloud. -/
def photonPersistentDisk : Shape := .record [
  may "fsType" .text, must "pdID" .text]

/-- A volume of a storage system. -/
def portworxVolume : Shape := .record [
  may "fsType" .text, may "readOnly" .flag, must "volumeID" .text]

/-- A volume put together from parts. -/
def projectedVolume : Shape := .record [
  may "defaultMode" .int32, may "sources" (.list volumeProjection)]

/-- A volume of a storage system. -/
def quobyte : Shape := .record [
  may "group" .text, may "readOnly" .flag, must "registry" .text, may "tenant" .text,
  may "user" .text, must "volume" .text]

/-- A block device of a storage cluster. -/
def rbd : Shape := .record [
  may "fsType" .text, must "image" .text, may "keyring" .text, must "monitors" .texts,
  may "pool" .text, may "readOnly" .flag, may "secretRef" localObjectReference, may "user" .text]

/-- A volume of a storage system. -/
def scaleIo : Shape := .record [
  may "fsType" .text, must "gateway" .text, may "protectionDomain" .text, may "readOnly" .flag,
  must "secretRef" localObjectReference, may "sslEnabled" .flag, may "storageMode" .text,
  may "storagePool" .text, must "system" .text, may "volumeName" .text]

/-- The keys of a secret as files. -/
def secretVolume : Shape := .record [
  may "defaultMode" .int32, may "items" (.list keyToPath), may "optional" .flag,
  may "secretName" .text]

/-- A volume of a storage system. -/
def storageOs : Shape := .record [
  may "fsType" .text, may "readOnly" .flag, may "secretRef" localObjectReference,
  may "volumeName" .text, may "volumeNamespace" .text]

/-- A disk of a virtual machine host. -/
def vsphereVolume : Shape := .record [
  may "fsType" .text, may "storagePolicyID" .text, may "storagePolicyName" .text,
  must "volumePath" .text]

/-- A volume of a pod. -/
def volume : Shape := .record [
  may "awsElasticBlockStore" awsElasticBlockStore, may "azureDisk" azureDisk,
  may "azureFile" azureFile, may "cephfs" cephFs, may "cinder" cinder,
  may "configMap" configMapVolume, may "csi" csi, may "downwardAPI" downwardApiVolume,
  may "emptyDir" emptyDir, may "ephemeral" ephemeralVolume, may "fc" fibreChannel,
  may "flexVolume" flexVolume, may "flocker" flocker, may "gcePersistentDisk" gcePersistentDisk,
  may "gitRepo" gitRepo, may "glusterfs" glusterfs, may "hostPath" hostPath,
  may "image" imageVolume, may "iscsi" iscsi, must "name" .text, may "nfs" nfs,
  may "persistentVolumeClaim" volumeClaim, may "photonPersistentDisk" photonPersistentDisk,
  may "portworxVolume" portworxVolume, may "projected" projectedVolume, may "quobyte" quobyte,
  may "rbd" rbd, may "scaleIO" scaleIo, may "secret" secretVolume, may "storageos" storageOs,
  may "vsphereVolume" vsphereVolume]

end Healing.Kubernetes.Schema
