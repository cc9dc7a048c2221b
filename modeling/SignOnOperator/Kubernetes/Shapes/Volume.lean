import SignOnOperator.Kubernetes.Shapes.Metadata
/-!
# Shapes of volumes

Where a pod finds what it mounts.
-/
namespace SignOnOperator.Kubernetes.Shapes

def localObjectReference : Shape :=
  .lenient "LocalObjectReference"
    [required "name" .text]

def typedLocalObjectReference : Shape :=
  .lenient "TypedLocalObjectReference"
    [optional "apiGroup" .text, required "kind" .text, required "name" .text]

def typedObjectReference : Shape :=
  .lenient "TypedObjectReference"
    [optional "apiGroup" .text, required "kind" .text, required "name" .text, optional "namespace" .text]

def objectReference : Shape :=
  .lenient "ObjectReference"
    [optional "apiVersion" .text, optional "fieldPath" .text, optional "kind" .text, optional "name" .text,
      optional "namespace" .text, optional "resourceVersion" .text, optional "uid" .text]

def objectFieldSelector : Shape :=
  .lenient "ObjectFieldSelector"
    [optional "apiVersion" .text, required "fieldPath" .text]

def resourceFieldSelector : Shape :=
  .lenient "ResourceFieldSelector"
    [optional "containerName" .text, optional "divisor" .text, required "resource" .text]

def keyToPath : Shape :=
  .lenient "KeyToPath"
    [required "key" .text, optional "mode" .int32, required "path" .text]

def downwardAPIVolumeFile : Shape :=
  .lenient "DownwardAPIVolumeFile"
    [optional "fieldRef" objectFieldSelector, optional "mode" .int32, required "path" .text,
      optional "resourceFieldRef" resourceFieldSelector]

def awsElasticBlockStoreVolumeSource : Shape :=
  .lenient "AWSElasticBlockStoreVolumeSource"
    [optional "fsType" .text, optional "partition" .int32, optional "readOnly" .boolean, required "volumeID" .text]

def azureDiskVolumeSource : Shape :=
  .lenient "AzureDiskVolumeSource"
    [optional "cachingMode" .text, required "diskName" .text, required "diskURI" .text, optional "fsType" .text,
      optional "kind" .text, optional "readOnly" .boolean]

def azureFileVolumeSource : Shape :=
  .lenient "AzureFileVolumeSource"
    [optional "readOnly" .boolean, required "secretName" .text, required "shareName" .text]

def cephFSVolumeSource : Shape :=
  .lenient "CephFSVolumeSource"
    [required "monitors" (.list .text), optional "path" .text, optional "readOnly" .boolean,
      optional "secretFile" .text, optional "secretRef" localObjectReference, optional "user" .text]

def cinderVolumeSource : Shape :=
  .lenient "CinderVolumeSource"
    [optional "fsType" .text, optional "readOnly" .boolean, optional "secretRef" localObjectReference,
      required "volumeID" .text]

def configMapVolumeSource : Shape :=
  .lenient "ConfigMapVolumeSource"
    [optional "defaultMode" .int32, optional "items" (.list keyToPath), required "name" .text,
      optional "optional" .boolean]

def csiVolumeSource : Shape :=
  .lenient "CSIVolumeSource"
    [required "driver" .text, optional "fsType" .text, optional "nodePublishSecretRef" localObjectReference,
      optional "readOnly" .boolean, optional "volumeAttributes" (.map .text)]

def downwardAPIVolumeSource : Shape :=
  .lenient "DownwardAPIVolumeSource"
    [optional "defaultMode" .int32, optional "items" (.list downwardAPIVolumeFile)]

def emptyDirVolumeSource : Shape :=
  .lenient "EmptyDirVolumeSource"
    [optional "medium" .text, optional "sizeLimit" .text]

def volumeResourceRequirements : Shape :=
  .lenient "VolumeResourceRequirements"
    [optional "limits" (.map .text), optional "requests" (.map .text)]

def persistentVolumeClaimSpec : Shape :=
  .lenient "PersistentVolumeClaimSpec"
    [optional "accessModes" (.list .text), optional "dataSource" typedLocalObjectReference,
      optional "dataSourceRef" typedObjectReference, optional "resources" volumeResourceRequirements,
      optional "selector" labelSelector, optional "storageClassName" .text,
      optional "volumeAttributesClassName" .text, optional "volumeMode" .text, optional "volumeName" .text]

def persistentVolumeClaimTemplate : Shape :=
  .lenient "PersistentVolumeClaimTemplate"
    [optional "metadata" objectMeta, required "spec" persistentVolumeClaimSpec]

def ephemeralVolumeSource : Shape :=
  .lenient "EphemeralVolumeSource"
    [optional "volumeClaimTemplate" persistentVolumeClaimTemplate]

def fcVolumeSource : Shape :=
  .lenient "FCVolumeSource"
    [optional "fsType" .text, optional "lun" .int32, optional "readOnly" .boolean,
      optional "targetWWNs" (.list .text), optional "wwids" (.list .text)]

def flexVolumeSource : Shape :=
  .lenient "FlexVolumeSource"
    [required "driver" .text, optional "fsType" .text, optional "options" (.map .text),
      optional "readOnly" .boolean, optional "secretRef" localObjectReference]

def flockerVolumeSource : Shape :=
  .lenient "FlockerVolumeSource"
    [optional "datasetName" .text, optional "datasetUUID" .text]

def gcePersistentDiskVolumeSource : Shape :=
  .lenient "GCEPersistentDiskVolumeSource"
    [optional "fsType" .text, optional "partition" .int32, required "pdName" .text, optional "readOnly" .boolean]

def gitRepoVolumeSource : Shape :=
  .lenient "GitRepoVolumeSource"
    [optional "directory" .text, required "repository" .text, optional "revision" .text]

def glusterfsVolumeSource : Shape :=
  .lenient "GlusterfsVolumeSource"
    [required "endpoints" .text, required "path" .text, optional "readOnly" .boolean]

def hostPathVolumeSource : Shape :=
  .lenient "HostPathVolumeSource"
    [required "path" .text, optional "type" .text]

def imageVolumeSource : Shape :=
  .lenient "ImageVolumeSource"
    [optional "pullPolicy" .text, optional "reference" .text]

def iscsiVolumeSource : Shape :=
  .lenient "ISCSIVolumeSource"
    [optional "chapAuthDiscovery" .boolean, optional "chapAuthSession" .boolean, optional "fsType" .text,
      optional "initiatorName" .text, required "iqn" .text, optional "iscsiInterface" .text, required "lun" .int32,
      optional "portals" (.list .text), optional "readOnly" .boolean, optional "secretRef" localObjectReference,
      required "targetPortal" .text]

def nfsVolumeSource : Shape :=
  .lenient "NFSVolumeSource"
    [required "path" .text, optional "readOnly" .boolean, required "server" .text]

def persistentVolumeClaimVolumeSource : Shape :=
  .lenient "PersistentVolumeClaimVolumeSource"
    [required "claimName" .text, optional "readOnly" .boolean]

def photonPersistentDiskVolumeSource : Shape :=
  .lenient "PhotonPersistentDiskVolumeSource"
    [optional "fsType" .text, required "pdID" .text]

def portworxVolumeSource : Shape :=
  .lenient "PortworxVolumeSource"
    [optional "fsType" .text, optional "readOnly" .boolean, required "volumeID" .text]

def clusterTrustBundleProjection : Shape :=
  .lenient "ClusterTrustBundleProjection"
    [optional "labelSelector" labelSelector, optional "name" .text, optional "optional" .boolean,
      required "path" .text, optional "signerName" .text]

def configMapProjection : Shape :=
  .lenient "ConfigMapProjection"
    [optional "items" (.list keyToPath), required "name" .text, optional "optional" .boolean]

def downwardAPIProjection : Shape :=
  .lenient "DownwardAPIProjection"
    [optional "items" (.list downwardAPIVolumeFile)]

def secretProjection : Shape :=
  .lenient "SecretProjection"
    [optional "items" (.list keyToPath), required "name" .text, optional "optional" .boolean]

def serviceAccountTokenProjection : Shape :=
  .lenient "ServiceAccountTokenProjection"
    [optional "audience" .text, optional "expirationSeconds" .int64, required "path" .text]

def volumeProjection : Shape :=
  .lenient "VolumeProjection"
    [optional "clusterTrustBundle" clusterTrustBundleProjection, optional "configMap" configMapProjection,
      optional "downwardAPI" downwardAPIProjection, optional "secret" secretProjection,
      optional "serviceAccountToken" serviceAccountTokenProjection]

def projectedVolumeSource : Shape :=
  .lenient "ProjectedVolumeSource"
    [optional "defaultMode" .int32, optional "sources" (.list volumeProjection)]

def quobyteVolumeSource : Shape :=
  .lenient "QuobyteVolumeSource"
    [optional "group" .text, optional "readOnly" .boolean, required "registry" .text, optional "tenant" .text,
      optional "user" .text, required "volume" .text]

def rbdVolumeSource : Shape :=
  .lenient "RBDVolumeSource"
    [optional "fsType" .text, required "image" .text, optional "keyring" .text, required "monitors" (.list .text),
      optional "pool" .text, optional "readOnly" .boolean, optional "secretRef" localObjectReference,
      optional "user" .text]

def scaleIOVolumeSource : Shape :=
  .lenient "ScaleIOVolumeSource"
    [optional "fsType" .text, required "gateway" .text, optional "protectionDomain" .text,
      optional "readOnly" .boolean, required "secretRef" localObjectReference, optional "sslEnabled" .boolean,
      optional "storageMode" .text, optional "storagePool" .text, required "system" .text,
      optional "volumeName" .text]

def secretVolumeSource : Shape :=
  .lenient "SecretVolumeSource"
    [optional "defaultMode" .int32, optional "items" (.list keyToPath), optional "optional" .boolean,
      optional "secretName" .text]

def storageOSVolumeSource : Shape :=
  .lenient "StorageOSVolumeSource"
    [optional "fsType" .text, optional "readOnly" .boolean, optional "secretRef" localObjectReference,
      optional "volumeName" .text, optional "volumeNamespace" .text]

def vsphereVirtualDiskVolumeSource : Shape :=
  .lenient "VsphereVirtualDiskVolumeSource"
    [optional "fsType" .text, optional "storagePolicyID" .text, optional "storagePolicyName" .text,
      required "volumePath" .text]

def volume : Shape :=
  .lenient "Volume"
    [optional "awsElasticBlockStore" awsElasticBlockStoreVolumeSource, optional "azureDisk" azureDiskVolumeSource,
      optional "azureFile" azureFileVolumeSource, optional "cephfs" cephFSVolumeSource,
      optional "cinder" cinderVolumeSource, optional "configMap" configMapVolumeSource,
      optional "csi" csiVolumeSource, optional "downwardAPI" downwardAPIVolumeSource,
      optional "emptyDir" emptyDirVolumeSource, optional "ephemeral" ephemeralVolumeSource,
      optional "fc" fcVolumeSource, optional "flexVolume" flexVolumeSource, optional "flocker" flockerVolumeSource,
      optional "gcePersistentDisk" gcePersistentDiskVolumeSource, optional "gitRepo" gitRepoVolumeSource,
      optional "glusterfs" glusterfsVolumeSource, optional "hostPath" hostPathVolumeSource,
      optional "image" imageVolumeSource, optional "iscsi" iscsiVolumeSource, required "name" .text,
      optional "nfs" nfsVolumeSource, optional "persistentVolumeClaim" persistentVolumeClaimVolumeSource,
      optional "photonPersistentDisk" photonPersistentDiskVolumeSource,
      optional "portworxVolume" portworxVolumeSource, optional "projected" projectedVolumeSource,
      optional "quobyte" quobyteVolumeSource, optional "rbd" rbdVolumeSource,
      optional "scaleIO" scaleIOVolumeSource, optional "secret" secretVolumeSource,
      optional "storageos" storageOSVolumeSource, optional "vsphereVolume" vsphereVirtualDiskVolumeSource]

end SignOnOperator.Kubernetes.Shapes
