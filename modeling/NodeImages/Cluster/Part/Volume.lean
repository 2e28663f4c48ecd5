import NodeImages.Cluster.Part.Basic

/-!
# Volumes of pods

A volume has a name and, in a field of its own kind, what is in it.
-/

namespace NodeImages.Cluster.Part

open Json

/-- A volume source with texts and with truth values. -/
def plainSource (expected : String) (names flags : List String) : Schema Unit :=
  .checked expected (FieldSchema.allUnused .text names ++ FieldSchema.allUnused .truth flags)

/-- A volume source with texts, truth values and a reference to a secret. -/
def secretSource (expected : String) (names flags : List String)
    (others : List (FieldSchema Unit) := []) : Schema Unit :=
  .checked expected
    (FieldSchema.allUnused .text names ++ FieldSchema.allUnused .truth flags ++
      .unused "secretRef" localReference :: others)

/-- A file that a key becomes. -/
def keyToPath : Schema Unit :=
  .checked "KeyToPath" (.unused "mode" int32 :: FieldSchema.allUnused .text ["key", "path"])

/-- A file that a field of the pod becomes. -/
def podFile : Schema Unit :=
  .checked "DownwardAPIVolumeFile"
    [.unused "fieldRef" fieldSelector, .unused "mode" int32, .unused "path" .text,
      .unused "resourceFieldRef" resourceFieldSelector]

/-- The keys of an object that become files. -/
def keySource (expected nameField : String) (others : List (FieldSchema Unit)) : Schema Unit :=
  .checked expected
    ([.unused "items" (.list keyToPath), .unused nameField .text, .unused "optional" .truth] ++ others)

/-- Where the files of a projected volume come from. -/
def projection : Schema Unit :=
  .checked "VolumeProjection"
    [.unused "clusterTrustBundle"
        (.checked "ClusterTrustBundleProjection"
          ([.unused "labelSelector" labelSelector, .unused "optional" .truth] ++
            FieldSchema.allUnused .text ["name", "path", "signerName"])),
      .unused "configMap" (keySource "ConfigMapProjection" "name" []),
      .unused "downwardAPI"
        (.checked "DownwardAPIProjection" [.unused "items" (.list podFile)]),
      .unused "secret" (keySource "SecretProjection" "name" []),
      .unused "serviceAccountToken"
        (.checked "ServiceAccountTokenProjection"
          [.unused "audience" .text, .unused "expirationSeconds" int64, .unused "path" .text])]

/-- What is asked of storage that is claimed. -/
def claimSpec : Schema Unit :=
  .checked "PersistentVolumeClaimSpec"
    ([.unused "accessModes" textList,
      .unused "dataSource" (textsOnly "TypedLocalObjectReference" ["apiGroup", "kind", "name"]),
      .unused "dataSourceRef"
        (textsOnly "TypedObjectReference" ["apiGroup", "kind", "name", "namespace"]),
      .unused "resources"
        (.checked "VolumeResourceRequirements"
          [.unused "limits" quantities, .unused "requests" quantities]),
      .unused "selector" labelSelector] ++
      FieldSchema.allUnused .text
        ["storageClassName", "volumeAttributesClassName", "volumeMode", "volumeName"])

/-- Storage that is claimed for as long as the pod lives. -/
def ephemeralSource : Schema Unit :=
  .checked "EphemeralVolumeSource"
    [.unused "volumeClaimTemplate"
      (.checked "PersistentVolumeClaimTemplate"
        [.unused "metadata" ObjectMeta.schema, .unused "spec" claimSpec])]

/-- The disks that a volume may lie on. -/
def diskSources : List (FieldSchema Unit) :=
  [.unused "awsElasticBlockStore"
      (.checked "AWSElasticBlockStoreVolumeSource"
        [.unused "fsType" .text, .unused "partition" int32, .unused "readOnly" .truth,
          .unused "volumeID" .text]),
    .unused "azureDisk"
      (plainSource "AzureDiskVolumeSource" ["cachingMode", "diskName", "diskURI", "fsType", "kind"]
        ["readOnly"]),
    .unused "azureFile" (plainSource "AzureFileVolumeSource" ["secretName", "shareName"] ["readOnly"]),
    .unused "cephfs"
      (secretSource "CephFSVolumeSource" ["path", "secretFile", "user"] ["readOnly"]
        [.unused "monitors" textList]),
    .unused "cinder" (secretSource "CinderVolumeSource" ["fsType", "volumeID"] ["readOnly"]),
    .unused "fc"
      (.checked "FCVolumeSource"
        [.unused "fsType" .text, .unused "lun" int32, .unused "readOnly" .truth,
          .unused "targetWWNs" textList, .unused "wwids" textList]),
    .unused "flexVolume"
      (secretSource "FlexVolumeSource" ["driver", "fsType"] ["readOnly"] [.unused "options" texts]),
    .unused "flocker" (textsOnly "FlockerVolumeSource" ["datasetName", "datasetUUID"]),
    .unused "gcePersistentDisk"
      (.checked "GCEPersistentDiskVolumeSource"
        [.unused "fsType" .text, .unused "partition" int32, .unused "pdName" .text,
          .unused "readOnly" .truth]),
    .unused "glusterfs" (plainSource "GlusterfsVolumeSource" ["endpoints", "path"] ["readOnly"]),
    .unused "iscsi"
      (secretSource "ISCSIVolumeSource"
        ["fsType", "initiatorName", "iqn", "iscsiInterface", "targetPortal"]
        ["chapAuthDiscovery", "chapAuthSession", "readOnly"]
        [.unused "lun" int32, .unused "portals" textList]),
    .unused "nfs" (plainSource "NFSVolumeSource" ["path", "server"] ["readOnly"]),
    .unused "photonPersistentDisk" (textsOnly "PhotonPersistentDiskVolumeSource" ["fsType", "pdID"]),
    .unused "portworxVolume" (plainSource "PortworxVolumeSource" ["fsType", "volumeID"] ["readOnly"]),
    .unused "quobyte"
      (plainSource "QuobyteVolumeSource" ["group", "registry", "tenant", "user", "volume"]
        ["readOnly"]),
    .unused "rbd"
      (secretSource "RBDVolumeSource" ["fsType", "image", "keyring", "pool", "user"] ["readOnly"]
        [.unused "monitors" textList]),
    .unused "scaleIO"
      (secretSource "ScaleIOVolumeSource"
        ["fsType", "gateway", "protectionDomain", "storageMode", "storagePool", "system", "volumeName"]
        ["readOnly", "sslEnabled"]),
    .unused "storageos"
      (secretSource "StorageOSVolumeSource" ["fsType", "volumeName", "volumeNamespace"] ["readOnly"]),
    .unused "vsphereVolume"
      (textsOnly "VsphereVirtualDiskVolumeSource"
        ["fsType", "storagePolicyID", "storagePolicyName", "volumePath"])]

/-- The objects of the cluster and of the node that a volume may show. -/
def objectSources : List (FieldSchema Unit) :=
  [.unused "configMap" (keySource "ConfigMapVolumeSource" "name" [.unused "defaultMode" int32]),
    .unused "csi"
      (.checked "CSIVolumeSource"
        [.unused "driver" .text, .unused "fsType" .text, .unused "nodePublishSecretRef" localReference,
          .unused "readOnly" .truth, .unused "volumeAttributes" texts]),
    .unused "downwardAPI"
      (.checked "DownwardAPIVolumeSource"
        [.unused "defaultMode" int32, .unused "items" (.list podFile)]),
    .unused "emptyDir" (textsOnly "EmptyDirVolumeSource" ["medium", "sizeLimit"]),
    .unused "ephemeral" ephemeralSource,
    .unused "gitRepo" (textsOnly "GitRepoVolumeSource" ["directory", "repository", "revision"]),
    .unused "hostPath" (textsOnly "HostPathVolumeSource" ["path", "type"]),
    .unused "image" (textsOnly "ImageVolumeSource" ["pullPolicy", "reference"]),
    .unused "persistentVolumeClaim"
      (plainSource "PersistentVolumeClaimVolumeSource" ["claimName"] ["readOnly"]),
    .unused "projected"
      (.checked "ProjectedVolumeSource"
        [.unused "defaultMode" int32, .unused "sources" (.list projection)]),
    .unused "secret" (keySource "SecretVolumeSource" "secretName" [.unused "defaultMode" int32])]

/-- A volume of a pod. -/
def volume : Schema Unit :=
  .checked "Volume" (.unused "name" .text :: diskSources ++ objectSources)

end NodeImages.Cluster.Part
