import NodeImages.Cluster.Part.Basic
import NodeImages.Image.Name

/-!
# Nodes

A node reports which container runtime it has and which images are on it, each under one name or several.
-/

namespace NodeImages.Cluster

open Json

/-- A node of the cluster. -/
structure Node where
  metadata : ObjectMeta := {}
  /-- The reported version of the container runtime, as in `containerd://1.7.2`. -/
  runtimeVersion : String := ""
  /-- The reported names of the images on the node. -/
  imageNames : List String := []
  deriving Repr, Inhabited

namespace Node

/-- The label that holds the hostname. -/
def hostnameLabel : String := "kubernetes.io/hostname"

/-- The name of a node. -/
def name (node : Node) : String := node.metadata.anyName

/-- The hostname of a node, which is its name unless a label says otherwise. -/
def hostname (node : Node) : String :=
  (node.metadata.label? hostnameLabel).getD node.name

/-- Whether a node reports an image, under whichever of its names. -/
def hasImage (node : Node) (image : String) : Bool :=
  node.imageNames.any (Image.sameImage · image)

/-- A node known by its name alone. -/
def named (name : String) : Node where
  metadata := { name := some name, labels := some (.ofList [(hostnameLabel, name)]) }
  runtimeVersion := "containerd://1.7.2"

/-- Where the configuration of a node comes from. -/
def configSource : Schema Unit :=
  .checked "NodeConfigSource"
    [.unused "configMap"
      (Part.textsOnly "ConfigMapNodeConfigSource"
        ["kubeletConfigKey", "name", "namespace", "resourceVersion", "uid"])]

/-- What is asked of a node. -/
def specSchema : Schema Unit :=
  .checked "NodeSpec"
    ([.unused "configSource" configSource, .unused "podCIDRs" Part.textList,
      .unused "taints"
        (.list (.checked "Taint"
          (.unused "timeAdded" Time.schema :: FieldSchema.allUnused .text ["effect", "key", "value"]))),
      .unused "unschedulable" .truth] ++
      FieldSchema.allUnused .text ["externalID", "podCIDR", "providerID"])

/-- The names of an image on a node. -/
def imageSchema : Schema (List String) := .record {
  form := .lenient
  expected := "ContainerImage"
  start := []
  fields := [
    .optional "names" Part.textList fun given _ => given.getD [],
    .unused "sizeBytes" int64] }

/-- The version of the container runtime, among what a node reports about its system. -/
def systemSchema : Schema String := .record {
  form := .lenient
  expected := "NodeSystemInfo"
  start := ""
  fields :=
    .optional "containerRuntimeVersion" .text (fun given _ => given.getD "") ::
      FieldSchema.allUnused .text
        ["architecture", "bootID", "kernelVersion", "kubeProxyVersion", "kubeletVersion",
          "machineID", "operatingSystem", "osImage", "systemUUID"] }

/-- What a node reports that does not matter here. -/
def otherReports : List (FieldSchema Node) :=
  [.unused "addresses" (.list (Part.textsOnly "NodeAddress" ["address", "type"])),
    .unused "allocatable" Part.quantities, .unused "capacity" Part.quantities,
    .unused "conditions"
      (.list (Part.condition "NodeCondition" ["lastHeartbeatTime", "lastTransitionTime"])),
    .unused "config"
      (.checked "NodeConfigStatus"
        (.unused "error" .text ::
          FieldSchema.allUnused configSource ["active", "assigned", "lastKnownGood"])),
    .unused "daemonEndpoints"
      (.checked "NodeDaemonEndpoints"
        [.unused "kubeletEndpoint" (.checked "DaemonEndpoint" [.unused "Port" int32])]),
    .unused "features" (.checked "NodeFeatures" [.unused "supplementalGroupsPolicy" .truth]),
    .unused "phase" .text,
    .unused "runtimeHandlers"
      (.list (.checked "NodeRuntimeHandler"
        [.unused "features"
            (.checked "NodeRuntimeHandlerFeatures"
              (FieldSchema.allUnused .truth ["recursiveReadOnlyMounts", "userNamespaces"])),
          .unused "name" .text])),
    .unused "volumesAttached" (.list (Part.textsOnly "AttachedVolume" ["devicePath", "name"])),
    .unused "volumesInUse" Part.textList]

/-- What a node reports, taken up in the node. -/
def statusSchema : Schema Node := .record {
  form := .lenient
  expected := "NodeStatus"
  start := {}
  fields :=
    [.optional "images" (.list imageSchema) fun given node =>
        { node with imageNames := (given.getD []).flatten },
      .optional "nodeInfo" systemSchema fun given node =>
        { node with runtimeVersion := given.getD "" }] ++ otherReports }

/-- How a node stands in JSON. -/
def schema : Schema Node := .record {
  form := .lenient
  expected := "Node"
  start := {}
  fields :=
    objectFields "v1" "Node" (fun metadata node => { node with metadata }) ++
      [.unused "spec" specSchema,
        .optional "status" statusSchema fun given node =>
          let status := given.getD {}
          { node with runtimeVersion := status.runtimeVersion, imageNames := status.imageNames }] }

end Node

end NodeImages.Cluster
