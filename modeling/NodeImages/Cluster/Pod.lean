import NodeImages.Cluster.Part.PodSpec

/-!
# Pods

A job runs in a pod, which goes through phases; the containers in it are waiting, running or terminated. A
label of the pod names the job it belongs to.
-/

namespace NodeImages.Cluster

open Json

/-- Why a container is waiting or how it terminated. -/
structure StateDetail where
  reason : Option String := none
  message : Option String := none
  deriving DecidableEq, Repr, Inhabited

/-- What a container is doing. -/
structure ContainerState where
  waiting : Option StateDetail := none
  terminated : Option StateDetail := none
  deriving DecidableEq, Repr, Inhabited

/-- A pod of the cluster. -/
structure Pod where
  metadata : ObjectMeta := {}
  phase : Option String := none
  /-- The state of each of the containers, so far as it is known. -/
  containers : List (Option ContainerState) := []
  deriving Repr, Inhabited

namespace Pod

/-- The label that holds the name of the job. -/
def jobLabel : String := "job-name"

/-- The qualified label that holds the name of the job. -/
def qualifiedJobLabel : String := "batch.kubernetes.io/job-name"

def succeededPhase : String := "Succeeded"

def failedPhase : String := "Failed"

def pendingPhase : String := "Pending"

/-- The name of a pod. -/
def name (pod : Pod) : String := pod.metadata.anyName

/-- The name of the job that a pod belongs to. -/
def jobName? (pod : Pod) : Option String :=
  pod.metadata.label? jobLabel <|> pod.metadata.label? qualifiedJobLabel

/-- Why a container is waiting or how it terminated, with the fields that go with it. -/
def detailSchema (expected : String) (others : List (FieldSchema StateDetail)) : Schema StateDetail :=
  .record {
    form := .lenient
    expected
    start := {}
    fields :=
      .optional "reason" .text (fun given detail => { detail with reason := given }) ::
        .optional "message" .text (fun given detail => { detail with message := given }) :: others }

/-- What a container is doing. -/
def stateSchema : Schema ContainerState := .record {
  form := .lenient
  expected := "ContainerState"
  start := {}
  fields := [
    .unused "running" (.checked "ContainerStateRunning" [.unused "startedAt" Time.schema]),
    .optional "waiting" (detailSchema "ContainerStateWaiting" []) fun given state =>
      { state with waiting := given },
    .optional "terminated"
      (detailSchema "ContainerStateTerminated"
        (.unused "containerID" .text :: FieldSchema.allUnused int32 ["exitCode", "signal"] ++
          FieldSchema.allUnused Time.schema ["finishedAt", "startedAt"]))
      fun given state => { state with terminated := given }] }

/-- The user as whom a container runs. -/
def userSchema : Schema Unit :=
  .checked "ContainerUser"
    [.unused "linux"
      (.checked "LinuxContainerUser"
        [.unused "gid" int64, .unused "supplementalGroups" (.list int64), .unused "uid" int64])]

/-- The state of a container, among all that is said of how it is. -/
def containerSchema : Schema (Option ContainerState) := .record {
  form := .lenient
  expected := "ContainerStatus"
  start := none
  fields :=
    [.optional "state" stateSchema fun given _ => given,
      .unused "allocatedResources" Part.quantities,
      .unused "allocatedResourcesStatus"
        (.list (.checked "ResourceStatus"
          [.unused "name" .text,
            .unused "resources" (.list (Part.textsOnly "ResourceHealth" ["health", "resourceID"]))])),
      .unused "lastState" stateSchema, .unused "ready" .truth,
      .unused "resources" Part.resourceRequirements, .unused "restartCount" int32,
      .unused "started" .truth, .unused "user" userSchema,
      .unused "volumeMounts"
        (.list (.checked "VolumeMountStatus"
          (.unused "readOnly" .truth ::
            FieldSchema.allUnused .text ["mountPath", "name", "recursiveReadOnly"])))] ++
      FieldSchema.allUnused .text ["containerID", "image", "imageID", "name"] }

/-- What is said of how a pod is, taken up in the pod. -/
def statusSchema : Schema Pod := .record {
  form := .lenient
  expected := "PodStatus"
  start := {}
  fields :=
    [.optional "phase" .text fun given pod => { pod with phase := given },
      .optional "containerStatuses" (.list containerSchema) fun given pod =>
        { pod with containers := given.getD [] },
      .unused "conditions"
        (.list (Part.condition "PodCondition" ["lastProbeTime", "lastTransitionTime"])),
      .unused "ephemeralContainerStatuses" (.list containerSchema),
      .unused "hostIPs" (.list (Part.textsOnly "HostIP" ["ip"])),
      .unused "initContainerStatuses" (.list containerSchema),
      .unused "podIPs" (.list (Part.textsOnly "PodIP" ["ip"])),
      .unused "resourceClaimStatuses"
        (.list (Part.textsOnly "PodResourceClaimStatus" ["name", "resourceClaimName"])),
      .unused "startTime" Time.schema] ++
      FieldSchema.allUnused .text
        ["hostIP", "message", "nominatedNodeName", "podIP", "qosClass", "reason", "resize"] }

/-- How a pod stands in JSON. -/
def schema : Schema Pod := .record {
  form := .lenient
  expected := "Pod"
  start := {}
  fields :=
    objectFields "v1" "Pod" (fun metadata pod => { pod with metadata }) ++
      [.unused "spec" Part.podSpec,
        .optional "status" statusSchema fun given pod =>
          let status := given.getD {}
          { pod with phase := status.phase, containers := status.containers }] }

end Pod

end NodeImages.Cluster
