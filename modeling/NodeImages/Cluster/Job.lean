import NodeImages.Config.Basic
import NodeImages.Failure
import NodeImages.Image.Runtime
import NodeImages.Work.Basic

/-!
# Jobs

Work on an image is done by a job on the node. A job that pulls an image runs a container of it, with `echo`
copied in so that there is something to run; a job that removes one has the runtime of the node do it.

* `JobPlan.ofConfig`: what jobs have in common;
* `JobPlan.pull`, `JobPlan.removal`: the job for a request;
* `Job.toJson`: a job as JSON.
-/

namespace NodeImages.Cluster

open Work

/-- Where a volume is seen in a container. -/
structure Mount where
  volume : String
  path : String
  deriving DecidableEq, Repr

/-- A container of a job. -/
structure Container where
  name : String
  image : String
  command : List String
  mounts : List Mount
  pullPolicy : PullPolicy
  deriving DecidableEq, Repr

/-- What a volume holds. -/
inductive VolumeSource
  /-- Nothing at first. -/
  | emptyDirectory
  /-- A socket of the node. -/
  | socket (path : String)
  deriving DecidableEq, Repr

/-- A volume of a job. -/
structure Volume where
  name : String
  source : VolumeSource
  deriving DecidableEq, Repr

/-- A job that works on an image at a node. -/
structure Job where
  metadata : ObjectMeta
  /-- The labels of its pods. -/
  podLabels : Dictionary String
  deadlineS : Nat
  /-- The host it runs on. -/
  hostname : String
  serviceAccount : Option String
  setup : List Container
  containers : List Container
  volumes : List Volume
  pullSecrets : List String
  deriving Repr

namespace Mount

/-- A mount as JSON. -/
def toJson (mount : Mount) : Json :=
  .obj [("mountPath", .str mount.path), ("name", .str mount.volume)]

end Mount

namespace Container

/-- A container as JSON. -/
def toJson (container : Container) : Json :=
  .obj [("command", .strs container.command), ("image", .str container.image),
    ("imagePullPolicy", .str container.pullPolicy.name), ("name", .str container.name),
    ("volumeMounts", .arr (container.mounts.map (·.toJson)))]

end Container

namespace Volume

/-- A volume as JSON. -/
def toJson (volume : Volume) : Json :=
  match volume.source with
  | .emptyDirectory => .obj [("emptyDir", .obj []), ("name", .str volume.name)]
  | .socket path =>
    .obj [("hostPath", .obj [("path", .str path), ("type", .str "Socket")]),
      ("name", .str volume.name)]

end Volume

namespace Job

/-- An array, unless it is empty. -/
def nonEmpty (items : List Json) : Option Json :=
  if items.isEmpty then none else some (.arr items)

/-- The specification of the pods of a job as JSON. A job is never restarted and runs on any node, whatever
    taints it has. -/
def podSpec (job : Job) : Json :=
  .objOf [("containers", some (.arr (job.containers.map (·.toJson)))),
    ("imagePullSecrets", nonEmpty (job.pullSecrets.map fun s => .obj [("name", .str s)])),
    ("initContainers", nonEmpty (job.setup.map (·.toJson))),
    ("nodeSelector", some (.obj [(Node.hostnameLabel, .str job.hostname)])),
    ("restartPolicy", some (.str "Never")), ("serviceAccountName", job.serviceAccount.map .str),
    ("tolerations", some (.arr [.obj [("operator", .str "Exists")]])),
    ("volumes", some (.arr (job.volumes.map (·.toJson))))]

/-- A job as JSON. -/
def toJson (job : Job) : Json :=
  .obj [("apiVersion", .str "batch/v1"), ("kind", .str "Job"), ("metadata", job.metadata.toJson),
    ("spec", .obj [("activeDeadlineSeconds", .int job.deadlineS), ("backoffLimit", .int 0),
      ("template", .obj [
        ("metadata", ObjectMeta.toJson { labels := some job.podLabels }),
        ("spec", job.podSpec)])])]

end Job

/-- What the jobs of an image manager have in common. -/
structure JobPlan where
  /-- The namespace of the jobs. -/
  space : String
  busyboxImage : String
  criClientImage : String
  policy : PullPolicy
  deadlineS : Nat
  serviceAccount : Option String
  deriving DecidableEq, Repr, Inhabited

namespace JobPlan

/-- The plan under a configuration. The deadline must be one that the cluster can count. -/
def ofConfig (config : Config) : Outcome JobPlan :=
  match IntegerKind.i64.check config.deadlineS with
  | .ok _ =>
    .ok
      { space := config.space
        busyboxImage := config.busyboxImage
        criClientImage := config.criClientImage
        policy := config.policy
        deadlineS := config.deadlineS
        serviceAccount := config.serviceAccount }
  | .error fault =>
    .error ((Failure.ofInput fault.message).tip "image_pull_deadline_s is too large")

/-- The labels of a job and its pods. -/
def labels (request : Request) : Dictionary String :=
  .ofList [("app", "imagecache"), ("imagecache", request.cache.name)]

/-- The image cache as the owner of a job. An owner must be in the namespace of what it owns. -/
def owners (plan : JobPlan) (request : Request) : Option (List OwnerReference) := do
  let metadata := request.cache.metadata
  if metadata.space = some plan.space then
    let name ← metadata.name
    let uid ← metadata.uid
    return [{ apiVersion := ImageCache.apiVersion, kind := ImageCache.kind, name, uid,
              controller := some true }]
  else none

/-- The metadata of a job. -/
def metadata (plan : JobPlan) (request : Request) : ObjectMeta where
  generateName := some s!"imagecache-{request.cache.name}-"
  space := some plan.space
  labels := some (labels request)
  owners := plan.owners request

/-- The volume through which `echo` gets into the container. -/
def echoVolume : String := "tmp-bin"

/-- Where `echo` is in the container. -/
def echoPath : String := "/tmp/bin"

/-- The container that runs the image of a request. -/
def puller (plan : JobPlan) (request : Request) : Container where
  name := "image-puller"
  image := request.image
  command := [echoPath ++ "/echo", "Image pulled successfully!"]
  mounts := [⟨echoVolume, echoPath⟩]
  pullPolicy := plan.policy

/-- The job that pulls the image of a request. -/
def pull (plan : JobPlan) (request : Request) : Job where
  metadata := plan.metadata request
  podLabels := labels request
  deadlineS := plan.deadlineS
  hostname := request.hostname
  serviceAccount := plan.serviceAccount
  setup :=
    [{ name := "busybox"
       image := plan.busyboxImage
       command := ["cp", "/bin/echo", echoPath]
       mounts := [⟨echoVolume, echoPath⟩]
       pullPolicy := .ifNotPresent }]
  containers := [plan.puller request]
  volumes := [⟨echoVolume, .emptyDirectory⟩]
  pullSecrets := request.cache.spec.pullSecrets

/-- The volume through which the runtime is talked to. -/
def socketVolume : String := "runtime-sock"

/-- The job that removes the image of a request. -/
def removal (plan : JobPlan) (request : Request) : Job :=
  let runtime := Image.Runtime.ofVersion request.runtimeVersion
  { metadata := plan.metadata request
    podLabels := labels request
    deadlineS := plan.deadlineS
    hostname := request.hostname
    serviceAccount := plan.serviceAccount
    setup := []
    containers :=
      [{ name := "image-deleter"
         image := plan.criClientImage
         command := runtime.removal request.image
         mounts := [⟨socketVolume, runtime.socketPath⟩]
         pullPolicy := .ifNotPresent }]
    volumes := [⟨socketVolume, .socket runtime.socketPath⟩]
    pullSecrets := [] }

end JobPlan

end NodeImages.Cluster
