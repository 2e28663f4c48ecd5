import NodeImages.Cluster.Meta
import NodeImages.Text.Cut

/-!
# Image caches

An image cache is the object of the cluster that says which images belong on which nodes, and which carries
the outcome of the last action on them.

* `ImageCache.schema`, `ImageCache.toJson`: an image cache out of JSON and back;
* `ImageCache.key`: the namespace and the name in one text, which `splitKey` takes apart again.
-/

namespace NodeImages.Cluster

open Json

/-- Images that belong on the nodes with certain labels. -/
structure ImageGroup where
  images : List String
  nodeSelector : Dictionary String := .empty
  deriving DecidableEq, Repr, Inhabited

/-- What an image cache asks for. -/
structure CacheSpec where
  groups : List ImageGroup := []
  /-- The secrets that give access to private registries. -/
  pullSecrets : List String := []
  deriving DecidableEq, Repr, Inhabited

/-- How the last action on an image cache went. -/
inductive ActionStatus
  | processing
  | succeeded
  | failed
  | unknown
  | aborted
  deriving DecidableEq, Repr

/-- A node on which an image failed, and why. -/
structure NodeFailure where
  node : String
  reason : String
  message : String
  deriving DecidableEq, Repr, Inhabited

/-- The outcome that an image cache carries. -/
structure CacheStatus where
  status : Option ActionStatus := none
  reason : String := ""
  message : String := ""
  /-- The failures by image. -/
  failures : Dictionary (List NodeFailure) := .empty
  startTime : Option String := none
  completionTime : Option String := none
  deriving DecidableEq, Repr, Inhabited

/-- An image cache. -/
structure ImageCache where
  metadata : ObjectMeta := {}
  spec : CacheSpec := {}
  status : Option CacheStatus := none
  deriving Repr, Inhabited

namespace ImageGroup

/-- How a group stands in JSON. -/
def schema : Schema ImageGroup := .record {
  form := .plain
  expected := "struct CacheSpecImages"
  start := { images := [] }
  fields := [
    .needed "images" (.list .text) fun images group => { group with images },
    .defaulted "nodeSelector" texts fun nodeSelector group => { group with nodeSelector }] }

/-- A group as JSON. An empty selector is left out. -/
def toJson (group : ImageGroup) : Json :=
  .objOf [("images", some (.strs group.images)),
    ("nodeSelector",
      if group.nodeSelector.isEmpty then none else some (.ofDictionary (group.nodeSelector.map .str)))]

end ImageGroup

namespace CacheSpec

/-- How a specification stands in JSON. -/
def schema : Schema CacheSpec := .record {
  form := .plain
  expected := "struct ImageCacheSpec"
  start := {}
  fields := [
    .needed "cacheSpec" (.list ImageGroup.schema) fun groups spec => { spec with groups },
    .defaulted "imagePullSecrets" (.list .text) fun pullSecrets spec => { spec with pullSecrets }] }

/-- A specification as JSON. An empty list of secrets is left out. -/
def toJson (spec : CacheSpec) : Json :=
  .objOf [("cacheSpec", some (.arr (spec.groups.map (·.toJson)))),
    ("imagePullSecrets",
      if spec.pullSecrets.isEmpty then none else some (.strs spec.pullSecrets))]

end CacheSpec

namespace ActionStatus

/-- The name of a status. -/
def name : ActionStatus → String
  | processing => "Processing"
  | succeeded => "Succeeded"
  | failed => "Failed"
  | unknown => "Unknown"
  | aborted => "Aborted"

/-- All statuses. -/
def all : List ActionStatus := [processing, succeeded, failed, unknown, aborted]

/-- A status is given by its name. -/
def schema : Schema ActionStatus := .choice all name

end ActionStatus

namespace NodeFailure

/-- How a failure stands in JSON. -/
def schema : Schema NodeFailure := .record {
  form := .plain
  expected := "struct NodeReasonMessage"
  start := { node := "", reason := "", message := "" }
  fields := [
    .needed "node" .text fun node failure => { failure with node },
    .needed "reason" .text fun reason failure => { failure with reason },
    .needed "message" .text fun message failure => { failure with message }] }

/-- A failure as JSON. -/
def toJson (failure : NodeFailure) : Json :=
  .obj [("node", .str failure.node), ("reason", .str failure.reason),
    ("message", .str failure.message)]

end NodeFailure

namespace CacheStatus

/-- How a status stands in JSON. -/
def schema : Schema CacheStatus := .record {
  form := .plain
  expected := "struct ImageCacheStatus"
  start := {}
  fields := [
    .optional "status" ActionStatus.schema fun given status => { status with status := given },
    .defaulted "reason" .text fun reason status => { status with reason },
    .defaulted "message" .text fun message status => { status with message },
    .defaulted "failures" (.dictionary (.list NodeFailure.schema)) fun failures status =>
      { status with failures },
    .defaulted "startTime" (.optional .text) fun startTime status => { status with startTime },
    .optional "completionTime" .text fun completionTime status => { status with completionTime }] }

/-- The members of a status in JSON. Without failures and without a start time these are left out; what else is
    missing is written as null. -/
def members (status : CacheStatus) : List (String × Option Json) :=
  [("status", some ((status.status.map fun s => Json.str s.name).getD .null)),
    ("reason", some (.str status.reason)), ("message", some (.str status.message)),
    ("failures",
      if status.failures.isEmpty then none
      else some (.ofDictionary (status.failures.map fun fs => .arr (fs.map (·.toJson))))),
    ("startTime", status.startTime.map .str), ("completionTime", some (.strOrNull status.completionTime))]

/-- A status as JSON. -/
def toJson (status : CacheStatus) : Json := .objOf status.members

end CacheStatus

namespace ImageCache

/-- The version of the interface that image caches belong to. -/
def apiVersion : String := "kubefledged.io/v1alpha2"

/-- The kind of object that image caches are. -/
def kind : String := "ImageCache"

/-- How an image cache stands in JSON. What kind of object it is said to be does not matter. -/
def schema : Schema ImageCache := .record {
  form := .plain
  expected := "struct ImageCache"
  start := {}
  fields := [
    .needed "metadata" ObjectMeta.schema fun metadata cache => { cache with metadata },
    .needed "spec" CacheSpec.schema fun spec cache => { cache with spec },
    .optional "status" CacheStatus.schema fun status cache => { cache with status }] }

/-- An image cache as JSON. -/
def toJson (cache : ImageCache) : Json :=
  .objOf [("apiVersion", some (.str apiVersion)), ("kind", some (.str kind)),
    ("metadata", some cache.metadata.toJson), ("spec", some cache.spec.toJson),
    ("status", cache.status.map (·.toJson))]

/-- The name of an image cache. -/
def name (cache : ImageCache) : String := cache.metadata.anyName

/-- The namespace of an image cache, if it has one. -/
def space? (cache : ImageCache) : Option String := cache.metadata.space

/-- The key of a namespace and a name. -/
def keyOf (space : Option String) (name : String) : String :=
  match space with
  | some space => if space.isEmpty then name else space ++ "/" ++ name
  | none => name

/-- The key of an image cache: its namespace and its name, or its name alone if it has no namespace. -/
def key (cache : ImageCache) : String := keyOf cache.space? cache.name

/-- The namespace, if there is one, and the name that a key is made of. -/
def splitKey (key : String) : Option String × String :=
  match Text.cut '/' key.toList with
  | some (space, name) => (some (String.ofList space), String.ofList name)
  | none => (none, key)

/-- An image cache known by its key alone. -/
def named (key : String) : ImageCache :=
  let (space, name) := splitKey key
  { metadata := { name := some name, space, uid := some ("uid-" ++ name) } }

end ImageCache

end NodeImages.Cluster
