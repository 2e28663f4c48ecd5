import NodeImages.Config.Setting

/-!
# Configuration

What an image manager is configured with: where jobs are made and how long they may take, when an image
is pulled, which helper images jobs use, and how failed work is retried.

`Config.schema` says how a configuration stands in a relaxed JSON text or in a JSON value: every field may be
left out, and a member that is no field is refused. `Config.toJson` writes one.
-/

namespace NodeImages

open Json

/-- When an image with a fixed tag is pulled onto a node. -/
inductive PullPolicy
  /-- Also when the node has it. -/
  | always
  /-- Only when the node does not have it. -/
  | ifNotPresent
  deriving DecidableEq, Repr, Inhabited

namespace PullPolicy

/-- The name of a policy, in configurations and in container specifications. -/
def name : PullPolicy → String
  | always => "Always"
  | ifNotPresent => "IfNotPresent"

/-- All policies. -/
def all : List PullPolicy := [always, ifNotPresent]

/-- The policy of a name. -/
def ofName? (name : String) : Option PullPolicy :=
  all.find? (·.name == name)

end PullPolicy

/-- How failed work is retried. -/
structure QueueConfig where
  /-- The delay before the first retry in milliseconds; each further failure doubles it. -/
  baseDelayMs : Nat := 5
  /-- The longest delay in milliseconds. -/
  maxDelayMs : Nat := 1000000
  /-- How often an item is retried before it is dropped. -/
  maxRetries : Nat := 5
  deriving DecidableEq, Repr, Inhabited

/-- What an image manager is configured with. -/
structure Config where
  /-- The namespace in which jobs are created and pods are watched. -/
  space : String := "kube-fledged"
  /-- How long a job may take, in seconds. -/
  deadlineS : Nat := 300
  /-- How often the status of the work is looked at, in milliseconds. -/
  pollMs : Nat := 1000
  /-- The policy for images with a fixed tag. -/
  policy : PullPolicy := .ifNotPresent
  /-- The image with the client of the container runtime, for jobs that remove images. -/
  criClientImage : String := "senthilrch/kubefledged-cri-client:latest"
  /-- The image that provides `echo` to jobs that pull images. -/
  busyboxImage : String := "busybox:1.29.2"
  /-- The service account of job pods, unless it is that of the namespace. -/
  serviceAccount : Option String := none
  /-- How image work is retried. -/
  workQueue : QueueConfig := {}
  deriving DecidableEq, Repr, Inhabited

namespace PullPolicy

/-- A policy is given by its name. -/
def schema : Schema PullPolicy := .choice all name

end PullPolicy

namespace QueueConfig

/-- How a retry configuration stands in JSON, under an environment. -/
def schema (env : Environment) : Schema QueueConfig := .record {
  form := .closed
  expected := "struct WorkQueueConfig"
  start := {}
  fields := [
    .defaulted "base_delay_ms" (Setting.natural .u64 env) fun baseDelayMs config =>
      { config with baseDelayMs },
    .defaulted "max_delay_ms" (Setting.natural .u64 env) fun maxDelayMs config =>
      { config with maxDelayMs },
    .defaulted "max_retries" (Setting.natural .u32 env) fun maxRetries config =>
      { config with maxRetries }] }

/-- A retry configuration as JSON. -/
def toJson (config : QueueConfig) : Json :=
  .obj [("base_delay_ms", .int config.baseDelayMs), ("max_delay_ms", .int config.maxDelayMs),
    ("max_retries", .int config.maxRetries)]

end QueueConfig

namespace Config

/-- How a configuration stands in JSON, under an environment. -/
def schema (env : Environment) : Schema Config := .record {
  form := .closed
  expected := "struct ImageManagerConfig"
  start := {}
  fields := [
    .defaulted "namespace" (Setting.text env) fun space config => { config with space },
    .defaulted "image_pull_deadline_s" (Setting.seconds env) fun deadlineS config =>
      { config with deadlineS },
    .defaulted "status_poll_interval_ms" (Setting.natural .nonZeroU64 env) fun pollMs config =>
      { config with pollMs },
    .defaulted "image_pull_policy" PullPolicy.schema fun policy config => { config with policy },
    .defaulted "cri_client_image" (Setting.text env) fun criClientImage config =>
      { config with criClientImage },
    .defaulted "busybox_image" (Setting.text env) fun busyboxImage config =>
      { config with busyboxImage },
    .defaulted "service_account_name" (Setting.optionalText env) fun serviceAccount config =>
      { config with serviceAccount },
    .defaulted "work_queue" (QueueConfig.schema env) fun workQueue config =>
      { config with workQueue }] }

/-- A configuration as JSON. -/
def toJson (config : Config) : Json :=
  .obj [("namespace", .str config.space), ("image_pull_deadline_s", .int config.deadlineS),
    ("status_poll_interval_ms", .int config.pollMs),
    ("image_pull_policy", .str config.policy.name),
    ("cri_client_image", .str config.criClientImage), ("busybox_image", .str config.busyboxImage),
    ("service_account_name", .strOrNull config.serviceAccount),
    ("work_queue", config.workQueue.toJson)]

end Config

end NodeImages
