import NodeImages.Cluster.Part.PodSpec

/-!
# Specifications and states of jobs

The pods that a job makes, when it counts as failed or as done, and how far it has come.
-/

namespace NodeImages.Cluster.Part

open Json

/-- What a failure of a pod means for the job. -/
def failurePolicy : Schema Unit :=
  .checked "PodFailurePolicy"
    [.unused "rules"
      (.list (.checked "PodFailurePolicyRule"
        [.unused "action" .text,
          .unused "onExitCodes"
            (.checked "PodFailurePolicyOnExitCodesRequirement"
              [.unused "containerName" .text, .unused "operator" .text,
                .unused "values" (.list int32)]),
          .unused "onPodConditions"
            (.list (textsOnly "PodFailurePolicyOnPodConditionsPattern" ["status", "type"]))]))]

/-- When a job counts as done. -/
def successPolicy : Schema Unit :=
  .checked "SuccessPolicy"
    [.unused "rules"
      (.list (.checked "SuccessPolicyRule"
        [.unused "succeededCount" int32, .unused "succeededIndexes" .text]))]

/-- The specification of a job. -/
def jobSpec : Schema Unit :=
  .checked "JobSpec"
    ([.unused "activeDeadlineSeconds" int64, .unused "podFailurePolicy" failurePolicy,
      .unused "selector" labelSelector, .unused "successPolicy" successPolicy,
      .unused "template"
        (.checked "PodTemplateSpec"
          [.unused "metadata" ObjectMeta.schema, .unused "spec" podSpec])] ++
      FieldSchema.allUnused int32
        ["backoffLimit", "backoffLimitPerIndex", "completions", "maxFailedIndexes", "parallelism",
          "ttlSecondsAfterFinished"] ++
      FieldSchema.allUnused .truth ["manualSelector", "suspend"] ++
      FieldSchema.allUnused .text ["completionMode", "managedBy", "podReplacementPolicy"])

/-- How far a job has come. -/
def jobStatus : Schema Unit :=
  .checked "JobStatus"
    ([.unused "conditions" (.list (condition "JobCondition" ["lastProbeTime", "lastTransitionTime"])),
      .unused "uncountedTerminatedPods"
        (.checked "UncountedTerminatedPods"
          [.unused "failed" textList, .unused "succeeded" textList])] ++
      FieldSchema.allUnused int32 ["active", "failed", "ready", "succeeded", "terminating"] ++
      FieldSchema.allUnused Time.schema ["completionTime", "startTime"] ++
      FieldSchema.allUnused .text ["completedIndexes", "failedIndexes"])

end NodeImages.Cluster.Part
