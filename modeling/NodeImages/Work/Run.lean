import NodeImages.Cluster.Event
import NodeImages.Failure
import NodeImages.Task
import NodeImages.Work.Observer

/-!
# Deadline runs

A run brings a batch of an image cache to its end. It looks at the table at regular intervals until no job of
the cache is pending or the deadline has passed. Then the batch is fixed: jobs that are still pending are
failed, each for the reason that its pod gives; the jobs are deleted from the cluster; and the entries leave
the table and are reported.

A run stands between two steps at a `Stage`. The steps are pure: those that follow a call to the cluster take
the answer as an argument. Whatever fails ends the run, and what is still in the table stays there for a later
run.
-/

namespace NodeImages.Work

open Cluster

/-- What a run knows from the start. -/
structure RunPlan where
  cacheKey : String
  /-- How long the jobs may take, in milliseconds. -/
  deadlineMs : Nat
  /-- How long the run waits between two looks at the table, in milliseconds. -/
  pollMs : Nat
  /-- The last time that the clock can show, in milliseconds. -/
  lastTime : Nat
  deriving DecidableEq, Repr, Inhabited

/-- A job that is still pending when the batch is fixed, with its result so far. -/
abbrev OpenJob := String × Result

/-- How far a run has come. -/
inductive Stage
  /-- It has yet to look at the table for the first time. -/
  | fresh
  /-- It waits for its next look. -/
  | sleeping (deadline wake : Nat)
  /-- The pods of the first open job are being listed. -/
  | listingPods (batch : List JobId) (job : OpenJob) (rest : List OpenJob)
      (resolved : List (JobId × Result))
  /-- The events of the pod of the first open job are being listed. -/
  | listingEvents (batch : List JobId) (job : OpenJob) (pod : Pod) (rest : List OpenJob)
      (resolved : List (JobId × Result))
  /-- All open jobs have been looked into. -/
  | resolving (batch : List JobId) (resolved : List (JobId × Result))
  /-- A job is being deleted. -/
  | deleting (batch : List JobId) (job : String) (rest : List String)
  /-- All jobs have been deleted. -/
  | collecting (batch : List JobId)
  /-- The clock does not reach as far as the deadline: the run goes no further, and never ends. -/
  | stuck
  | ended (outcome : Outcome Unit)
  deriving Repr

namespace Run

/-- The reason for a pod that could not be started. -/
def pendingReason : String := "Pending"

/-- The message for a pod that could not be started. -/
def pendingMessage : String := "Check if node is ready"

/-- The reason for a job that took too long. -/
def expiredReason : String := "DeadlineExceeded"

/-- The message for a job that took too long. -/
def expiredMessage (plan : RunPlan) (job : String) (pod : Pod) : String :=
  s!"Job {job} did not complete within {plan.deadlineMs / 1000}s (pod phase: " ++
    pod.phase.getD "Unknown" ++ ")"

/-- What the pod of an open job says about it: the reason and the message of a container that could not
    start, if the pod is pending and has exactly one container. -/
def podReason (result : Result) (pod : Pod) : Result :=
  match pod.containers with
  | [some { waiting := some detail, .. }] | [some { terminated := some detail, .. }] =>
    { result with reason := detail.reason.getD "", message := detail.message.getD "" }
  | _ => result

/-- Gives a result that has no reason the one for jobs that took too long. -/
def orExpired (plan : RunPlan) (job : String) (pod : Pod) (result : Result) : Result :=
  if result.reason.isEmpty then
    { result with reason := expiredReason, message := expiredMessage plan job pod }
  else result

/-- Fails an open job for the reason that its pod gives. -/
def expire (plan : RunPlan) (job : String) (pod : Pod) (result : Result) : Result :=
  let result := { result with status := .failed }
  if pod.phase = some Pod.pendingPhase then
    if pod.containers.length = 1 then orExpired plan job pod (podReason result pod)
    else { result with reason := pendingReason, message := pendingMessage }
  else orExpired plan job pod result

/-- Adds the messages of events to a result. -/
def addEvents (result : Result) (events : List Event) : Result :=
  { result with
    message := (events.filterMap (·.message)).foldl (fun text m => text ++ ":" ++ m) result.message }

/-- The failure of a run while it waits. -/
def waitFailure (plan : RunPlan) (failure : Failure) : Stage :=
  .ended (.error (failure.tip s!"While waiting for jobs of {plan.cacheKey}"))

/-- The failure of a run while it looks into open jobs. -/
def resolveFailure (plan : RunPlan) (failure : Failure) : Stage :=
  .ended (.error (failure.tip s!"While resolving expired jobs of {plan.cacheKey}"))

/-- The failure of a run while it cleans up. -/
def cleanupFailure (plan : RunPlan) (failure : Failure) : Stage :=
  .ended (.error (failure.tip s!"While cleaning up jobs of {plan.cacheKey}"))

/-- The jobs of a batch are deleted in ascending order of their names. -/
def deleteNext (batch : List JobId) : List String → Stage
  | [] => .collecting batch
  | job :: rest => .deleting batch job rest

/-- The open jobs of a batch are looked into one after the other. -/
def listNext (batch : List JobId) (resolved : List (JobId × Result)) : List OpenJob → Stage
  | [] => .resolving batch resolved
  | job :: rest => .listingPods batch job rest resolved

/-- The open jobs of a batch. A synthetic job has no pods that could be looked into. -/
def openJobs (table : Table) (batch : List JobId) : List OpenJob :=
  (table.pending batch).filterMap fun (job, result) =>
    match job with
    | .real name => some (name, result)
    | .synthetic _ => none

/-- The batch is fixed: it is all that the table holds for the image cache. -/
def fixBatch (plan : RunPlan) (table : Table) : Stage :=
  let batch := table.jobsFor plan.cacheKey
  match openJobs table batch with
  | [] => deleteNext batch (table.jobsToDelete batch)
  | job :: rest => listNext batch [] (job :: rest)

/-- Looks at the table: the wait is over when no job is pending or the deadline has come; otherwise there is
    another look, at the deadline at the latest. -/
def inspect (plan : RunPlan) (now deadline : Nat) (table : Table) : Stage :=
  if !table.hasPendingFor plan.cacheKey || deadline ≤ now then fixBatch plan table
  else .sleeping deadline (now + waitFor (min plan.pollMs (deadline - now)))

/-- The next look at the table is due. The deadline counts from the first one, and the clock has to reach as far. -/
def look (plan : RunPlan) (now : Nat) (table : Table) : Stage → Stage
  | .fresh =>
    if plan.lastTime < now + plan.deadlineMs then .stuck
    else inspect plan now (now + plan.deadlineMs) table
  | .sleeping deadline wake =>
    if wake ≤ now then inspect plan now deadline table else .sleeping deadline wake
  | stage => stage

/-- A run that waits is told to stop. -/
def cancel (plan : RunPlan) : Stage → Stage
  | .sleeping _ _ => waitFailure plan (.of .cancelled "Shutting down")
  | stage => stage

/-- The pods of an open job have been listed. -/
def onPods (plan : RunPlan) (answer : Outcome (List Pod)) : Stage → Stage
  | .listingPods batch (job, result) rest resolved =>
    match answer with
    | .error failure => resolveFailure plan (failure.tip s!"While listing pods of job {job}")
    | .ok [] => resolveFailure plan (.of .failedPrecondition s!"No pods matched job {job}")
    | .ok [pod] =>
      let result := expire plan job pod result
      if result.request.kind.removes then
        listNext batch (resolved ++ [(.real job, result)]) rest
      else .listingEvents batch (job, result) pod rest resolved
    | .ok _ =>
      resolveFailure plan (.of .failedPrecondition s!"More than one pod matched job {job}")
  | stage => stage

/-- The events of the pod of an open job have been listed. -/
def onEvents (plan : RunPlan) (answer : Outcome (List Event)) : Stage → Stage
  | .listingEvents batch (job, result) pod rest resolved =>
    match answer with
    | .error failure =>
      resolveFailure plan (failure.tip s!"While listing events of pod {pod.name}")
    | .ok events => listNext batch (resolved ++ [(.real job, addEvents result events)]) rest
  | stage => stage

/-- The open jobs are failed, except those that have been resolved in the meantime. -/
def resolve (table : Table) : Stage → Table × Stage
  | .resolving batch resolved =>
    let table := table.resolveAll resolved
    (table, deleteNext batch (table.jobsToDelete batch))
  | stage => (table, stage)

/-- A job has been deleted. -/
def onDeleted (plan : RunPlan) (answer : Outcome Unit) (table : Table) : Stage → Table × Stage
  | .deleting batch job rest =>
    match answer with
    | .error failure =>
      (table, cleanupFailure plan (failure.tip s!"While deleting job {job}"))
    | .ok () => (table.markDeleted (.real job), deleteNext batch rest)
  | stage => (table, stage)

/-- The entries of the batch leave the table and are to be reported. That there are none is a failure. -/
def collect (plan : RunPlan) (table : Table) : Stage → Table × Option Update × Stage
  | .collecting batch =>
    let results := table.results batch
    if results.isEmpty then
      (table, none, cleanupFailure plan
        (.of .notFound s!"Unable to obtain reference to image cache {plan.cacheKey}"))
    else (table.without batch, some ⟨plan.cacheKey, results⟩, .ended (.ok ()))
  | stage => (table, none, stage)

end Run

end NodeImages.Work
