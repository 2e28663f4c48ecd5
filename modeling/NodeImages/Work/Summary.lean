import NodeImages.Work.Basic

/-!
# Summaries of batches

The results of a batch become the outcome that its image cache carries: a success if no result is a failure,
and otherwise a failure that names, for every image, the nodes on which it failed. As soon as one result is of
a purge, the whole batch counts as one.
-/

namespace NodeImages.Work

open Cluster

/-- The kind of work of a batch, which is that of its first result unless another one is a purge. -/
def batchKind (results : List (JobId × Result)) : Kind :=
  match results with
  | [] => .statusUpdate
  | first :: _ =>
    if results.any (·.2.request.kind.removes) then .purge else first.2.request.kind

/-- The reason under which a batch of a kind is reported. -/
def Kind.reason : Kind → String
  | create => "ImageCacheCreate"
  | update => "ImageCacheUpdate"
  | delete => "ImageCacheDelete"
  | refresh => "ImageCacheRefresh"
  | purge => "ImageCachePurge"
  | statusUpdate => "ImageCacheStatusUpdate"

/-- The failure of a result on its node. -/
def Result.nodeFailure (result : Result) : NodeFailure where
  node := result.request.hostname
  reason := result.reason
  message := result.message

/-- The failures of a batch by image, in the order of the results. -/
def failuresByImage (results : List (JobId × Result)) : Dictionary (List NodeFailure) :=
  results.foldl
    (fun failures (_, result) =>
      if result.status = .failed then
        let image := result.request.image
        failures.insert image ((failures.get? image).getD [] ++ [result.nodeFailure])
      else failures)
    .empty

/-- Failures in ascending order of their nodes. -/
def sortByNode (failures : List NodeFailure) : List NodeFailure :=
  failures.mergeSort fun a b => a.node ≤ b.node

/-- The message for a batch. -/
def summaryMessage (failed removes : Bool) : String :=
  match failed, removes with
  | false, false => "All requested images pulled successfully to respective nodes"
  | false, true => "All cached images successfully deleted from respective nodes"
  | true, false => "Image pull failed for some images. Please see \"failures\" section"
  | true, true => "Image deletion failed for some images. Please see \"failures\" section"

/-- The outcome of a batch at a time. -/
def Update.summarize (update : Update) (now : String) : CacheStatus :=
  let kind := batchKind update.results
  let failures := (failuresByImage update.results).map sortByNode
  { status := some (if failures.isEmpty then .succeeded else .failed)
    reason := kind.reason
    message := summaryMessage (!failures.isEmpty) kind.removes
    failures
    completionTime := some now }

end NodeImages.Work
