import NodeImages.Api.Call
import NodeImages.Work.Summary

/-!
# Reporting to the cluster

The outcome of a batch is written to its image cache in two merge patches: since a patch of an object leaves
the members in place that it does not name, the failures of the batch before are cleared first.
-/

namespace NodeImages.Api

open Cluster Work

/-- The type of a merge patch. -/
def mergePatchType : String := "application/merge-patch+json"

/-- Where the status of an image cache is. -/
def statusTarget (space name : String) : String :=
  let path := spacePath s!"apis/{ImageCache.apiVersion}" space "imagecaches"
  s!"{path}/{name}/status?"

/-- Patches the status of an image cache. -/
def patchStatus (space name doing : String) (patch : Json) : Call Unit where
  request := do
    named name
    Api.Request.of .patch (statusTarget space name) [] (some (mergePatchType, patch))
  read response := (response.value ImageCache.schema).map fun _ => ()
  conclude := whileDoing doing

/-- The patch that clears the failures. -/
def clearingPatch : Json := .obj [("status", .obj [("failures", .null)])]

/-- The patch that writes a status. -/
def statusPatch (status : CacheStatus) : Json := .obj [("status", status.toJson)]

/-- The calls that report an update at a time, one after the other. An image cache without a namespace cannot
    be reported to. -/
def reportCalls (update : Update) (now : String) : Outcome (List (Call Unit)) :=
  match ImageCache.splitKey update.key with
  | (none, _) => .error (.ofInput s!"Image cache key {update.key} has no namespace")
  | (some space, name) =>
    .ok
      [patchStatus space name s!"While clearing failures of {update.key}" clearingPatch,
        patchStatus space name s!"While updating status of {update.key}"
          (statusPatch (update.summarize now))]

/-- Reports an update over a service. -/
def report {σ : Type} (send : Send σ) (service : σ) (update : Update) (now : String) : σ × Outcome Unit :=
  match reportCalls update now with
  | .error failure => (service, .error failure)
  | .ok calls => Call.performAll send service calls

end NodeImages.Api
