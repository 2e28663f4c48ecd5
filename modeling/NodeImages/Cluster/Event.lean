import NodeImages.Cluster.Part.Basic

/-!
# Events

The cluster notes what happens to a pod as events. What matters of an event is its message.
-/

namespace NodeImages.Cluster

open Json

/-- A note about a pod. -/
structure Event where
  metadata : ObjectMeta := {}
  message : Option String := none
  deriving Repr, Inhabited

namespace Event

/-- How an event stands in JSON. -/
def schema : Schema Event := .record {
  form := .lenient
  expected := "Event"
  start := {}
  fields :=
    objectFields "v1" "Event" (fun metadata event => { event with metadata }) ++
      [.optional "message" .text fun given event => { event with message := given },
        .unused "count" int32,
        .unused "series"
          (.checked "EventSeries" [.unused "count" int32, .unused "lastObservedTime" Time.schema]),
        .unused "source" (Part.textsOnly "EventSource" ["component", "host"])] ++
      FieldSchema.allUnused Part.objectReference ["involvedObject", "related"] ++
      FieldSchema.allUnused Time.schema ["eventTime", "firstTimestamp", "lastTimestamp"] ++
      FieldSchema.allUnused .text
        ["action", "reason", "reportingComponent", "reportingInstance", "type"] }

end Event

end NodeImages.Cluster
