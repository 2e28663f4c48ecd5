import NodeImages.Api.Http
import NodeImages.Api.Page
import NodeImages.Cluster.Event
import NodeImages.Cluster.Job
import NodeImages.Cluster.Part.Job
import NodeImages.Cluster.Pod

/-!
# Calls

A call is a request, together with how its answer is read and what its caller makes of the result (`Call`). It is
made over a service, which may be anything that takes requests and answers them (`Send`).
These are the calls that image work needs: jobs are created and deleted, nodes are looked up, and pods and
their events are listed. A job that is to be deleted and is not there counts as deleted.
-/

namespace NodeImages.Api

open Json Cluster Work

/-- A request with what becomes of its answer. -/
structure Call (α : Type) where
  request : Except CallFault Request
  read : Response → Except CallFault α
  /-- What the caller makes of the result. -/
  conclude : Except CallFault α → Outcome α

/-- How a service takes requests: what becomes of it, and its answer. -/
abbrev Send (σ : Type) := σ → Request → σ × Except CallFault Response

namespace Call

variable {σ α : Type}

/-- Makes a call, and gives its result. A request that cannot be made is not sent. -/
def result (send : Send σ) (service : σ) (call : Call α) : σ × Except CallFault α :=
  match call.request with
  | .error fault => (service, .error fault)
  | .ok request =>
    let (service, reply) := send service request
    (service, reply.bind call.read)

/-- Makes a call, and gives what its caller makes of the result. -/
def perform (send : Send σ) (service : σ) (call : Call α) : σ × Outcome α :=
  let (service, result) := call.result send service
  (service, call.conclude result)

/-- Makes calls one after the other, as long as they go well. -/
def performAll (send : Send σ) (service : σ) : List (Call Unit) → σ × Outcome Unit
  | [] => (service, .ok ())
  | call :: rest =>
    match call.perform send service with
    | (service, .ok ()) => performAll send service rest
    | (service, .error failure) => (service, .error failure)

end Call

/-- The outcome of a call, with what was being done if it failed. -/
def whileDoing {α : Type} (doing : String) (result : Except CallFault α) : Outcome α :=
  Outcome.tip (result.mapError CallFault.failure) doing

/-- Where the objects of a namespace are. -/
def spacePath (group space kind : String) : String := s!"/{group}/namespaces/{space}/{kind}"

/-- Where the jobs of a namespace are. -/
def jobsPath (space : String) : String := spacePath "apis/batch/v1" space "jobs"

/-- Where the pods of a namespace are. -/
def podsPath (space : String) : String := spacePath "api/v1" space "pods"

/-- The type of a body in JSON. -/
def jsonType : String := "application/json"

/-- The metadata of a job, among all that is said of it. -/
def jobSchema : Schema ObjectMeta := .record {
  form := .lenient
  expected := "Job"
  start := {}
  fields :=
    objectFields "batch/v1" "Job" (fun metadata _ => metadata) ++
      [.unused "spec" Part.jobSpec, .unused "status" Part.jobStatus] }

/-- A field of a record of which only that it fits matters. -/
def spare {α : Type} (name : String) (schema : Schema α) : FieldSchema Unit :=
  .defaulted name schema fun _ draft => draft

/-- One cause of a refused deletion. -/
def causeSchema : Schema Unit := .record {
  form := .plain
  expected := "struct StatusCause"
  start := ()
  fields := [spare "reason" .text, spare "message" .text, spare "field" .text] }

/-- The details of a deletion. -/
def detailSchema : Schema Unit := .record {
  form := .plain
  expected := "struct StatusDetails"
  start := ()
  fields := [spare "name" .text, spare "group" .text, spare "kind" .text, spare "uid" .text,
    spare "causes" (.list causeSchema), spare "retryAfterSeconds" (.integer 0 4294967295 "u32")] }

/-- What the cluster says about a deletion. -/
def statusSchema : Schema Unit := .record {
  form := .plain
  expected := "struct Status"
  start := ()
  fields := [
    .unused "status" (.choice ["Success", "Failure"] id),
    spare "code" (.integer 0 65535 "u16"), spare "message" .text, spare "reason" .text,
    spare "details" (.optional detailSchema)] }

/-- Whether the answer to a deletion is a word about it. Otherwise it is the job. -/
def isWord (answer : Json) : Bool := answer.get? "kind" == some (.str "Status")

/-- The answer to a deletion, which is read as any value at first. -/
def readDeletion (text : String) : Except TextFault Unit := do
  if isWord (← Json.parse text) then statusSchema.ofText text
  else (jobSchema.ofText text).map fun _ => ()

/-- Creates a job, and gives its name. -/
def createJob (space : String) (job : Job) : Call String where
  request := Api.Request.of .post (jobsPath space ++ "?") [] (some (jsonType, job.toJson))
  read response := (response.value jobSchema).map (·.anyName)
  conclude := whileDoing s!"While creating job in {space}"

/-- Asks whether a node has the image of a request. -/
def presence (request : Work.Request) : Call Bool where
  request := do
    named request.nodeName
    Api.Request.of .get s!"/api/v1/nodes/{request.nodeName}" [] none
  read response := (response.value Node.schema).map (·.hasImage request.image)
  conclude := whileDoing s!"While fetching node {request.nodeName}"

/-- Lists the pods of a job. -/
def listPods (space job : String) : Call (List Pod) where
  request := Api.Request.of .get (podsPath space ++ "?") [("labelSelector", s!"{Pod.jobLabel}={job}")] none
  read response := (response.value (Page.schema Pod.schema)).map (·.items)
  conclude := whileDoing s!"While listing pods of job {job}"

/-- Lists the events of a pod that tell of failures. -/
def listEvents (space : String) (pod : Pod) : Call (List Event) where
  request :=
    let podSpace := pod.metadata.space.getD space
    Api.Request.of .get (spacePath "api/v1" podSpace "events" ++ "?")
      [("fieldSelector", s!"involvedObject.kind=Pod,involvedObject.name={pod.name}," ++
        s!"involvedObject.namespace={podSpace},reason=Failed")] none
  read response := (response.value (Page.schema Event.schema)).map (·.items)
  conclude := whileDoing s!"While listing events of pod {pod.name}"

/-- Deletes a job, and its pods with it. -/
def deleteJob (space job : String) : Call Unit where
  request := do
    named job
    Api.Request.of .delete s!"{jobsPath space}/{job}?" []
      (some (jsonType, .obj [("propagationPolicy", .str "Background")]))
  read response := do
    let text ← response.check
    (readDeletion text).mapError fun fault => .unreadable fault.message
  conclude result :=
    match result with
    | .ok () => .ok ()
    | .error fault =>
      if fault.code = .notFound then .ok ()
      else .error (fault.failure.tip s!"While deleting job {job}")

end NodeImages.Api
