import NodeImages.Cluster.ImageCache
import NodeImages.Cluster.Node

/-!
# Image work

The unit of work is one image on one node, asked for by an image cache (`Request`). Each becomes a job of the
cluster or is found to be done already, and its outcome is noted as a `Result` under a `JobId`.

Work waits in a queue as an `Item`: the requests of an image cache, and at their end a flush, which has their
outcome reported. What is reported is an `Update`. Items and updates have keys, under which the queue counts
their failures and delays.
-/

namespace NodeImages.Work

open Cluster

/-- Why an image is worked on. -/
inductive Kind
  | create
  | update
  | delete
  | statusUpdate
  | refresh
  | purge
  deriving DecidableEq, Repr, Inhabited

namespace Kind

/-- The name of a kind. -/
def name : Kind → String
  | create => "create"
  | update => "update"
  | delete => "delete"
  | statusUpdate => "statusupdate"
  | refresh => "refresh"
  | purge => "purge"

/-- All kinds. -/
def all : List Kind := [create, update, delete, statusUpdate, refresh, purge]

/-- The kind of a name. -/
def ofName? (name : String) : Option Kind := all.find? (·.name == name)

/-- Whether the work takes the image off the node. Only a purge does; all other work pulls it. -/
def removes : Kind → Bool
  | purge => true
  | _ => false

end Kind

/-- The name of a job. A synthetic one stands for work that needed no job. -/
inductive JobId
  | real (name : String)
  | synthetic (name : String)
  deriving DecidableEq, Repr, Inhabited

namespace JobId

/-- How the names of synthetic jobs start. -/
def syntheticStart : String := "fakejob-"

/-- The name of a job. -/
def name : JobId → String
  | real name | synthetic name => name

/-- Whether the cluster knows the job. -/
def isReal : JobId → Bool
  | real _ => true
  | synthetic _ => false

/-- The job of a name that comes from the cluster. -/
def ofName (name : String) : JobId :=
  if syntheticStart.toList.isPrefixOf name.toList then synthetic name else real name

/-- The synthetic job of a serial number, with a name of its own. -/
def fresh (serial : Nat) : JobId :=
  let digits := Nat.toDigits 16 serial
  synthetic (syntheticStart ++ String.ofList (List.replicate (32 - digits.length) '0' ++ digits))

/-- The order of jobs: real ones first, then by name. -/
def le : JobId → JobId → Bool
  | real a, real b => a ≤ b
  | real _, synthetic _ => true
  | synthetic _, real _ => false
  | synthetic a, synthetic b => a ≤ b

end JobId

/-- One image to be worked on at one node for an image cache. -/
structure Request where
  image : String
  node : Node
  /-- The version of the node's container runtime. -/
  runtimeVersion : String
  kind : Kind
  cache : ImageCache
  deriving Repr, Inhabited

namespace Request

/-- A request under the runtime that the node reports. -/
def of (image : String) (node : Node) (kind : Kind) (cache : ImageCache) : Request :=
  { image, node, runtimeVersion := node.runtimeVersion, kind, cache }

/-- The hostname of the node. -/
def hostname (request : Request) : String := request.node.hostname

/-- The name of the node. -/
def nodeName (request : Request) : String := request.node.name

/-- The key of the image cache. -/
def cacheKey (request : Request) : String := request.cache.key

end Request

/-- What waits in the work queue. -/
inductive Item
  | image (request : Request)
  /-- The end of a batch of an image cache. -/
  | flush (cache : ImageCache)
  deriving Repr, Inhabited

namespace Item

/-- The key of the image cache that an item belongs to. -/
def cacheKey : Item → String
  | image request => request.cacheKey
  | flush cache => cache.key

/-- The key of the work on an image at a node. -/
def imageKey (cacheKey : String) (kind : Kind) (image nodeName : String) : String :=
  cacheKey ++ "/" ++ kind.name ++ "/" ++ image ++ "@" ++ nodeName

/-- The key of a flush. -/
def flushKey (cacheKey : String) : String := "flush:" ++ cacheKey

/-- The key of an item in the queue. -/
def key : Item → String
  | image request => imageKey request.cacheKey request.kind request.image request.nodeName
  | flush cache => flushKey cache.key

/-- Whether a key is that of work on an image for an image cache: it starts with the key of the cache and a
    slash. -/
def isImageKey (key cacheKey : String) : Bool :=
  (cacheKey.toList ++ ['/']).isPrefixOf key.toList

end Item

/-- How far the work on an image has come. -/
inductive Status
  | jobCreated
  | succeeded
  | failed
  | alreadyPulled
  deriving DecidableEq, Repr, Inhabited

namespace Status

/-- The name of a status. -/
def name : Status → String
  | jobCreated => "jobcreated"
  | succeeded => "succeeded"
  | failed => "failed"
  | alreadyPulled => "alreadypulled"

/-- All statuses. -/
def all : List Status := [jobCreated, succeeded, failed, alreadyPulled]

/-- The status of a name. -/
def ofName? (name : String) : Option Status := all.find? (·.name == name)

/-- Whether the outcome is still open. -/
def isPending : Status → Bool
  | jobCreated => true
  | _ => false

end Status

/-- The outcome of a request. -/
structure Result where
  request : Request
  status : Status
  reason : String := ""
  message : String := ""
  deriving Repr, Inhabited

namespace Result

/-- The work that a result is of, in words. -/
def describe (result : Result) : String :=
  (if result.request.kind.removes then "delete" else "pull") ++ ":- " ++ result.request.image ++
    " --> " ++ result.request.hostname ++ ", runtime: " ++ result.request.runtimeVersion

end Result

/-- The results of a batch of an image cache. -/
structure Update where
  /-- The key of the image cache. -/
  key : String
  results : List (JobId × Result)
  deriving Repr, Inhabited

/-- Notes the result of a job, in place of an earlier one of the same job. -/
def putResult (job : JobId) (result : Result) : List (JobId × Result) → List (JobId × Result)
  | [] => [(job, result)]
  | (j, r) :: rest => if j = job then (job, result) :: rest else (j, r) :: putResult job result rest

/-- The update of a list of results. Of several of one job the last one counts. -/
def Update.ofEntries (key : String) (entries : List (JobId × Result)) : Update where
  key
  results := entries.foldl (fun results (job, result) => putResult job result results) []

/-- What waits to be brought to the cluster. -/
inductive Report
  /-- An image cache is to be looked at. -/
  | sync (kind : Kind) (key : String)
  /-- The outcome of a batch is to be written. -/
  | status (update : Update)
  deriving Repr, Inhabited

namespace Report

/-- The kind of work that a report is about. -/
def kind : Report → Kind
  | sync kind _ => kind
  | status _ => .statusUpdate

/-- The key of the image cache that a report is about. -/
def cacheKey : Report → String
  | sync _ key => key
  | status update => update.key

/-- The key of a report in the queue. -/
def key (report : Report) : String := report.kind.name ++ "/" ++ report.cacheKey

end Report

end NodeImages.Work
