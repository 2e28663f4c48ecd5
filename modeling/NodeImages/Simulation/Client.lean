import NodeImages.Cluster.Event
import NodeImages.Cluster.Pod
import NodeImages.Failure
import NodeImages.Work.Basic

/-!
# A cluster that answers as it is told

In a simulation the calls of an engine are answered at once, with what has been laid down for them, and are
written down.
-/

namespace NodeImages.Simulation

open Cluster Work

/-- A job that was created. -/
structure CreatedJob where
  name : String
  image : String
  node : String
  removal : Bool
  deriving DecidableEq, Repr

/-- What is laid down for calls, and the calls so far. -/
structure Client where
  /-- The names of jobs to come. -/
  jobNames : List String := []
  /-- The images on the nodes, by the name of the node. -/
  images : List (String × String) := []
  pods : Dictionary (List Pod) := .empty
  events : Dictionary (List Event) := .empty
  creationFaults : List Failure := []
  presenceFaults : List Failure := []
  podFaults : Dictionary Failure := .empty
  eventFaults : Dictionary Failure := .empty
  /-- The failures of deletions, each of which fails one. -/
  deletionFaults : Dictionary (List Failure) := .empty
  created : List CreatedJob := []
  presenceCalls : List (String × String) := []
  deleted : List String := []
  podCalls : List String := []
  eventCalls : List String := []
  deriving Inhabited

namespace Client

/-- Creates the job for a request. -/
def create (client : Client) (request : Request) : Client × Outcome String :=
  match client.creationFaults with
  | fault :: rest => ({ client with creationFaults := rest }, .error fault)
  | [] =>
    let (name, jobNames) : String × List String :=
      match client.jobNames with
      | name :: rest => (name, rest)
      | [] => (s!"job-{client.created.length + 1}", [])
    let job : CreatedJob :=
      ⟨name, request.image, request.nodeName, request.kind.removes⟩
    ({ client with jobNames, created := client.created ++ [job] }, .ok name)

/-- Asks a node for the image of a request. -/
def presence (client : Client) (request : Request) : Client × Outcome Bool :=
  let asked := (request.nodeName, request.image)
  let client := { client with presenceCalls := client.presenceCalls ++ [asked] }
  match client.presenceFaults with
  | fault :: rest => ({ client with presenceFaults := rest }, .error fault)
  | [] => (client, .ok (client.images.contains asked))

/-- Lists the pods of a job. -/
def listPods (client : Client) (job : String) : Client × Outcome (List Pod) :=
  let client := { client with podCalls := client.podCalls ++ [job] }
  match client.podFaults.get? job with
  | some fault => (client, .error fault)
  | none => (client, .ok ((client.pods.get? job).getD []))

/-- Lists the events of a pod. -/
def listEvents (client : Client) (pod : Pod) : Client × Outcome (List Event) :=
  let client := { client with eventCalls := client.eventCalls ++ [pod.name] }
  match client.eventFaults.get? pod.name with
  | some fault => (client, .error fault)
  | none => (client, .ok ((client.events.get? pod.name).getD []))

/-- Deletes a job. -/
def delete (client : Client) (job : String) : Client × Outcome Unit :=
  let client := { client with deleted := client.deleted ++ [job] }
  match client.deletionFaults.get? job with
  | some (fault :: rest) =>
    ({ client with deletionFaults := client.deletionFaults.insert job rest }, .error fault)
  | _ => (client, .ok ())

end Client

end NodeImages.Simulation
