import NodeImages.Cluster.Pod
import NodeImages.Work.Table

/-!
# The watch on pods

The cluster tells of every pod that is there and of every change to one, and when it has to start over it
lists all pods anew. A job is resolved when its pod is first seen in a phase from which it will not come back.

What has been seen of each pod is remembered (`Memory`), so that the same news twice is no news; pods that are
missing from a complete list are forgotten.

* `Memory.observe`: an event, what it makes of the memory, and what it makes of the table;
* `Table.settlePod`: the phase of a pod is noted for its job.
-/

namespace NodeImages.Work

open Cluster

/-- What the cluster tells of its pods. -/
inductive WatchEvent
  /-- A list of all pods begins. -/
  | listBegins
  /-- A pod of the list. -/
  | listed (pod : Pod)
  /-- The list is complete. -/
  | listComplete
  /-- A pod is new or has changed. -/
  | changed (pod : Pod)
  /-- A pod is gone. -/
  | gone (pod : Pod)
  deriving Repr

/-- What is remembered of a pod. -/
structure PodState where
  version : Option String
  phase : Option String
  deriving DecidableEq, Repr

namespace PodState

/-- The state of a pod. -/
def ofPod (pod : Pod) : PodState := ⟨pod.metadata.version, pod.phase⟩

/-- Whether a pod will not come back from a phase. -/
def isFinal (phase : Option String) : Bool :=
  phase == some Pod.succeededPhase || phase == some Pod.failedPhase

end PodState

/-- The result of a job whose pod succeeded. -/
def Result.succeed (result : Result) : Result := { result with status := .succeeded }

/-- The result of a job whose pod failed. If the pod has exactly one container, and that one terminated, it
    says why. -/
def Result.fail (pod : Pod) (result : Result) : Result :=
  match pod.containers with
  | [some { terminated := some detail, .. }] =>
    { result with
      status := .failed, reason := detail.reason.getD "", message := detail.message.getD "" }
  | _ => { result with status := .failed }

/-- Notes the phase of a pod for its job, if the pod will not come back from it and the job is still
    pending. -/
def Table.settlePod (table : Table) (pod : Pod) : Table :=
  match pod.jobName? with
  | none => table
  | some name =>
    if pod.phase = some Pod.succeededPhase then table.resolve (.ofName name) Result.succeed
    else if pod.phase = some Pod.failedPhase then table.resolve (.ofName name) (Result.fail pod)
    else table

/-- What is remembered of the pods. -/
structure Memory where
  /-- The last state seen of each pod, by name. -/
  seen : Dictionary PodState := .empty
  /-- The names of the pods listed so far, while a list is being read. -/
  listed : Option (List String) := none
  deriving DecidableEq, Repr, Inhabited

namespace Memory

/-- The number of pods that are remembered. -/
def size (memory : Memory) : Nat := memory.seen.size

/-- Remembers the state of a pod. -/
def remember (memory : Memory) (pod : Pod) : Memory :=
  { memory with seen := memory.seen.insert pod.name (.ofPod pod) }

/-- Whether a pod is news: it is in a final phase, and neither was it in one before nor has it been seen in
    this version. -/
def isNews (memory : Memory) (pod : Pod) : Bool :=
  PodState.isFinal pod.phase &&
    match memory.seen.get? pod.name with
    | none => true
    | some state => state.version != pod.metadata.version && !PodState.isFinal state.phase

/-- A pod is seen. -/
def see (memory : Memory) (pod : Pod) (table : Table) : Memory × Table :=
  (memory.remember pod, if memory.isNews pod then table.settlePod pod else table)

/-- Notes that a pod is on the list, while one is being read. -/
def tick (memory : Memory) (pod : Pod) : Memory :=
  { memory with listed := memory.listed.map (pod.name :: ·) }

/-- Forgets the pods that are missing from a complete list. -/
def completeList (memory : Memory) : Memory :=
  match memory.listed with
  | none => memory
  | some names => { seen := memory.seen.filter names.contains, listed := none }

/-- Takes up an event. -/
def observe (memory : Memory) (event : WatchEvent) (table : Table) : Memory × Table :=
  match event with
  | .listBegins => ({ memory with listed := some [] }, table)
  | .listed pod => (memory.tick pod).see pod table
  | .listComplete => (memory.completeList, table)
  | .changed pod => memory.see pod table
  | .gone pod => ({ memory with seen := memory.seen.erase pod.name }, table)

end Memory

end NodeImages.Work
