import NodeImages.Work.Engine

/-!
# Calls to the cluster

An engine makes a call when the dispatcher or a run comes to a point at which it waits for the answer, and it waits
there until the answer is brought by a move. So the calls that are made in a course are those that are awaited
at its moments (`Engine.awaited`).
-/

namespace NodeImages.Work

open Cluster

/-- A call to the cluster. -/
inductive Call
  /-- A node is asked for the image of a request. -/
  | presence (request : Request)
  /-- A job is to be created for a request. -/
  | creation (request : Request)
  /-- The pods of a job are to be listed. -/
  | pods (job : String)
  /-- The events of the pod of a job are to be listed. -/
  | events (job : String) (pod : Pod)
  /-- A job is to be deleted. -/
  | deletion (job : String)

/-- The job that a call is about, if there is one already. -/
def Call.job? : Call → Option String
  | pods job | events job _ | deletion job => some job
  | presence _ | creation _ => none

/-- The call that a dispatch waits for. -/
def Dispatch.awaits : Dispatch → Option Call
  | asking request => some (.presence request)
  | creating request => some (.creation request)
  | _ => none

/-- The call that a run waits for. -/
def Stage.awaits : Stage → Option Call
  | listingPods _ job _ _ => some (.pods job.1)
  | listingEvents _ job pod _ _ => some (.events job.1 pod)
  | deleting _ job _ => some (.deletion job)
  | _ => none

/-- The calls that have been made and are yet to be answered. -/
def Engine.awaited (engine : Engine) : List Call :=
  (engine.inHand.bind (·.dispatch.awaits)).toList ++ engine.runs.filterMap (·.stage.awaits)

end NodeImages.Work
