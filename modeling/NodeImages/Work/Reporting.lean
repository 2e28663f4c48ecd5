import NodeImages.Queue
import NodeImages.Work.Engine

/-!
# The reporter

The reporter takes one report after the other from a queue and writes it to the cluster. A report that could
not be written goes back into the queue with a delay, so long as it may. Reports of which nothing is to be
written are done with at once.
-/

namespace NodeImages.Work

/-- A queue of reports with the reporter that works on it. -/
structure Reporting where
  now : Nat := 0
  queue : Queue Report := {}
  /-- The report that is being written. -/
  inHand : Option Report := none
  /-- Whether the reporter has been told to stop. -/
  stopping : Bool := false
  /-- Whether it has stopped. -/
  stopped : Bool := false
  deriving Inhabited

namespace Reporting

/-- The reporter stops, or takes the next report if there is one. It does not stop in the middle of one. -/
def take (reporting : Reporting) : Reporting :=
  if reporting.stopped || reporting.inHand.isSome then reporting
  else if reporting.stopping then { reporting with stopped := true }
  else
    match reporting.queue.take with
    | (queue, .item report) => { reporting with queue, inHand := some report }
    | (_, .closed) => { reporting with stopped := true }
    | (_, .nothing) => reporting

/-- The writing of the report in hand has gone well, or has failed. -/
def written (reporting : Reporting) (outcome : Outcome Unit) : Reporting :=
  match reporting.inHand with
  | none => reporting
  | some report =>
    let queue := reporting.queue.done report
    { reporting with
      inHand := none
      queue := match outcome with
        | .ok () => queue.forget report
        | .error _ => queue.requeue reporting.now report }

end Reporting

end NodeImages.Work
