import NodeImages.Image.Reference
import NodeImages.Work.Basic

/-!
# Dispatching work

A request that takes an image off a node needs a job that does so. Any other request needs a job that pulls
the image, unless the node has it already, which it is asked for only if the policy wants to know. So at
most two calls are made for a request, one after the other, and a dispatch is one of the points between them.

* `Dispatch.first`: the first point;
* `Dispatch.onPresence`, `Dispatch.onJob`: the point after a call has been answered.
-/

namespace NodeImages.Work

/-- How far the dispatch of a request has come. -/
inductive Dispatch
  /-- The node is being asked for the image. -/
  | asking (request : Request)
  /-- A job is being created. -/
  | creating (request : Request)
  /-- A job has been created under this name. -/
  | created (request : Request) (name : String)
  /-- No job is needed. -/
  | needless (request : Request)
  /-- A call failed. -/
  | failed (failure : Failure)
  deriving Repr

namespace Dispatch

/-- The first point of the dispatch of a request. -/
def first (policy : PullPolicy) (request : Request) : Dispatch :=
  if request.kind.removes || policy.pullsUnasked request.image then creating request
  else asking request

/-- The node has answered whether it has the image. -/
def onPresence (answer : Outcome Bool) : Dispatch → Dispatch
  | asking request =>
    match answer with
    | .ok true => needless request
    | .ok false => creating request
    | .error failure =>
      failed (failure.tip s!"While checking {request.image} on {request.nodeName}")
  | dispatch => dispatch

/-- The cluster has answered the creation of a job, with its name. -/
def onJob (answer : Outcome String) : Dispatch → Dispatch
  | creating request =>
    match answer with
    | .ok name => created request name
    | .error failure =>
      let work := if request.kind.removes then "delete" else "pull"
      failed (failure.tip s!"While creating {work} job for {request.image}")
  | dispatch => dispatch

end Dispatch

end NodeImages.Work
