import NodeImages.Work.Engine

/-!
# The manager

The manager looks after three tasks: its own, the watch on pods, and the dispatcher. It waits until the watch
has listed all pods, so that no outcome can be missed, and only then has work dispatched. When it is told to
stop, it closes the work queue and waits for the other tasks.

Each task waits for the first of several things to happen, and when several have happened by the time it goes
on, either may be acted on: the choice is part of the move (`Manager.act`), and so is the order in which the
tasks go on.
-/

namespace NodeImages.Work

/-- What comes out of the stream of the watch. -/
inductive WatchItem
  | event (event : WatchEvent)
  | fault (failure : Failure)
  deriving Repr

/-- Whether the pods have been listed. -/
inductive Signal
  | awaited
  | given
  /-- It will never be given. -/
  | lost
  deriving DecidableEq, Repr, Inhabited

/-- How far the manager itself has come. -/
inductive ManagerStage
  | absent
  /-- It waits until the pods have been listed. -/
  | syncing
  /-- It waits to be told to stop. -/
  | working
  /-- It waits for the dispatcher to stop. -/
  | draining
  /-- It waits for the watch to stop. -/
  | closing
  | returned (outcome : Outcome Unit)
  deriving Repr, Inhabited

/-- How far a task of the manager has come. -/
inductive TaskStage
  | absent
  | running
  | ended
  deriving DecidableEq, Repr, Inhabited

/-- Which of two things is acted on when both have happened. -/
inductive Choice
  /-- The word to stop. -/
  | stop
  /-- Whatever else was waited for. -/
  | other
  deriving DecidableEq, Repr, Inhabited

/-- An engine with the tasks that run it. -/
structure Manager where
  engine : Engine := {}
  stage : ManagerStage := .absent
  watch : TaskStage := .absent
  dispatcher : TaskStage := .absent
  signal : Signal := .awaited
  /-- What the stream of the watch holds. -/
  stream : List WatchItem := []
  /-- Whether nothing more will come into the stream. -/
  streamOver : Bool := false
  deriving Inhabited

/-- What a task does between two points at which it waits, or what happens around it. -/
inductive ManagerMove
  /-- The manager is started. -/
  | start
  | manager (choice : Choice)
  | watch (choice : Choice)
  | dispatcher
  /-- Something comes into the stream of the watch. -/
  | arrive (item : WatchItem)
  /-- The stream of the watch ends. -/
  | endStream
  /-- Anything else that moves the engine. -/
  | engine (move : Move)

namespace Manager

/-- The manager returns, and its tasks end with it. -/
def finish (manager : Manager) (outcome : Outcome Unit) : Manager :=
  let stop (stage : TaskStage) : TaskStage := if stage = .running then .ended else stage
  { manager with
    stage := .returned outcome, watch := stop manager.watch, dispatcher := stop manager.dispatcher }

/-- The manager closes the work queue. -/
def closeWork (manager : Manager) : Manager :=
  { manager with engine := (manager.engine.act .close).1 }

/-- The manager goes on from a point at which it waited, if it can. -/
def stepManager (manager : Manager) (choice : Choice) : Manager :=
  match manager.stage with
  | .syncing =>
    if manager.engine.stopping && (choice == .stop || manager.signal == .awaited) then
      manager.closeWork.finish (.ok ())
    else
      match manager.signal with
      | .awaited => manager
      | .given => { manager with stage := .working, dispatcher := .running }
      | .lost => manager.finish (.error (.of .unavailable "Pod watch ended before syncing"))
  | .working =>
    if manager.engine.stopping then { manager.closeWork with stage := .draining } else manager
  | .draining =>
    if manager.dispatcher = .ended then { manager with stage := .closing } else manager
  | .closing => if manager.watch = .ended then manager.finish (.ok ()) else manager
  | .absent | .returned _ => manager

/-- The watch ends. If the pods have not been listed yet, they never will be. -/
def endWatch (manager : Manager) : Manager :=
  { manager with
    watch := .ended, signal := if manager.signal = .awaited then .lost else manager.signal }

/-- The watch takes up what comes out of its stream. -/
def takeUp (manager : Manager) : WatchItem → Manager
  | .fault _ => manager
  | .event event =>
    let manager := { manager with engine := (manager.engine.act (.observe event)).1 }
    match event with
    | .listComplete =>
      { manager with signal := if manager.signal = .awaited then .given else manager.signal }
    | _ => manager

/-- The watch goes on from the point at which it waited, if it can. -/
def stepWatch (manager : Manager) (choice : Choice) : Manager :=
  match manager.watch with
  | .running =>
    let idle := manager.stream.isEmpty && !manager.streamOver
    if manager.engine.stopping && (choice == .stop || idle) then manager.endWatch
    else
      match manager.stream with
      | item :: rest => { manager with stream := rest }.takeUp item
      | [] => if manager.streamOver then manager.endWatch else manager
  | _ => manager

/-- Whether the dispatcher has nothing more to do. -/
def dispatcherIsDone (manager : Manager) : Bool :=
  manager.engine.stopping || (manager.engine.work.items.isEmpty && manager.engine.work.closed)

/-- The dispatcher goes on from the point at which it waited, if it can: it stops if there will be no more
    work, and otherwise takes the next item. -/
def stepDispatcher (manager : Manager) : Manager × List Note :=
  if manager.dispatcher = .running && manager.engine.inHand.isNone then
    if manager.dispatcherIsDone then ({ manager with dispatcher := .ended }, [])
    else
      let (engine, notes) := manager.engine.act .take
      ({ manager with engine }, notes)
  else (manager, [])

/-- What a move makes of the manager, and what can be noticed of it. -/
def act (manager : Manager) : ManagerMove → Manager × List Note
  | .start =>
    ({ manager with
        stage := .syncing, watch := .running, dispatcher := .absent, signal := .awaited },
      [])
  | .manager choice => (manager.stepManager choice, [])
  | .watch choice => (manager.stepWatch choice, [])
  | .dispatcher => manager.stepDispatcher
  | .arrive item => ({ manager with stream := manager.stream ++ [item] }, [])
  | .endStream => ({ manager with streamOver := true }, [])
  | .engine move =>
    let (engine, notes) := manager.engine.act move
    ({ manager with engine }, notes)

end Manager

end NodeImages.Work
