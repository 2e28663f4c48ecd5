import NodeImages.Queue
import NodeImages.Work.Dispatch
import NodeImages.Work.Run

/-!
# The engine

The engine takes work from a queue, has jobs made for it, follows their pods, and reports every batch when it
is over. It is made of parts that share a status table: a dispatcher, the watch on pods, and any number of
deadline runs, at most one for each image cache among those that flushes started.

Whatever the parts do, in whatever order, is a row of moves (`Engine.act`). A move is what one part does
between two points at which it waits: for time to pass, for news, or for the answer to a call. The answers of
the cluster are part of the moves, so nothing is assumed of them. A move that is not possible changes nothing.
What the outside can notice of a move is returned as notes.
-/

namespace NodeImages.Work

open Cluster

instance : Keyed Item where
  key := Item.key

instance : Keyed Report where
  key := Report.key

/-- What an engine is set to. -/
structure Settings where
  policy : PullPolicy := .ifNotPresent
  /-- How long jobs may take, in milliseconds. -/
  deadlineMs : Nat := 300000
  /-- How often a run looks at the table, in milliseconds. -/
  pollMs : Nat := 1000
  /-- How long a flush is held back that comes too early, in milliseconds. -/
  flushRetryMs : Nat := 1000
  /-- The last time that the clock can show, in milliseconds. The clock counts seconds in a signed number of 64 bits,
      and had been going for some time before the engine was made: for a day, unless something else is known. -/
  lastTime : Nat := (0x8000000000000000 - 24 * 60 * 60) * 1000
  deriving DecidableEq, Repr, Inhabited

/-- A run that is under way. -/
structure ActiveRun where
  /-- The number of the run; each has its own. -/
  number : Nat
  cacheKey : String
  /-- Whether the image cache is barred for other runs meanwhile. -/
  guarded : Bool
  stage : Stage
  deriving Repr

/-- What the dispatcher is at work on. -/
structure Job.InHand where
  /-- The item of the queue that the request is from, if it is from one. -/
  item : Option Item
  dispatch : Dispatch
  deriving Repr

/-- The engine between two moves. -/
structure Engine where
  settings : Settings := {}
  /-- The time in milliseconds. -/
  now : Nat := 0
  table : Table := .empty
  work : Queue Item := {}
  reports : Queue Report := {}
  memory : Memory := {}
  /-- The image caches that are barred for other runs. -/
  barred : List String := []
  runs : List ActiveRun := []
  /-- The number of the next run. -/
  nextRun : Nat := 0
  inHand : Option Job.InHand := none
  /-- The number of the next synthetic job. -/
  nextSynthetic : Nat := 0
  /-- Whether the engine has been told to stop. -/
  stopping : Bool := false
  deriving Inhabited

/-- What the outside can notice of a move. -/
inductive Note
  /-- An entry was recorded. -/
  | recorded (job : JobId) (result : Result)
  /-- A request could not be dispatched. -/
  | refused (failure : Failure)
  /-- A run was started. -/
  | started (number : Nat) (cacheKey : String)
  /-- A batch was put up for reporting. -/
  | emitted (number : Nat) (update : Update)
  /-- A run ended. -/
  | ended (number : Nat) (outcome : Outcome Unit)
  deriving Repr

/-- What a part of the engine does between two points at which it waits. -/
inductive Move
  /-- Work is put into the queue. -/
  | add (item : Item)
  /-- Work is put into the queue after a delay. -/
  | addAfter (item : Item) (delay : Nat)
  /-- A timer of the work queue falls due. -/
  | fire (timer : Nat)
  /-- The dispatcher takes an item from the queue. -/
  | take
  /-- The dispatcher takes up a request that was not in the queue. -/
  | dispatch (request : Request)
  /-- The node of the request in hand has answered whether it has the image. -/
  | presence (answer : Outcome Bool)
  /-- The cluster has answered the creation of the job in hand. -/
  | job (answer : Outcome String)
  /-- The watch brings news of a pod. -/
  | observe (event : WatchEvent)
  /-- The state of a pod is noted without regard to what is remembered of it. -/
  | settle (pod : Pod)
  /-- An entry is put into the table from outside. -/
  | insert (job : JobId) (result : Result)
  /-- An entry is resolved from outside. -/
  | resolve (job : JobId) (status : Status) (reason message : String)
  /-- A guarded run is started. -/
  | start (cacheKey : String)
  /-- An unguarded run is started. -/
  | startUnguarded (cacheKey : String)
  /-- A run takes its next look at the table. -/
  | look (number : Nat)
  /-- A run that waits notices that the engine is to stop. -/
  | cancel (number : Nat)
  /-- The pods of the job that a run looks into have been listed. -/
  | pods (number : Nat) (answer : Outcome (List Pod))
  /-- The events of the pod that a run looks into have been listed. -/
  | events (number : Nat) (answer : Outcome (List Event))
  /-- A run fails the jobs that are still open. -/
  | expire (number : Nat)
  /-- The job that a run is at has been deleted. -/
  | deleted (number : Nat) (answer : Outcome Unit)
  /-- A run takes its batch from the table and puts it up for reporting. -/
  | collect (number : Nat)
  /-- Time passes. -/
  | tick (time : Nat)
  /-- The engine is told to stop. -/
  | stop
  /-- The work queue is closed. -/
  | close
  /-- The next report is taken and done with. -/
  | takeReport

namespace Engine

/-- The plan of a run for an image cache. -/
def plan (engine : Engine) (cacheKey : String) : RunPlan where
  cacheKey
  deadlineMs := engine.settings.deadlineMs
  pollMs := engine.settings.pollMs
  lastTime := engine.settings.lastTime

/-- The run of a number. -/
def run? (engine : Engine) (number : Nat) : Option ActiveRun :=
  engine.runs.find? (·.number == number)

/-- Whether an image cache is barred for other runs. -/
def isBarred (engine : Engine) (cacheKey : String) : Bool :=
  engine.barred.contains cacheKey

/-- Adds a run. -/
def addRun (engine : Engine) (cacheKey : String) (guarded : Bool) : Engine × List Note :=
  ({ engine with
      runs := engine.runs ++ [⟨engine.nextRun, cacheKey, guarded, .fresh⟩]
      nextRun := engine.nextRun + 1
      barred := if guarded then cacheKey :: engine.barred else engine.barred },
    [.started engine.nextRun cacheKey])

/-- Starts a guarded run, unless the image cache is barred. -/
def startRun (engine : Engine) (cacheKey : String) : Engine × List Note :=
  if engine.isBarred cacheKey then (engine, []) else engine.addRun cacheKey true

/-- Takes up the new stage of a run. A run that has ended is dropped, and bars its image cache no longer. -/
def stand (engine : Engine) (run : ActiveRun) (stage : Stage) : Engine × List Note :=
  match stage with
  | .ended outcome =>
    ({ engine with
        runs := engine.runs.filter (·.number != run.number)
        barred :=
          if run.guarded then engine.barred.filter (· != run.cacheKey) else engine.barred },
      [.ended run.number outcome])
  | stage =>
    ({ engine with
        runs := engine.runs.map fun r => if r.number = run.number then { r with stage } else r },
      [])

/-- A run moves on without touching anything else. -/
def advance (engine : Engine) (number : Nat) (move : RunPlan → Stage → Stage) :
    Engine × List Note :=
  match engine.run? number with
  | none => (engine, [])
  | some run => engine.stand run (move (engine.plan run.cacheKey) run.stage)

/-- A run moves on and changes the table. -/
def advanceTable (engine : Engine) (number : Nat) (move : RunPlan → Table → Stage → Table × Stage) :
    Engine × List Note :=
  match engine.run? number with
  | none => (engine, [])
  | some run =>
    let (table, stage) := move (engine.plan run.cacheKey) engine.table run.stage
    { engine with table }.stand run stage

/-- Records the entry of a job. -/
def record (engine : Engine) (job : JobId) (result : Result) : Engine × List Note :=
  ({ engine with table := engine.table.put job result }, [.recorded job result])

/-- The work on an item of the queue went well. -/
def finish (engine : Engine) (item : Option Item) : Engine :=
  match item with
  | none => { engine with inHand := none }
  | some item => { engine with inHand := none, work := (engine.work.forget item).done item }

/-- The work on an item of the queue failed; it is tried again later if it may be. -/
def giveBack (engine : Engine) (item : Option Item) : Engine :=
  match item with
  | none => { engine with inHand := none }
  | some item =>
    { engine with inHand := none, work := (engine.work.done item).requeue engine.now item }

/-- Takes up how far a dispatch has come. When it is over, its entry is recorded. -/
def handle (engine : Engine) (item : Option Item) (dispatch : Dispatch) : Engine × List Note :=
  match dispatch with
  | .created request name =>
    (engine.finish item).record (.real name) { request, status := .jobCreated }
  | .needless request =>
    let engine := engine.finish item
    { engine with nextSynthetic := engine.nextSynthetic + 1 }.record (.fresh engine.nextSynthetic)
      { request, status := .alreadyPulled }
  | .failed failure => (engine.giveBack item, [.refused failure])
  | dispatch => ({ engine with inHand := some ⟨item, dispatch⟩ }, [])

/-- Whether work on an image is outstanding for an image cache. -/
def hasOutstanding (engine : Engine) (cacheKey : String) : Bool :=
  engine.work.hasOutstanding (Item.isImageKey · cacheKey)

/-- Handles a flush: a run is started, unless work of the image cache is outstanding or another run is under
    way; then the flush is held back. -/
def handleFlush (engine : Engine) (item : Item) : Engine × List Note :=
  let engine := { engine with work := engine.work.forget item }
  let holdBack : Engine :=
    { engine with work := engine.work.addAfter engine.now item engine.settings.flushRetryMs }
  let (engine, notes) :=
    if engine.hasOutstanding item.cacheKey || engine.isBarred item.cacheKey then (holdBack, [])
    else engine.startRun item.cacheKey
  ({ engine with work := engine.work.done item }, notes)

/-- Handles an item that has been taken from the queue. Status updates do not belong there and are
    dropped. -/
def handleItem (engine : Engine) (item : Item) : Engine × List Note :=
  match item with
  | .flush _ => engine.handleFlush item
  | .image request =>
    if request.kind = .statusUpdate then (engine.finish (some item), [])
    else engine.handle (some item) (.first engine.settings.policy request)

/-- What a move makes of the engine, and what can be noticed of it. -/
def act (engine : Engine) : Move → Engine × List Note
  | .add item => ({ engine with work := engine.work.add item }, [])
  | .addAfter item delay =>
    ({ engine with work := engine.work.addAfter engine.now item delay }, [])
  | .fire timer => ({ engine with work := engine.work.fire timer }, [])
  | .take =>
    if engine.stopping || engine.inHand.isSome then (engine, [])
    else
      match engine.work.take with
      | (work, .item item) => { engine with work }.handleItem item
      | _ => (engine, [])
  | .dispatch request =>
    if engine.inHand.isSome then (engine, [])
    else engine.handle none (.first engine.settings.policy request)
  | .presence answer =>
    match engine.inHand with
    | some ⟨item, .asking request⟩ =>
      engine.handle item ((Dispatch.asking request).onPresence answer)
    | _ => (engine, [])
  | .job answer =>
    match engine.inHand with
    | some ⟨item, .creating request⟩ =>
      engine.handle item ((Dispatch.creating request).onJob answer)
    | _ => (engine, [])
  | .observe event =>
    let (memory, table) := engine.memory.observe event engine.table
    ({ engine with memory, table }, [])
  | .settle pod => ({ engine with table := engine.table.settlePod pod }, [])
  | .insert job result => ({ engine with table := engine.table.put job result }, [])
  | .resolve job status reason message =>
    ({ engine with
        table := engine.table.resolve job fun result => { result with status, reason, message } },
      [])
  | .start cacheKey => engine.startRun cacheKey
  | .startUnguarded cacheKey => engine.addRun cacheKey false
  | .look number => engine.advance number fun plan => Run.look plan engine.now engine.table
  | .cancel number =>
    if engine.stopping then engine.advance number Run.cancel else (engine, [])
  | .pods number answer => engine.advance number fun plan => Run.onPods plan answer
  | .events number answer => engine.advance number fun plan => Run.onEvents plan answer
  | .expire number => engine.advanceTable number fun _ => Run.resolve
  | .deleted number answer => engine.advanceTable number fun plan => Run.onDeleted plan answer
  | .collect number =>
    match engine.run? number with
    | none => (engine, [])
    | some run =>
      match Run.collect (engine.plan run.cacheKey) engine.table run.stage with
      | (table, none, stage) => { engine with table }.stand run stage
      | (table, some update, stage) =>
        let (engine, notes) :=
          { engine with table, reports := engine.reports.add (.status update) }.stand run stage
        (engine, .emitted number update :: notes)
  | .tick time => ({ engine with now := engine.now + time }, [])
  | .stop => ({ engine with stopping := true }, [])
  | .close => ({ engine with work := engine.work.close }, [])
  | .takeReport =>
    match engine.reports.take with
    | (reports, .item report) => ({ engine with reports := reports.done report }, [])
    | _ => (engine, [])

end Engine

end NodeImages.Work
