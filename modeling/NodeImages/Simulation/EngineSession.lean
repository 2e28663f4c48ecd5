import NodeImages.Simulation.Client
import NodeImages.Simulation.Clock
import NodeImages.Work.Manager
import NodeImages.Work.Summary

/-!
# An engine at work

A session with an engine on a virtual clock, over a cluster that answers as it is told. The steps of a session
put work in, let news of pods arrive, lay down answers, let time pass and look at what has become of it all.
In the background the timers of the queue, the deadline runs and the tasks of the manager go on, each as a row
of moves until it has to wait.
-/

namespace NodeImages.Simulation

open Cluster Work

/-- What goes on in the background. -/
inductive EngineTask
  /-- A timer of the work queue is set. -/
  | schedule (timer due : Nat)
  /-- A timer of the work queue falls due. -/
  | timer (number : Nat)
  | run (number : Nat)
  /-- A dispatcher goes on. That of the manager has the number zero. -/
  | dispatcher (number : Nat)
  | manager
  | watch
  /-- A step to be performed later is put off. -/
  | putOff (number delay : Nat)
  /-- A step that was put off is performed. -/
  | scheduled (number : Nat)
  deriving DecidableEq, Repr

/-- Who waits for an item of the work queue. -/
inductive Waiter
  | session
  | dispatcher (number : Nat)
  deriving DecidableEq, Repr

/-- The start of the manager whose outcome can be asked for. -/
inductive Held
  | none
  /-- The first start. -/
  | first
  /-- A later start, which is over at once. -/
  | later (outcome : Outcome Unit)
  deriving Repr, Inhabited

/-- A step of a session. -/
inductive EngineStep
  | add (item : Item)
  | addAfter (item : Item) (delay : Nat)
  | insert (job : JobId) (result : Result)
  | resolve (job : JobId) (status : Status) (reason message : String)
  | podEvent (event : WatchItem)
  | endWatch
  | settlePod (pod : Pod)
  /-- Something else is laid down for the cluster to answer. -/
  | layDown (change : Client → Client)
  | stop
  | closeQueue
  | queueItem (item : Item)
  | isRunning (cacheKey : String)
  | calls
  | lookups
  | rows (cacheKey : String)
  | sleep (time : Nat)
  /-- Performs a step after a time. -/
  | later (delay : Nat) (step : EngineStep)
  | scheduled
  | dispatch (request : Request)
  | process (wait : Nat)
  | runDispatcher
  | dispatcherFinished
  /-- Watches a stream of its own, which goes on without news after its items or ends with them. -/
  | runWatch (items : List WatchItem) (staysOpen signalled : Bool) (wait : Nat)
  | reconcile (cacheKey : String)
  | start (cacheKey : String)
  | outcome (cacheKey : String) (wait : Nat)
  | nextUpdate (wait : Nat)
  | startManager
  | joinManager (wait : Nat)
  deriving Inhabited

/-- The answer to a step. -/
inductive EngineAnswer
  | nothing
  | timeout
  | closed
  | flag (value : Bool)
  | resolved (value : Bool)
  | tracked (pods : Nat)
  | queueItem (requeues : Nat) (processing : Bool)
  | calls (client : Client)
  | lookups (pods events : List String)
  | rows (entries : List (JobId × Result))
  | scheduled (performed : List (Nat × EngineAnswer))
  | dispatched (outcome : Outcome JobId)
  | more (value : Bool)
  | watched (ended synced : Bool) (pods : Nat)
  | started (value : Bool)
  | finished (outcome : Outcome Unit)
  /-- There will be no outcome. -/
  | dropped
  | update (update : Update)
  deriving Inhabited

/-- A session with an engine. -/
structure EngineSession where
  manager : Manager := {}
  /-- Whether the manager is in charge of the watch and the dispatcher. -/
  managed : Bool := false
  client : Client := {}
  clock : Clock EngineTask := {}
  waiting : List Waiter := []
  /-- The runs whose outcome can be asked for, by image cache. -/
  held : Dictionary Nat := .empty
  /-- The outcomes of the runs that have ended. -/
  endings : List (Nat × Outcome Unit) := []
  /-- The run that the session itself waits for. -/
  foreground : Option Nat := none
  /-- The steps that were put off. -/
  putOff : List (Nat × EngineStep) := []
  nextPutOff : Nat := 0
  performed : List (Nat × EngineAnswer) := []
  /-- The start of the manager whose outcome can be asked for. -/
  start : Held := .none
  /-- The number of the next dispatcher. -/
  nextDispatcher : Nat := 1
  /-- The dispatchers that have stopped, without that of the manager. -/
  stopped : List Nat := []
  /-- Whether news of pods gets into the stream that is watched. -/
  fed : Bool := true
  deriving Inhabited

namespace EngineSession

/-- The engine of a session. -/
def engine (session : EngineSession) : Engine := session.manager.engine

/-- Tells a number of those that wait for an item. -/
def tell (session : EngineSession) (count : Nat) : EngineSession :=
  { session with
    waiting := session.waiting.drop count
    clock := (session.waiting.take count).foldl
      (fun clock waiter =>
        match waiter with
        | .dispatcher number => clock.wake (.dispatcher number)
        | .session => clock)
      session.clock }

/-- Makes a move that takes a number of items from the work queue, and sees to what follows from it. -/
def makeTaking (session : EngineSession) (move : ManagerMove) (taken : Nat) : EngineSession :=
  let before := session.engine.work
  let (manager, notes) := session.manager.act move
  let after := manager.engine.work
  let fresh := after.timers.filter (before.nextTimer ≤ ·.number)
  let clock := fresh.foldl (fun clock timer => clock.wake (.schedule timer.number timer.due))
    session.clock
  let clock := notes.foldl
    (fun clock note =>
      match note with
      | .started number _ => clock.wake (.run number)
      | _ => clock)
    clock
  let endings := notes.filterMap fun
    | .ended number outcome => some (number, outcome)
    | _ => none
  let session := { session with manager, clock, endings := session.endings ++ endings }
  session.tell
    (if after.closed && !before.closed then session.waiting.length
      else after.items.length + taken - before.items.length)

/-- Makes a move, and sees to what follows from it. -/
def make (session : EngineSession) (move : ManagerMove) : EngineSession :=
  session.makeTaking move 0

/-- Has the calls answered that the work in hand needs. -/
def answerCalls (session : EngineSession) : Nat → EngineSession
  | 0 => session
  | fuel + 1 =>
    match session.engine.inHand with
    | some ⟨_, .asking request⟩ =>
      let (client, answer) := session.client.presence request
      answerCalls ({ session with client }.make (.engine (.presence answer))) fuel
    | some ⟨_, .creating request⟩ =>
      let (client, answer) := session.client.create request
      answerCalls ({ session with client }.make (.engine (.job answer))) fuel
    | _ => session

/-- A dispatcher stops. The manager notices if it is its own. -/
def stopDispatcher (session : EngineSession) (number : Nat) : EngineSession :=
  if number = 0 then
    let session := session.make .dispatcher
    { session with clock := session.clock.wake .manager }
  else { session with stopped := number :: session.stopped }

/-- A dispatcher goes on until it has to wait or stops. -/
def driveDispatcher (session : EngineSession) (number : Nat) : Nat → EngineSession
  | 0 => session
  | fuel + 1 =>
    if session.manager.dispatcherIsDone then session.stopDispatcher number
    else if session.engine.work.items.isEmpty then
      { session with waiting := session.waiting ++ [.dispatcher number] }
    else
      let move : ManagerMove := if number = 0 then .dispatcher else .engine .take
      driveDispatcher ((session.makeTaking move 1).answerCalls 2) number fuel

/-- Whether a run has slept for as long as it was to. -/
def isOverdue (session : EngineSession) (number : Nat) : Bool :=
  match session.engine.run? number with
  | some { stage := .sleeping _ wake, .. } => wake ≤ session.engine.now
  | _ => false

/-- Wakes the runs that have slept for as long as they were to. Only those that sleep for no time are not awake yet. -/
def rouse (session : EngineSession) : EngineSession :=
  let overdue := (session.engine.runs.map (·.number)).filter session.isOverdue
  { session with clock := overdue.foldl (fun clock number => clock.wake (.run number)) session.clock }

/-- A run goes on until it has to wait or ends. One that sleeps for no time goes on when the others have done so. -/
def driveRun (session : EngineSession) (number : Nat) : Nat → EngineSession
  | 0 => session
  | fuel + 1 =>
    let step (client : Client) (move : Move) : EngineSession :=
      driveRun ({ session with client }.make (.engine move)) number fuel
    match session.engine.run? number with
    | none => session
    | some run =>
      match run.stage with
      | .fresh => step session.client (.look number)
      | .sleeping _ wake =>
        if session.engine.stopping then step session.client (.cancel number)
        else if session.engine.now < wake then
          { session with clock := (session.clock.disarm (.run number)).arm wake (.run number) }
        else
          let next := session.make (.engine (.look number))
          if next.isOverdue number then next else driveRun next number fuel
      | .listingPods _ (job, _) _ _ =>
        let (client, answer) := session.client.listPods job
        step client (.pods number answer)
      | .listingEvents _ _ pod _ _ =>
        let (client, answer) := session.client.listEvents pod
        step client (.events number answer)
      | .resolving _ _ => step session.client (.expire number)
      | .deleting _ job _ =>
        let (client, answer) := session.client.delete job
        step client (.deleted number answer)
      | .collecting _ => step session.client (.collect number)
      | .stuck | .ended _ => session

/-- The manager goes on until it has to wait or returns. If the watch has ended before all pods were listed, it is
    that which the manager acts on, whether or not it is to stop. -/
def driveManager (session : EngineSession) : Nat → EngineSession
  | 0 => session
  | fuel + 1 =>
    let choice : Choice := if session.manager.signal = .lost then .other else .stop
    let next := session.make (.manager choice)
    let started := next.manager.dispatcher = .running && session.manager.dispatcher ≠ .running
    let next := if started then { next with clock := next.clock.wake (.dispatcher 0) } else next
    match session.manager.stage, next.manager.stage with
    | .syncing, .syncing | .working, .working | .draining, .draining | .closing, .closing
    | .absent, _ | .returned _, _ => next
    | _, _ => driveManager next fuel

/-- The watch goes on until it has to wait or ends. -/
def driveWatch (session : EngineSession) : Nat → EngineSession
  | 0 => session
  | fuel + 1 =>
    let manager := session.manager
    let idle := manager.stream.isEmpty && !manager.streamOver && !manager.engine.stopping
    if manager.watch ≠ .running || idle then session
    else
      let next := session.make (.watch .stop)
      let told := next.manager.signal ≠ manager.signal || next.manager.watch ≠ .running
      driveWatch (if told then { next with clock := next.clock.wake .manager } else next) fuel

/-- Waits for the work queue to hand out an item, and has it processed. -/
def processNext (session : EngineSession) : EngineSession × Option EngineAnswer :=
  let engine := session.engine
  if engine.stopping then (session, some (.more false))
  else if engine.work.items.isEmpty then
    if engine.work.closed then (session, some (.more false))
    else if session.waiting.contains .session then (session, none)
    else ({ session with waiting := session.waiting ++ [.session] }, none)
  else ((session.makeTaking (.engine .take) 1).answerCalls 2, some (.more true))

/-- Tells the engine to stop. -/
def stop (session : EngineSession) : EngineSession :=
  let session := session.make (.engine .stop)
  let dispatchers := session.waiting.filterMap fun
    | .dispatcher number => some (EngineTask.dispatcher number)
    | .session => none
  let tasks := session.engine.runs.map (EngineTask.run ·.number) ++ [.manager] ++ dispatchers ++
    [.watch]
  { session with
    waiting := session.waiting.filter (· = Waiter.session)
    clock := tasks.foldl Clock.wake session.clock }

/-- Dispatches a request and says under which job. -/
def dispatchNow (session : EngineSession) (request : Request) : EngineSession × EngineAnswer :=
  let after (session : EngineSession) (move : Move) : EngineSession × List Note :=
    let (_, notes) := session.manager.act (.engine move)
    (session.make (.engine move), notes)
  let rec go (session : EngineSession) (notes : List Note) : Nat → EngineSession × List Note
    | 0 => (session, notes)
    | fuel + 1 =>
      match session.engine.inHand with
      | some ⟨_, .asking request⟩ =>
        let (client, answer) := session.client.presence request
        let (session, notes) := after { session with client } (.presence answer)
        go session notes fuel
      | some ⟨_, .creating request⟩ =>
        let (client, answer) := session.client.create request
        let (session, notes) := after { session with client } (.job answer)
        go session notes fuel
      | _ => (session, notes)
  let (session, notes) := after session (.dispatch request)
  let (session, notes) := go session notes 2
  match notes with
  | .recorded job _ :: _ => (session, .dispatched (.ok job))
  | .refused failure :: _ => (session, .dispatched (.error failure))
  | _ => (session, .nothing)

/-- What a later start of the manager comes to. Pods can be watched once: a second watch brings out a fault and
    ends, so that the manager returns without having listed them, unless it is to stop before that. -/
def laterStart (engine : Engine) : Manager :=
  let fault : WatchItem := .fault (.of .internal "Pods are already being watched")
  let start : Manager := { engine, stream := [fault], streamOver := true }
  [ManagerMove.start, .manager .stop, .watch .stop, .watch .stop, .manager .stop].foldl
    (fun manager move => (manager.act move).1) start

/-- Starts the manager. A start that is under way goes on beside a later one. -/
def startManager (session : EngineSession) : EngineSession :=
  match session.manager.stage with
  | .absent =>
    let session := { session with start := .first }.make .start
    { session with clock := (session.clock.wake .manager).wake .watch }
  | _ =>
    let later := laterStart session.engine
    let session := if later.engine.work.closed then session.make (.engine .close) else session
    match later.stage with
    | .returned outcome => { session with start := .later outcome }
    | _ => session

/-- Performs a step that needs no time. Steps that wait are performed as far as they need none. -/
def performNow (session : EngineSession) (step : EngineStep) : EngineSession × EngineAnswer :=
  match step with
  | .add item => (session.make (.engine (.add item)), .nothing)
  | .addAfter item delay => (session.make (.engine (.addAfter item delay)), .nothing)
  | .insert job result => (session.make (.engine (.insert job result)), .nothing)
  | .resolve job status reason message =>
    (session.make (.engine (.resolve job status reason message)),
      .resolved (session.engine.table.isPending job))
  | .podEvent item =>
    if session.managed then
      if session.fed then
        let session := session.make (.arrive item)
        ({ session with clock := session.clock.wake .watch }, .nothing)
      else (session, .nothing)
    else
      match item with
      | .event event =>
        let session := session.make (.engine (.observe event))
        (session, .tracked session.engine.memory.size)
      | .fault _ => (session, .tracked session.engine.memory.size)
  | .endWatch =>
    if session.fed then
      let session := session.make .endStream
      ({ session with fed := false, clock := session.clock.wake .watch }, .nothing)
    else (session, .nothing)
  | .settlePod pod => (session.make (.engine (.settle pod)), .nothing)
  | .layDown change => ({ session with client := change session.client }, .nothing)
  | .stop => (session.stop, .nothing)
  | .closeQueue => (session.make (.engine .close), .nothing)
  | .queueItem item =>
    (session, .queueItem (session.engine.work.requeues item) (session.engine.work.isProcessing item))
  | .isRunning cacheKey => (session, .flag (session.engine.isBarred cacheKey))
  | .calls => (session, .calls session.client)
  | .lookups => (session, .lookups session.client.podCalls session.client.eventCalls)
  | .rows cacheKey => (session, .rows (session.engine.table.rowsFor cacheKey))
  | .later delay step =>
    let number := session.nextPutOff
    ({ session with
        putOff := session.putOff ++ [(number, step)], nextPutOff := number + 1
        clock := session.clock.wake (.putOff number delay) },
      .nothing)
  | .scheduled => (session, .scheduled session.performed)
  | .dispatch request => session.dispatchNow request
  | .runDispatcher =>
    ({ session with
        nextDispatcher := session.nextDispatcher + 1
        clock := session.clock.wake (.dispatcher session.nextDispatcher) },
      .nothing)
  | .dispatcherFinished =>
    (session, .flag (session.stopped.contains (session.nextDispatcher - 1)))
  | .start cacheKey =>
    let number := session.engine.nextRun
    if session.engine.isBarred cacheKey then (session, .started false)
    else
      ({ session.make (.engine (.start cacheKey)) with
          held := session.held.insert cacheKey number },
        .started true)
  | .startManager => (session.startManager, .nothing)
  | _ => (session, .nothing)

/-- Lets a task go on until it has to wait. -/
def drive (session : EngineSession) : EngineTask → EngineSession
  | .schedule timer due => { session with clock := session.clock.arm due (.timer timer) }
  | .timer number => session.make (.engine (.fire number))
  | .run number => session.driveRun number Clock.patience
  | .dispatcher number => session.driveDispatcher number Clock.patience
  | .manager => session.driveManager Clock.patience
  | .watch => session.driveWatch Clock.patience
  | .putOff number delay =>
    if delay = 0 then { session with clock := session.clock.wake (.scheduled number) }
    else
      { session with
        clock := session.clock.arm (session.clock.now + waitFor delay) (.scheduled number) }
  | .scheduled number =>
    match session.putOff.lookup number with
    | none => session
    | some step =>
      let (session, answer) := session.performNow step
      { session with
        putOff := session.putOff.filter (·.1 ≠ number)
        performed := session.performed ++ [(session.clock.now, answer)] }

/-- Lets all tasks go on until none can. -/
def settle (session : EngineSession) : Nat → EngineSession
  | 0 => session
  | fuel + 1 =>
    match session.clock.next? with
    | none => session
    | some (task, clock) => settle (drive { session with clock } task) fuel

/-- Moves the time forward, and lets everything go on that can. What the session itself waits for goes on
    first. -/
def moveTo (session : EngineSession) (time : Nat) : EngineSession :=
  let passed := time - session.clock.now
  let session := { session with clock := session.clock.moveTo time }.make (.engine (.tick passed))
  let clock := match session.foreground with
    | some number => session.clock.prefer (.run number)
    | none => session.clock
  { session with clock }.rouse.settle Clock.patience

/-- Tries something again and again until a given time. What comes at that very time comes too late. -/
def await (session : EngineSession) (time : Nat)
    (attempt : EngineSession → EngineSession × Option EngineAnswer) (late : EngineAnswer) :
    Nat → EngineSession × EngineAnswer
  | 0 => (session, late)
  | fuel + 1 =>
    match attempt session with
    | (session, some answer) => (session, answer)
    | (session, none) =>
      let expire (session : EngineSession) : EngineSession × EngineAnswer :=
        ({ session with waiting := session.waiting.filter (· ≠ Waiter.session) }.moveTo time, late)
      match session.clock.nextDue? with
      | some due =>
        if due < time then (session.moveTo due).await time attempt late fuel else expire session
      | none => expire session

/-- Whether a run goes no further. -/
def isStuck (session : EngineSession) (number : Nat) : Bool :=
  match session.engine.run? number with
  | some { stage := .stuck, .. } => true
  | _ => false

/-- Waits until a run has ended. -/
def awaitRun (session : EngineSession) (number : Nat) : Nat → EngineSession × EngineAnswer
  | 0 => (session, .nothing)
  | fuel + 1 =>
    match session.endings.lookup number with
    | some outcome => ({ session with foreground := none }, .finished outcome)
    | none =>
      match session.isStuck number, session.clock.nextDue? with
      | true, _ => ({ session with foreground := none }, .dropped)
      | false, some due => (session.moveTo due).awaitRun number fuel
      | false, none => (session, .nothing)

/-- Takes the next update that is put up for reporting. -/
def takeUpdate (session : EngineSession) : EngineSession × Option EngineAnswer :=
  match session.engine.reports.items with
  | .status update :: _ => (session.make (.engine .takeReport), some (.update update))
  | .sync _ _ :: _ => (session.make (.engine .takeReport), some .nothing)
  | [] => (session, if session.engine.reports.closed then some .closed else none)

/-- Takes the outcome of a run that is held. -/
def takeOutcome (cacheKey : String) (session : EngineSession) : EngineSession × Option EngineAnswer :=
  match session.held.get? cacheKey with
  | none => (session, some .nothing)
  | some number =>
    match session.endings.lookup number with
    | some outcome =>
      ({ session with held := session.held.erase cacheKey }, some (.finished outcome))
    | none =>
      if session.isStuck number then
        ({ session with held := session.held.erase cacheKey }, some .dropped)
      else (session, none)

/-- Takes the outcome of the manager. -/
def takeReturn (session : EngineSession) : EngineSession × Option EngineAnswer :=
  match session.start, session.manager.stage with
  | .none, _ => (session, some .nothing)
  | .first, .returned outcome | .later outcome, _ =>
    ({ session with start := .none }, some (.finished outcome))
  | .first, _ => (session, none)

/-- Takes up the items of a stream until the engine is told to stop. Says whether the pods were listed, and
    whether the watch was stopped. -/
def watchItems (session : EngineSession) (synced : Bool) :
    List WatchItem → EngineSession × Bool × Bool
  | [] => (session, synced, session.engine.stopping)
  | item :: rest =>
    if session.engine.stopping then (session, synced, true)
    else
      match item with
      | .fault _ => session.watchItems synced rest
      | .event event =>
        let synced := synced || match event with
          | .listComplete => true
          | _ => false
        (session.make (.engine (.observe event))).watchItems synced rest

/-- Performs a step, with all the time that it needs. -/
def performInTime (session : EngineSession) (step : EngineStep) : EngineSession × EngineAnswer :=
  let now := session.clock.now
  match step with
  | .sleep time =>
    session.await (now + waitFor time) (fun session => (session, none)) .nothing Clock.patience
  | .process wait => session.await (now + waitFor wait) processNext .timeout Clock.patience
  | .nextUpdate wait => session.await (now + waitFor wait) takeUpdate .timeout Clock.patience
  | .outcome cacheKey wait =>
    session.await (now + waitFor wait) (takeOutcome cacheKey) .timeout Clock.patience
  | .joinManager wait => session.await (now + waitFor wait) takeReturn .timeout Clock.patience
  | .runWatch items staysOpen signalled wait =>
    let (session, synced, stopped) := session.watchItems false items
    let synced := synced && signalled
    if stopped || !staysOpen then (session, .watched true synced session.engine.memory.size)
    else
      let (session, answer) := session.await (now + waitFor wait)
        (fun session => (session, if session.engine.stopping then some .nothing else none)) .timeout
        Clock.patience
      let ended := match answer with
        | .timeout => false
        | _ => true
      (session, .watched ended synced session.engine.memory.size)
  | .reconcile cacheKey =>
    let number := session.engine.nextRun
    let session := session.make (.engine (.startUnguarded cacheKey))
    ({ session with foreground := some number }.settle Clock.patience).awaitRun number
      Clock.patience
  | step => session.performNow step

/-- Performs a step, and lets everything go on that can. -/
def perform (session : EngineSession) (step : EngineStep) : EngineSession × EngineAnswer :=
  let (session, answer) := session.performInTime step
  (session.rouse.settle Clock.patience, answer)

end EngineSession

end NodeImages.Simulation
