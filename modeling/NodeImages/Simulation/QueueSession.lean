import NodeImages.Queue
import NodeImages.Simulation.Clock
import NodeImages.Text.Cut

/-!
# A queue at work

A session with one queue on a virtual clock. Its steps are those of a producer and of a consumer; other
consumers may wait for an item in the background. Waiting consumers are served in the order in which they came.
-/

namespace NodeImages.Simulation

/-- An item of a session: a key, and what follows the first `#`. -/
structure Parcel where
  text : String
  deriving DecidableEq, Repr, Inhabited

instance : Keyed Parcel where
  key parcel :=
    match Text.cut '#' parcel.text.toList with
    | some (key, _) => String.ofList key
    | none => parcel.text

/-- What goes on in the background. -/
inductive QueueTask
  /-- A timer is set or falls due. -/
  | timer (number : Nat)
  /-- A consumer waits for an item. Consumers may share a name; each has a number of its own. -/
  | consumer (number : Nat) (name : String)
  deriving DecidableEq, Repr

/-- What a background consumer got, and when. -/
structure Consumed where
  time : Nat
  /-- Nothing, if the queue was closed. -/
  item : Option Parcel
  deriving Repr

/-- A session with a queue. -/
structure QueueSession where
  queue : Queue Parcel
  clock : Clock QueueTask := {}
  /-- The consumers that wait; the session itself goes by `none`. -/
  waiting : List (Option (Nat × String)) := []
  /-- The number of the next consumer. -/
  nextConsumer : Nat := 0
  /-- What the consumer of a name got that was the last to get something. -/
  consumed : Dictionary Consumed := .empty
  deriving Inhabited

/-- A step of a session. -/
inductive QueueStep
  | add (item : Parcel)
  | addAfter (item : Parcel) (delay : Nat)
  | addRateLimited (item : Parcel)
  | requeue (item : Parcel)
  /-- Waits for an item for a time. -/
  | get (wait : Nat)
  | done (item : Parcel)
  | forget (item : Parcel)
  | requeues (item : Parcel)
  | isProcessing (item : Parcel)
  | hasOutstanding (start : String)
  | close
  | isClosed
  | name
  | sleep (time : Nat)
  | consumer (name : String)
  | consumed

/-- The answer to a step. -/
inductive QueueAnswer
  | nothing
  | flag (value : Bool)
  | number (value : Nat)
  | text (value : String)
  | item (item : Parcel)
  | closed
  | timeout
  | consumed (entries : Dictionary Consumed)

namespace QueueSession

/-- Takes up a change of the queue: timers that are new are set, and for every item that was taken in one
    waiting consumer is told. -/
def update (session : QueueSession) (queue : Queue Parcel) (taken : Nat) : QueueSession :=
  let fresh := queue.timers.filter (session.queue.nextTimer ≤ ·.number)
  let clock := fresh.foldl (fun clock timer => clock.arm timer.due (.timer timer.number)) session.clock
  let clock := (session.waiting.take taken).foldl
    (fun clock consumer =>
      match consumer with
      | some (number, name) => clock.wake (.consumer number name)
      | none => clock)
    clock
  { session with queue, clock, waiting := session.waiting.drop taken }

/-- Takes up a change of the queue that may have put an item in. -/
def afterAdding (session : QueueSession) (queue : Queue Parcel) : QueueSession :=
  session.update queue (if session.queue.size < queue.size then 1 else 0)

/-- Lets a task go on. -/
def run (session : QueueSession) : QueueTask → QueueSession
  | .timer number => session.afterAdding (session.queue.fire number)
  | .consumer number name =>
    let (queue, handout) := session.queue.take
    let got (item : Option Parcel) : QueueSession :=
      { session with
        queue, consumed := session.consumed.insert name ⟨session.clock.now, item⟩ }
    match handout with
    | .item item => got (some item)
    | .closed => got none
    | .nothing => { session with waiting := session.waiting ++ [some (number, name)] }

/-- Lets all tasks go on until none can. -/
def settle (session : QueueSession) : Nat → QueueSession
  | 0 => session
  | fuel + 1 =>
    match session.clock.next? with
    | none => session
    | some (task, clock) => settle (run { session with clock } task) fuel

/-- Moves the time forward, and lets everything go on that can. -/
def moveTo (session : QueueSession) (time : Nat) : QueueSession :=
  { session with clock := session.clock.moveTo time }.settle Clock.patience

/-- Lets time pass until a given time. -/
def sleepUntil (session : QueueSession) (time : Nat) : Nat → QueueSession
  | 0 => session.moveTo time
  | fuel + 1 =>
    match session.clock.nextDue? with
    | some due => if due < time then (session.moveTo due).sleepUntil time fuel else session.moveTo time
    | none => session.moveTo time

/-- Asks for an item. -/
def ask (session : QueueSession) : QueueSession × Option QueueAnswer :=
  let (queue, handout) := session.queue.take
  match handout with
  | .item item => ({ session with queue }, some (.item item))
  | .closed => (session, some .closed)
  | .nothing => (session, none)

/-- Waits for an item until a given time. An item that comes at that very time comes too late. -/
def await (session : QueueSession) (time : Nat) : Nat → QueueSession × QueueAnswer
  | 0 => (session, .timeout)
  | fuel + 1 =>
    match session.ask with
    | (session, some answer) => (session, answer)
    | (session, none) =>
      let session :=
        if session.waiting.contains none then session
        else { session with waiting := session.waiting ++ [none] }
      let expire (session : QueueSession) : QueueSession × QueueAnswer :=
        ({ session with waiting := session.waiting.filter Option.isSome }.moveTo time, .timeout)
      match session.clock.nextDue? with
      | some due => if due < time then (session.moveTo due).await time fuel else expire session
      | none => expire session

/-- Performs a step. -/
def perform (session : QueueSession) (step : QueueStep) : QueueSession × QueueAnswer :=
  let queue := session.queue
  let now := session.clock.now
  let (session, answer) : QueueSession × QueueAnswer :=
    match step with
    | .add item => (session.afterAdding (queue.add item), .nothing)
    | .addAfter item delay => (session.afterAdding (queue.addAfter now item delay), .nothing)
    | .addRateLimited item => (session.afterAdding (queue.addRateLimited now item), .nothing)
    | .requeue item =>
      (session.afterAdding (queue.requeue now item), .flag (queue.mayRetry item))
    | .get wait => session.await (now + waitFor wait) Clock.patience
    | .done item => ({ session with queue := queue.done item }, .nothing)
    | .forget item => ({ session with queue := queue.forget item }, .nothing)
    | .requeues item => (session, .number (queue.requeues item))
    | .isProcessing item => (session, .flag (queue.isProcessing item))
    | .hasOutstanding start =>
      (session, .flag (queue.hasOutstanding fun key => start.toList.isPrefixOf key.toList))
    | .close => (session.update queue.close session.waiting.length, .nothing)
    | .isClosed => (session, .flag queue.closed)
    | .name => (session, .text queue.name)
    | .sleep time => (session.sleepUntil (now + waitFor time) Clock.patience, .nothing)
    | .consumer name =>
      ({ session with
          nextConsumer := session.nextConsumer + 1
          clock := session.clock.wake (.consumer session.nextConsumer name) },
        .nothing)
    | .consumed => (session, .consumed session.consumed)
  (session.settle Clock.patience, answer)

end QueueSession

end NodeImages.Simulation
