import NodeImages.Api.Reporter
import NodeImages.Api.Watcher
import NodeImages.Simulation.Clock
import NodeImages.Work.Reporting

/-!
# Calls to a cluster that answers as it is told

A service has a row of answers laid down, one for each request, and writes the requests down. A step of a
session makes a call, watches pods for a while, or lets the reporter work on a queue for a while, each over a
service of its own.
-/

namespace NodeImages.Simulation

open Cluster Work Api

/-- What becomes of a request. -/
inductive Reply
  | response (response : Response)
  /-- The request does not get through. -/
  | lost (text : String)
  deriving DecidableEq, Repr

/-- A service with the answers that are left and the requests so far. -/
structure Service where
  replies : List Reply
  requests : List Api.Request := []

namespace Service

/-- Sends a request. -/
def send (service : Service) (request : Api.Request) : Service × Except CallFault Response :=
  let requests := service.requests ++ [request]
  match service.replies with
  | .response response :: rest => (⟨rest, requests⟩, .ok response)
  | .lost text :: rest => (⟨rest, requests⟩, .error (.transport text))
  | [] => (⟨[], requests⟩, .error (.transport "no scripted response"))

/-- Makes a call, and gives what its caller makes of the result. -/
def call {α : Type} (service : Service) (call : Call α) : Service × Outcome α := call.perform send service

/-- Reports an update. -/
def report (service : Service) (update : Update) (now : String) : Service × Outcome Unit :=
  Api.report send service update now

/-- Watches pods until a number of items have come out. -/
def watch (service : Service) (space : String) (count : Nat) (watcher : Watcher)
    (items : List Watcher.Item) : Nat → Service × List Watcher.Item
  | 0 => (service, items)
  | fuel + 1 =>
    if count ≤ items.length then (service, items)
    else
      let (service, item, watcher) :=
        match watcher.need space with
        | .nothing => (service, watcher.step)
        | .page call =>
          let (service, answer) := call.result send service
          (service, Watcher.onPage answer)
        | .stream call =>
          let (service, answer) := call.result send service
          match watcher with
          | .listed version => (service, Watcher.onStream version answer)
          | watcher => (service, none, watcher)
      service.watch space count watcher (items ++ item.toList) fuel

end Service

/-- A reporter at work on a queue. -/
structure ReporterSession where
  service : Service
  reporting : Reporting
  clock : Clock Nat := {}

namespace ReporterSession

/-- The reporter goes on until it has to wait or stops. -/
def drive (session : ReporterSession) (now : String) : Nat → ReporterSession
  | 0 => session
  | fuel + 1 =>
    let reporting := session.reporting.take
    match reporting.inHand with
    | none => { session with reporting }
    | some report =>
      let (service, outcome) := match report with
        | .status update => session.service.report update now
        | .sync _ _ => (session.service, .ok ())
      let reporting := reporting.written outcome
      let fresh := reporting.queue.timers.filter (session.reporting.queue.nextTimer ≤ ·.number)
      let clock := fresh.foldl (fun clock timer => clock.arm timer.due timer.number) session.clock
      drive { service, reporting, clock } now fuel

/-- Lets all timers that have fallen due put in their items. -/
def fireAll (session : ReporterSession) : Nat → ReporterSession
  | 0 => session
  | fuel + 1 =>
    match session.clock.next? with
    | none => session
    | some (timer, clock) =>
      let reporting :=
        { session.reporting with queue := session.reporting.queue.fire timer }
      fireAll { session with reporting, clock } fuel

/-- Moves the time forward. -/
def moveTo (session : ReporterSession) (time : Nat) (now : String) : ReporterSession :=
  let session :=
    { session with
      clock := session.clock.moveTo time
      reporting := { session.reporting with now := time } }.fireAll Clock.patience
  session.drive now Clock.patience

/-- Lets time pass until just before a given time. -/
def runUntil (session : ReporterSession) (time : Nat) (now : String) : Nat → ReporterSession
  | 0 => session
  | fuel + 1 =>
    match session.clock.nextDue? with
    | some due => if due < time then (session.moveTo due now).runUntil time now fuel else session
    | none => session

end ReporterSession

/-- What a reporter is given to do. -/
structure ReporterTask where
  items : List Report
  config : QueueConfig := {}
  /-- How long it works, in milliseconds. -/
  time : Nat := 60000
  /-- Whether it is told to stop in the end; otherwise its queue is closed. -/
  cancel : Bool := false
  /-- Whether it is told to stop before it begins. -/
  cancelFirst : Bool := false

/-- What has become of a queue of reports. -/
structure ReporterOutcome where
  requeues : List Nat
  processing : List Bool
  left : Nat
  stopped : Bool
  deriving DecidableEq, Repr

/-- Lets a reporter work on a queue. -/
def Service.runReporter (service : Service) (task : ReporterTask) (now : String) :
    Service × ReporterOutcome :=
  let queue := task.items.foldl Queue.add { config := task.config }
  let start : ReporterSession :=
    { service, reporting := { queue, stopping := task.cancelFirst } }
  let session := (start.drive now Clock.patience).runUntil (waitFor task.time) now Clock.patience
  let worked := session.reporting.queue
  let reporting :=
    if task.cancel then { session.reporting with stopping := true }
    else { session.reporting with queue := worked.close }
  let session := { session with reporting }.drive now Clock.patience
  (session.service,
    { requeues := task.items.map worked.requeues
      processing := task.items.map worked.isProcessing
      left := session.reporting.queue.size
      stopped := session.reporting.stopped })

end NodeImages.Simulation
