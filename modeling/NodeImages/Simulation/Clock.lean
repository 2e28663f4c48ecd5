/-!
# Virtual time

In a simulation time stands still while anything can be done, and then moves to the next alarm. Tasks that can
go on wait in a line and go on one after the other. Alarms that fall due together wake their tasks in the order
in which they were set.
-/

namespace NodeImages.Simulation

/-- A task to be woken at a time. -/
structure Alarm (τ : Type) where
  due : Nat
  task : τ
  deriving Repr

/-- A clock with the tasks that it wakes. -/
structure Clock (τ : Type) where
  /-- The time in milliseconds. -/
  now : Nat := 0
  /-- The alarms, in the order in which they were set. -/
  alarms : List (Alarm τ) := []
  /-- The tasks that can go on, the next one in front. -/
  ready : List τ := []
  deriving Repr, Inhabited

namespace Clock

variable {τ : Type} [BEq τ]

/-- Puts a task into the line, unless it is there already. -/
def wake (clock : Clock τ) (task : τ) : Clock τ :=
  if clock.ready.contains task then clock else { clock with ready := clock.ready ++ [task] }

/-- Sets an alarm. -/
def arm (clock : Clock τ) (due : Nat) (task : τ) : Clock τ :=
  { clock with alarms := clock.alarms ++ [⟨due, task⟩] }

/-- Takes back the alarms of a task. -/
def disarm (clock : Clock τ) (task : τ) : Clock τ :=
  { clock with alarms := clock.alarms.filter (·.task != task) }

/-- Lets a task of the line go first. -/
def prefer (clock : Clock τ) (task : τ) : Clock τ :=
  if clock.ready.contains task then { clock with ready := task :: clock.ready.filter (· != task) }
  else clock

/-- The next task in the line, and the clock without it. -/
def next? (clock : Clock τ) : Option (τ × Clock τ) :=
  match clock.ready with
  | [] => none
  | task :: rest => some (task, { clock with ready := rest })

/-- The time of the next alarm. -/
def nextDue? (clock : Clock τ) : Option Nat :=
  clock.alarms.foldl
    (fun least alarm =>
      match least with
      | none => some alarm.due
      | some due => some (min due alarm.due))
    none

/-- Moves the time forward and wakes the tasks whose alarms have fallen due. -/
def moveTo (clock : Clock τ) (time : Nat) : Clock τ :=
  let due := clock.alarms.filter (·.due ≤ time)
  due.foldl (fun clock alarm => clock.wake alarm.task)
    { clock with now := time, alarms := clock.alarms.filter fun alarm => !(alarm.due ≤ time) }

/-- How many tasks may go on at one time before the simulation gives up. -/
def patience : Nat := 1000000

end Clock

end NodeImages.Simulation
