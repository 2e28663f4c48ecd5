import NodeImages.Failure

/-!
# Waits and background tasks

A wait is a time in milliseconds that a timer is set to. No timer is set to more than thirty years: whoever asks
for a longer wait gets one of thirty years, and has to look again then.

A task that sleeps and then answers belongs to whoever started it: when the owner lets go of it, the task is
stopped where it is. A task that did not come to its end leaves a failure.
-/

namespace NodeImages

/-- The longest wait: thirty years of 365 days. -/
def longestWait : Nat := 30 * 365 * 24 * 60 * 60 * 1000

/-- How long a wait lasts that is asked for. -/
def waitFor (asked : Nat) : Nat := min asked longestWait

/-- How a task came to an end without an answer. -/
inductive TaskFault
  | cancelled
  | panicked
  deriving DecidableEq, Repr

/-- The failure that a task without an answer leaves. -/
def TaskFault.failure : TaskFault → Failure
  | cancelled => .of .cancelled "task was cancelled"
  | panicked => .of .internal "task panicked"

/-- A task that sleeps and then answers. -/
structure Sleeper (α : Type) where
  /-- How long it sleeps, in milliseconds. -/
  delay : Nat
  answer : α
  deriving DecidableEq, Repr

namespace Sleeper

/-- Whether the task gets to its end when its owner lets go of it after a time. When both fall together the
    owner is first. -/
def finishes {α : Type} (task : Sleeper α) (droppedAfter : Option Nat) : Bool :=
  match droppedAfter with
  | none => true
  | some time => waitFor task.delay < waitFor time

/-- The answer, if the owner waits for it. -/
def joined? {α : Type} (task : Sleeper α) (droppedAfter : Option Nat) : Option α :=
  match droppedAfter with
  | none => some task.answer
  | some _ => none

end Sleeper

end NodeImages
