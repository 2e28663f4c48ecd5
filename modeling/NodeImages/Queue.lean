import NodeImages.Config.Basic
import NodeImages.Task

/-!
# Work queues

A queue hands out items in the order in which it took them in. An item may be put in with a delay; then a
timer takes it in when it falls due. Items have keys, and for every key the queue knows whether an item of it
is being worked on, how many of its items are waiting for a timer, and how often it failed since it was last
forgotten. A queue that has been closed takes in nothing more, and hands out what it has.

* `Queue.Counts`: counters by key; a counter that falls to zero is dropped;
* `Queue.backoffDelay`: how long work that failed waits before it is tried again;
* `Queue.add`, `Queue.addAfter`, `Queue.addRateLimited`, `Queue.requeue`: the ways in;
* `Queue.fire`: a timer falls due;
* `Queue.take`: the way out; `Queue.done` and `Queue.forget` follow when the work is over;
* `Queue.hasOutstanding`: whether an item of certain keys is anywhere in the queue.
-/

namespace NodeImages

/-! ## Counters by key -/

namespace Queue

/-- Counters by key. -/
abbrev Counts := List (String × Nat)

namespace Counts

/-- The counter of a key, which is zero if there is none. -/
def count (counts : Counts) (key : String) : Nat := (counts.lookup key).getD 0

/-- Sets the counter of a key. -/
def put (key : String) (n : Nat) : Counts → Counts
  | [] => [(key, n)]
  | (k, m) :: rest => if k = key then (key, n) :: rest else (k, m) :: put key n rest

/-- Drops the counter of a key. -/
def drop (counts : Counts) (key : String) : Counts := counts.filter (·.1 ≠ key)

/-- One more for a key. -/
def increment (counts : Counts) (key : String) : Counts := put key (counts.count key + 1) counts

/-- One less for a key, if it has a counter. -/
def decrement (counts : Counts) (key : String) : Counts :=
  match counts.lookup key with
  | none => counts
  | some n => if n ≤ 1 then counts.drop key else put key (n - 1) counts

/-- The keys that have a counter. -/
def keys (counts : Counts) : List String := counts.map (·.1)

end Counts

/-! ## Backoff

Work that failed waits twice as long after every failure, up to a limit. The delay is computed in words of 64 bits,
where a product that does not fit counts as the greatest word. -/

/-- The greatest word of 64 bits. -/
def maxWord : Nat := 18446744073709551615

/-- Two to the power of a count, or the greatest word if that does not fit. -/
def doublings (count : Nat) : Nat :=
  if count < 64 then Nat.pow 2 count else maxWord

/-- The product of two words, or the greatest word if it does not fit. -/
def saturatingMul (a b : Nat) : Nat := min (a * b) maxWord

/-- The delay in milliseconds before an attempt that follows a number of failures. -/
def backoffDelay (config : QueueConfig) (failures : Nat) : Nat :=
  min (saturatingMul config.baseDelayMs (doublings failures)) config.maxDelayMs

/-- The count after another failure. It stops at the greatest word of 32 bits. -/
def oneMore (failures : Nat) : Nat := min (failures + 1) 4294967295

end Queue

/-! ## Queues -/

/-- What has a key in a queue. -/
class Keyed (α : Type) where
  /-- The key of an item. -/
  key : α → String

namespace Queue

/-- An item that waits to be taken in. -/
structure Timer (α : Type) where
  /-- The number of the timer; each has its own. -/
  number : Nat
  /-- When it falls due, in milliseconds. -/
  due : Nat
  item : α
  deriving Repr

end Queue

/-- A queue of work. -/
structure Queue (α : Type) where
  name : String := ""
  config : QueueConfig := {}
  /-- The items to be handed out, the first one in front. -/
  items : List α := []
  /-- The keys of items that were handed out and are still worked on. -/
  processing : List String := []
  /-- How often each key failed. -/
  failures : Queue.Counts := []
  /-- How many items of each key wait for a timer. -/
  delayed : Queue.Counts := []
  timers : List (Queue.Timer α) := []
  /-- The number of the next timer. -/
  nextTimer : Nat := 0
  closed : Bool := false
  deriving Repr, Inhabited

namespace Queue

variable {α : Type} [Keyed α]

/-- Takes an item in, unless the queue is closed. -/
def accept (queue : Queue α) (item : α) : Queue α :=
  if queue.closed then queue else { queue with items := queue.items ++ [item] }

/-- Puts an item in at once. -/
def add (queue : Queue α) (item : α) : Queue α := queue.accept item

/-- Puts an item in after a delay in milliseconds. Without a delay it is put in at once. -/
def addAfter (queue : Queue α) (now : Nat) (item : α) (delay : Nat) : Queue α :=
  if delay = 0 then queue.add item
  else
    { queue with
      delayed := queue.delayed.increment (Keyed.key item)
      timers := queue.timers ++ [⟨queue.nextTimer, now + waitFor delay, item⟩]
      nextTimer := queue.nextTimer + 1 }

/-- How often the key of an item failed. -/
def requeues (queue : Queue α) (item : α) : Nat := queue.failures.count (Keyed.key item)

/-- Puts an item in after the delay that the failures of its key call for, and counts one more. -/
def addRateLimited (queue : Queue α) (now : Nat) (item : α) : Queue α :=
  let failures := queue.requeues item
  { queue with failures := queue.failures.put (Keyed.key item) (oneMore failures) }.addAfter now item
    (backoffDelay queue.config failures)

/-- Forgets how often the key of an item failed. -/
def forget (queue : Queue α) (item : α) : Queue α :=
  { queue with failures := queue.failures.drop (Keyed.key item) }

/-- Whether an item may be tried once more. -/
def mayRetry (queue : Queue α) (item : α) : Bool :=
  queue.requeues item < queue.config.maxRetries

/-- Puts an item that failed in again, if it may be tried once more; otherwise it is dropped and its
    failures are forgotten. -/
def requeue (queue : Queue α) (now : Nat) (item : α) : Queue α :=
  if queue.mayRetry item then queue.addRateLimited now item else queue.forget item

/-- The timer of a number falls due. -/
def fire (queue : Queue α) (number : Nat) : Queue α :=
  match queue.timers.find? (·.number == number) with
  | none => queue
  | some timer =>
    { queue with
      timers := queue.timers.filter (·.number != number)
      delayed := queue.delayed.decrement (Keyed.key timer.item) }.accept timer.item

/-- What a consumer gets that asks for an item. -/
inductive Handout (α : Type)
  | item (item : α)
  /-- The queue is closed and empty. -/
  | closed
  /-- There is nothing yet. -/
  | nothing
  deriving Repr

/-- Hands out the first item. -/
def take (queue : Queue α) : Queue α × Handout α :=
  match queue.items with
  | item :: rest =>
    let key := Keyed.key item
    ({ queue with
        items := rest
        processing :=
          if key ∈ queue.processing then queue.processing else key :: queue.processing },
      .item item)
  | [] => (queue, if queue.closed then .closed else .nothing)

/-- The work on an item is over. -/
def done (queue : Queue α) (item : α) : Queue α :=
  { queue with processing := queue.processing.filter (· ≠ Keyed.key item) }

/-- Whether an item of the same key is being worked on. -/
def isProcessing (queue : Queue α) (item : α) : Bool :=
  queue.processing.contains (Keyed.key item)

/-- Whether an item whose key has a property is to be handed out, is being worked on, or waits for a
    timer. -/
def hasOutstanding (queue : Queue α) (property : String → Bool) : Bool :=
  queue.items.any (fun item => property (Keyed.key item)) || queue.processing.any property ||
    queue.delayed.keys.any property

/-- Closes the queue. -/
def close (queue : Queue α) : Queue α := { queue with closed := true }

/-- The number of items to be handed out. -/
def size (queue : Queue α) : Nat := queue.items.length

end Queue

end NodeImages
