import Mathlib.Data.List.DropRight
import Mathlib.Tactic.SplitIfs
import NodeImages.Proofs.Retries

/-!
# How long failed work waits

Work that has failed is put in again after a delay, which doubles with every failure up to a limit (`backoffDelay`). It
is computed in words of 64 bits, where powers of two and products are cut short; but as the limit is a word as well, the
delay is the same as if there were no end to numbers.

How many failures there have been is counted by key. They are counted from when the key was last forgotten, be it
because it was to be forgotten or because it had been tried often enough (`Timed.setbacks`, `Timed.streak`).

* `backoffDelay_eq`, `backoffDelay_mono`: the delay, in numbers without an end;
* `count_failures_after`, `failures_eq_streak`: the counter of a key says how many failures there have been in a row;
* `takenWhenDue_of_mem`: an item that is with a timer is taken in when the timer is due, and not before;
* `waits_for_backoff`: so an item that is put in after a failure waits for as long as the failures call for;
* `retried_early`: a delay of more than thirty years is cut short.
-/

namespace NodeImages

namespace Queue

/-! ## Delays -/

section

variable {config : QueueConfig}

/-- If the limit is a word, nothing is seen of the words in which a delay is computed. -/
theorem backoffDelay_eq (fits : config.maxDelayMs < 2 ^ 64) (failures : Nat) :
    backoffDelay config failures = min (config.baseDelayMs * 2 ^ failures) config.maxDelayMs := by
  have word : config.maxDelayMs ≤ maxWord := Nat.le_of_lt_succ fits
  rw [backoffDelay, saturatingMul, doublings]
  split_ifs with few
  · -- A product that is cut short is not below the limit.
    rw [min_assoc, min_eq_right word]
    rfl
  · cases base : config.baseDelayMs with
    | zero => rw [Nat.zero_mul, Nat.zero_mul, Nat.zero_min]
    | succ pred =>
      have more : config.maxDelayMs < 2 ^ failures :=
        Nat.lt_of_lt_of_le fits (Nat.pow_le_pow_right (by decide) (Nat.le_of_not_lt few))
      have left : config.maxDelayMs ≤ (pred + 1) * maxWord :=
        Nat.le_trans word (Nat.le_mul_of_pos_left _ (Nat.succ_pos pred))
      have right : config.maxDelayMs ≤ (pred + 1) * 2 ^ failures :=
        Nat.le_trans more.le (Nat.le_mul_of_pos_left _ (Nat.succ_pos pred))
      rw [min_eq_right right, min_eq_right (Nat.le_min.2 ⟨left, word⟩)]

theorem backoffDelay_mono (fits : config.maxDelayMs < 2 ^ 64) : Monotone (backoffDelay config) := by
  intro fewer more h
  rw [backoffDelay_eq fits, backoffDelay_eq fits]
  exact min_le_min_right _ (Nat.mul_le_mul_left _ (Nat.pow_le_pow_right (by decide) h))

theorem backoffDelay_le (config : QueueConfig) (failures : Nat) : backoffDelay config failures ≤ config.maxDelayMs :=
  min_le_right _ _

end

namespace Timed

variable {α : Type} [Keyed α] {timed start : Timed α} {move : Move α} {moves : List (Move α)} {key : String} {item : α}

/-! ## Failures in a row -/

/-- What becomes of the failures of a key in a move, if anything. -/
def setbackOf (key : String) (timed : Timed α) (move : Move α) : List Bool :=
  match timed.setback? move with
  | some (item, again) => if Keyed.key item = key then [again] else []
  | none => []

/-- What becomes of the failures of a key in a row of moves, from the first to the last. -/
def setbacks (key : String) (timed : Timed α) : List (Move α) → List Bool
  | [] => []
  | move :: rest => timed.setbackOf key move ++ (timed.act move).setbacks key rest

/-- How many failures of a key there have been in a row of moves since the key was last forgotten. -/
def streak (key : String) (timed : Timed α) (moves : List (Move α)) : Nat :=
  ((timed.setbacks key moves).rtakeWhile id).length

/-- The counter of failures after a setback. -/
def counted (failures : Nat) (again : Bool) : Nat := if again then oneMore failures else 0

theorem count_failures_act (timed : Timed α) (move : Move α) (key : String) :
    (timed.act move).queue.failures.count key =
      (timed.setbackOf key move).foldl counted (timed.queue.failures.count key) := by
  rw [failures_act, setbackOf]
  rcases timed.setback? move with _ | ⟨item, again⟩
  · rfl
  · by_cases h : Keyed.key item = key
    · cases again <;> simp [h, counted, requeues, Counts.count_put, Counts.count_drop]
    · cases again <;> simp [h, Ne.symm h, Counts.count_put, Counts.count_drop]

theorem count_failures_after (timed : Timed α) (moves : List (Move α)) (key : String) :
    (timed.after moves).queue.failures.count key =
      (timed.setbacks key moves).foldl counted (timed.queue.failures.count key) := by
  induction moves generalizing timed with
  | nil => rfl
  | cons move rest ih => rw [after_cons, ih, count_failures_act, setbacks, List.foldl_append]

/-- Failures are counted from when they were last forgotten, as far as the counter goes. -/
theorem foldl_counted (setbacks : List Bool) :
    setbacks.foldl counted 0 = min (setbacks.rtakeWhile id).length 4294967295 := by
  induction setbacks using List.reverseRecOn with
  | nil => rfl
  | append_singleton setbacks again ih =>
    rw [List.foldl_append, ih, List.foldl_cons, List.foldl_nil, counted]
    cases again with
    | false => rw [List.rtakeWhile_concat_neg _ _ _ (by decide)]; rfl
    | true =>
      rw [List.rtakeWhile_concat_pos _ _ _ rfl, List.length_append, if_pos rfl, oneMore, List.length_singleton]
      omega

/-- In a queue that has been new, the counter of a key says how many failures there have been in a row. -/
theorem failures_eq_streak (new : start.queue.failures = []) (few : start.streak key moves < 2 ^ 32) :
    (start.after moves).queue.failures.count key = start.streak key moves := by
  have none : start.queue.failures.count key = 0 := by rw [new]; rfl
  rw [count_failures_after, none, foldl_counted]
  exact min_eq_left (Nat.le_of_lt_succ few)

/-- An item that is put in after a failure waits for as long as the counter of its key calls for. -/
theorem order?_of_setback? (again : timed.setback? move = some (item, true)) :
    timed.order? move = some (item, backoffDelay timed.queue.config (timed.queue.requeues item)) := by
  cases move with
  | addRateLimited other =>
    cases again
    rfl
  | requeue other =>
    obtain ⟨rfl, may⟩ := Prod.mk.inj (Option.some.inj again)
    exact if_pos may
  | forget other => exact absurd (Prod.mk.inj (Option.some.inj again)).2 Bool.false_ne_true
  | _ => cases again

/-! ## Timers -/

/-- In a row of moves, the item of a timer is taken in when it is due, and not before. It is with the timer to the end
    of the row and is not overdue, or the timer falls due at its time and the item comes last among those that are to be
    handed out. -/
def TakenWhenDue (timed : Timed α) (timer : Timer α) (moves : List (Move α)) : Prop :=
  (timer ∈ (timed.after moves).queue.timers ∧ (timed.after moves).now ≤ timer.due) ∨
  ∃ early late, moves = early ++ .fire timer.number :: late ∧
    timer ∈ (timed.after early).queue.timers ∧ (timed.after early).now = timer.due ∧
    ((timed.after early).act (.fire timer.number)).queue.items = (timed.after early).queue.items ++ [timer.item]

theorem TakenWhenDue.cons {timer : Timer α} (h : (timed.act move).TakenWhenDue timer moves) :
    timed.TakenWhenDue timer (move :: moves) := by
  obtain waits | ⟨early, late, rfl, fired⟩ := h
  · exact .inl waits
  · exact .inr ⟨move :: early, late, rfl, fired⟩

/-- Until the queue is closed, an item that is with a timer is taken in when the timer is due, if timers fall due on
    time. -/
theorem takenWhenDue_of_mem {timer : Timer α} (sound : timed.queue.Sound) (running : timed.queue.closed = false)
    (opened : .close ∉ moves) (punctual : timed.Punctual moves) (current : timed.now ≤ timer.due)
    (waits : timer ∈ timed.queue.timers) : timed.TakenWhenDue timer moves := by
  -- By induction on the row: until the timer falls due, every move leaves it there, and none goes past its time.
  induction moves generalizing timed with
  | nil => exact .inl ⟨waits, current⟩
  | cons move rest ih =>
    obtain ⟨other, opened⟩ := not_or.1 (List.mem_cons.not.1 opened)
    obtain ⟨onTime, punctual⟩ := punctual
    have change := act_change timed move
    cases fires : move.fires timer.number with
    | true =>
      obtain rfl := Move.eq_of_fires fires
      exact .inr ⟨[], rest, rfl, waits, (onTime timer waits rfl).symm, sound.items_fire running waits⟩
    | false =>
      have stays : timer ∈ (timed.act move).queue.timers := by
        rw [timers_act]
        exact List.mem_append_left _ (List.mem_filter.2 ⟨waits, by rw [fires]; rfl⟩)
      have inTime : (timed.act move).now ≤ timer.due := by
        cases move with
        | tick time => exact onTime timer waits
        | _ => exact current
      exact (ih (change.sound sound) ((change.closed (Ne.symm other)).trans running) opened punctual inTime stays).cons

/-- An item that need not wait is taken in at once, and no other. -/
theorem items_act_of_order? (running : timed.queue.closed = false) {delay : Nat}
    (order : timed.order? move = some (item, delay)) :
    (timed.act move).queue.items = timed.queue.items ++ if delay = 0 then [item] else [] := by
  have items := (act_change timed move).items
  have handout : timed.handout? move = none := by
    cases move with
    | take => cases order
    | _ => rfl
  rw [running, if_neg Bool.false_ne_true, handout, arrival?_of_order? order] at items
  refine items.symm.trans (congrArg (timed.queue.items ++ ·) ?_)
  split <;> rfl

/-- For any other item a timer is set. -/
theorem timers_act_of_order? {delay : Nat} (order : timed.order? move = some (item, delay)) :
    (timed.act move).queue.timers = timed.queue.timers ++
      if delay = 0 then [] else [⟨timed.queue.nextTimer, timed.now + waitFor delay, item⟩] := by
  have unfired (number : Nat) : move.fires number = false := by
    cases move with
    | fire => cases order
    | _ => rfl
  rw [timers_act, timerOf, order, List.filter_eq_self.2 fun timer _ => by rw [unfired]; rfl]

/-- No time passes when an item is put in. -/
theorem now_act_of_order? {delay : Nat} (order : timed.order? move = some (item, delay)) :
    (timed.act move).now = timed.now := by
  cases move with
  | tick => cases order
  | _ => rfl

end Timed

/-- The delay after a number of failures is the least delay, doubled as often, or the limit if that is less, however far
    the numbers on the way go beyond words. So it does not get shorter with more failures, and is not longer than the
    limit. An item that is put in after some failures in a row has to wait for just as long: it is taken in at once if
    there is no delay, and otherwise it is put with a timer, and taken in when the delay, or thirty years if it is
    longer, is over, so long as the queue is open and timers fall due on time. -/
theorem waits_for_backoff {α : Type} [Keyed α] {config : QueueConfig} (fits : config.maxDelayMs < 2 ^ 64) :
    (∀ failures, backoffDelay config failures = min (config.baseDelayMs * 2 ^ failures) config.maxDelayMs) ∧
    Monotone (backoffDelay config) ∧ (∀ failures, backoffDelay config failures ≤ config.maxDelayMs) ∧
    ∀ (start : Timed α) (name : String), start.queue = { name, config } →
      ∀ before, .close ∉ before → ∀ move item, (start.after before).setback? move = some (item, true) →
        let timed := start.after before
        let failures := start.streak (Keyed.key item) before
        let delay := min (config.baseDelayMs * 2 ^ failures) config.maxDelayMs
        let timer : Timer α := ⟨timed.queue.nextTimer, timed.now + waitFor delay, item⟩
        failures < 2 ^ 32 →
          (timed.act move).queue.items = timed.queue.items ++ (if delay = 0 then [item] else []) ∧
          (timed.act move).queue.timers = timed.queue.timers ++ (if delay = 0 then [] else [timer]) ∧
          (delay ≠ 0 → ∀ late, .close ∉ late → (timed.act move).Punctual late →
            (timed.act move).TakenWhenDue timer late) := by
  refine ⟨backoffDelay_eq fits, backoffDelay_mono fits, backoffDelay_le config, ?_⟩
  intro start name new before opened move item again timed failures delay timer few
  have running : timed.queue.closed = false := by rw [Timed.closed_after opened, new]
  have sound : timed.queue.Sound := by
    refine Timed.sound_after ?_ before
    rw [new]
    exact (Sound.new config).of_eq rfl rfl rfl
  have order : timed.order? move = some (item, delay) := by
    have same : timed.queue.config = config := by rw [Timed.config_after, new]
    have counted : timed.queue.requeues item = failures := Timed.failures_eq_streak (by rw [new]) few
    rw [Timed.order?_of_setback? again, same, counted, backoffDelay_eq fits]
  have timers := Timed.timers_act_of_order? order
  refine ⟨Timed.items_act_of_order? running order, timers, fun waits late lateOpened punctual => ?_⟩
  have change := Timed.act_change timed move
  have other : move ≠ .close := by
    rintro rfl
    cases again
  refine Timed.takenWhenDue_of_mem (change.sound sound) ((change.closed other).trans running) lateOpened punctual ?_ ?_
  · rw [Timed.now_act_of_order? order]
    exact Nat.le_add_right _ _
  · rw [timers, if_neg waits]
    exact List.mem_append_right _ (List.mem_singleton_self _)

/-- A queue with a limit that is soon reached. -/
def soonLimited : Timed Work.Item := { queue := { config := { baseDelayMs := 5, maxDelayMs := 12 } } }

/-- A row of moves in which an item is put in after a failure, is forgotten, and is put in after two more failures, with
    another item in between. -/
def twoInARow : List (Move Work.Item) :=
  [.addRateLimited (.flush (.named "a")), .forget (.flush (.named "a")), .addRateLimited (.flush (.named "a")),
    .addRateLimited (.flush (.named "b")), .addRateLimited (.flush (.named "a"))]

/-- After two failures in a row the delay would be four times the least one, but for the limit. -/
theorem waits_for_backoff_limit :
    let timed := soonLimited.after twoInARow
    soonLimited.streak "flush:a" twoInARow = 2 ∧
      (timed.act (.requeue (.flush (.named "a")))).TakenWhenDue ⟨4, 12, .flush (.named "a")⟩
        [.tick 5, .fire 0, .fire 1, .fire 2, .tick 5, .fire 3, .tick 2, .fire 4] := by
  intro timed
  have streak : soonLimited.streak "flush:a" twoInARow = 2 := by decide
  have again : timed.setback? (.requeue (.flush (.named "a"))) = some (.flush (.named "a"), true) := rfl
  have fits : soonLimited.queue.config.maxDelayMs < 2 ^ 64 := by decide
  have opened : .close ∉ twoInARow := by simp [twoInARow]
  obtain ⟨-, -, -, waits⟩ := waits_for_backoff (α := Work.Item) fits
  obtain ⟨-, -, taken⟩ := waits soonLimited "" rfl twoInARow opened _ _ again (by decide)
  exact ⟨streak, taken (by decide) _ (by simp) (by decide)⟩

/-- A queue whose items wait for more than thirty years after a failure. -/
def patient : Timed Work.Item :=
  { queue := { config := { baseDelayMs := longestWait + 1, maxDelayMs := longestWait + 1 } } }

/-- An item that has to wait for more than thirty years after a failure is taken in before its time. -/
theorem retried_early :
    let moves : List (Move Work.Item) := [.addRateLimited (.flush (.named "a")), .tick longestWait, .fire 0]
    let delay := min (patient.queue.config.baseDelayMs * 2 ^ patient.streak "flush:a" []) patient.queue.config.maxDelayMs
    patient.queue.config.maxDelayMs < 2 ^ 64 ∧ patient.Punctual moves ∧
      patient.accepted moves = [(.flush (.named "a"), longestWait)] ∧ longestWait < patient.now + delay :=
  ⟨by decide, by decide, rfl, by decide⟩

end Queue

end NodeImages
