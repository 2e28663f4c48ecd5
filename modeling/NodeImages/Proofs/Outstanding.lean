import NodeImages.Proofs.Delivery

/-!
# What is outstanding in a queue

A queue can be asked at any time whether items of certain keys are outstanding (`Queue.hasOutstanding`). It
answers from the items that it holds, from a counter for each key that says how many items of the key wait for a
timer, and from the keys that are being worked on. Here the counters and the keys are compared with what has
happened to the queue, in whatever order: the timers that have been set and have not fallen due since
(`Timed.waiting`), and the keys of which an item was handed out later than the work on one was last said to be over
(`Timed.InWork`).

* `timers_after`: the timers of a queue are those that are still waited for;
* `Counts.Positive`: a counter is dropped when it falls to zero, and so is never counted down from there;
* `mem_processing_after`: the keys that are being worked on;
* `outstanding_told`: what the queue answers is so.
-/

namespace NodeImages

namespace Queue

/-! ## Counters that are there count something -/

namespace Counts

variable {counts : Counts} {key k : String}

/-- No counter stands at zero. -/
def Positive (counts : Counts) : Prop := ∀ key, counts.lookup key ≠ some 0

theorem Positive.nil : Positive [] := fun _ => (Option.some_ne_none _).symm

/-- Counters stay positive when one is set that is not zero. -/
theorem Positive.put (positive : counts.Positive) (key : String) {n : Nat} (h : n ≠ 0) :
    Positive (put key n counts) := fun k => by
  rw [lookup_put]
  split
  · simpa using h
  · exact positive k

theorem Positive.drop (positive : counts.Positive) (key : String) : (counts.drop key).Positive := fun k => by
  rw [lookup_drop]
  split
  · exact (Option.some_ne_none _).symm
  · exact positive k

/-- They stay so when one goes down, as it is dropped when it falls to zero. -/
theorem Positive.decrement (positive : counts.Positive) (key : String) :
    (counts.decrement key).Positive := by
  rw [Counts.decrement]
  split
  · exact positive
  · split
    · exact positive.drop key
    · rename_i h
      exact positive.put key (by omega)

/-- A key that counts nothing has no counter. -/
theorem Positive.lookup_eq (positive : counts.Positive) (key : String) :
    counts.lookup key = if counts.count key = 0 then none else some (counts.count key) := by
  rw [count]
  cases h : counts.lookup key with
  | none => rfl
  | some n =>
    have hn : n ≠ 0 := fun hn => positive key (hn ▸ h)
    simp [hn]

/-- The keys are those that are counted. -/
theorem Positive.mem_keys_iff (positive : counts.Positive) :
    key ∈ counts.keys ↔ 0 < counts.count key := by
  refine ⟨fun h => Nat.pos_of_ne_zero fun hzero => ?_, mem_keys_of_count_pos⟩
  have hnone := positive.lookup_eq key
  rw [if_pos hzero, List.lookup_eq_none_iff] at hnone
  obtain ⟨entry, hentry, rfl⟩ := List.mem_map.1 h
  simpa using hnone entry hentry

end Counts

/-! ## Parts of a queue -/

section

variable {α : Type} [Keyed α]

omit [Keyed α] in
/-- The timer of a number is found among timers that have numbers of their own. -/
theorem find?_of_mem {timers : List (Timer α)} (nodup : (timers.map Timer.number).Nodup) {timer : Timer α}
    (h : timer ∈ timers) : timers.find? (·.number == timer.number) = some timer := by
  obtain ⟨found, hfound⟩ := Option.isSome_iff_exists.1
    (List.find?_isSome (p := (·.number == timer.number)).2 ⟨timer, h, beq_self_eq_true _⟩)
  have hnumber : found.number = timer.number := by simpa using List.find?_some hfound
  rw [hfound, List.inj_on_of_nodup_map nodup (List.mem_of_find?_eq_some hfound) h hnumber]

omit [Keyed α] in
@[simp] theorem delayed_accept (queue : Queue α) (item : α) :
    (queue.accept item).delayed = queue.delayed := by
  rw [accept]
  split <;> rfl

/-- When a timer falls due, its key is counted once less. -/
theorem delayed_fire {queue : Queue α} {number : Nat} {timer : Timer α}
    (h : queue.timers.find? (·.number == number) = some timer) :
    (queue.fire number).delayed = queue.delayed.decrement (Keyed.key timer.item) := by
  rw [Queue.fire, h]
  exact delayed_accept _ _

/-- When the timer of an item falls due and the queue is open, the item comes last among those that are to be handed
    out. -/
theorem Sound.items_fire {queue : Queue α} (sound : queue.Sound) (opened : queue.closed = false) {timer : Timer α}
    (waits : timer ∈ queue.timers) : (queue.fire timer.number).items = queue.items ++ [timer.item] := by
  rw [Queue.fire, find?_of_mem sound.nodup waits]
  exact (items_accept _ _).trans (by rw [opened]; rfl)

/-- A queue that is configured like another one, and knows of the same work and the same failures. -/
structure Frame (queue queue' : Queue α) : Prop where
  config : queue'.config = queue.config := by rfl
  processing : queue'.processing = queue.processing := by rfl
  failures : queue'.failures = queue.failures := by rfl

omit [Keyed α] in
/-- To take an item in touches nothing but the items. -/
theorem frame_accept (queue : Queue α) (item : α) : queue.Frame (queue.accept item) := by
  rw [accept]
  split <;> exact {}

/-- To put an item in touches items and timers only. -/
theorem frame_addAfter (queue : Queue α) (now : Nat) (item : α) (delay : Nat) :
    queue.Frame (queue.addAfter now item delay) := by
  rw [Queue.addAfter]
  split
  · exact frame_accept _ _
  · exact {}

/-- So does a timer that falls due. -/
theorem frame_fire (queue : Queue α) (number : Nat) : queue.Frame (queue.fire number) := by
  rw [Queue.fire]
  split
  · exact {}
  · obtain ⟨config, processing, failures⟩ := frame_accept _ _
    exact ⟨config, processing, failures⟩

end

/-- Whether the timer of a number falls due in a move. -/
def Move.fires {α : Type} (number : Nat) : Move α → Bool
  | .fire n => n == number
  | _ => false

theorem Move.eq_of_fires {α : Type} {number : Nat} {move : Move α} (fires : move.fires number = true) :
    move = .fire number := by
  cases move with
  | fire n => exact congrArg _ (eq_of_beq fires)
  | _ => exact absurd fires Bool.false_ne_true

namespace Timed

variable {α : Type} [Keyed α] {timed : Timed α} {move : Move α} {moves : List (Move α)} {key : String}

/-- The timers are kept as they should be in every row of moves. -/
theorem sound_after (sound : timed.queue.Sound) (moves : List (Move α)) :
    (timed.after moves).queue.Sound := by
  induction moves generalizing timed with
  | nil => exact sound
  | cons move rest ih => exact ih ((act_change timed move).sound sound)

/-! ## Timers -/

/-- The timer that a move sets: that of an item which is put in with a delay. -/
def timerOf (timed : Timed α) (move : Move α) : List (Timer α) :=
  match timed.order? move with
  | none => []
  | some (item, delay) =>
    if delay = 0 then [] else [⟨timed.queue.nextTimer, timed.now + waitFor delay, item⟩]

/-- The timers that are set in a row of moves and do not fall due later in the row. -/
def waiting (timed : Timed α) : List (Move α) → List (Timer α)
  | [] => []
  | move :: rest =>
    (timed.timerOf move).filter (fun timer => !rest.any (·.fires timer.number)) ++
      (timed.act move).waiting rest

/-- A move lets the timers go that fall due, and sets its own. -/
theorem timers_act (timed : Timed α) (move : Move α) :
    (timed.act move).queue.timers =
      timed.queue.timers.filter (fun timer => !move.fires timer.number) ++ timed.timerOf move := by
  have unfired (other : ∀ number, move.fires number = false) :
      timed.queue.timers.filter (fun timer => !move.fires timer.number) = timed.queue.timers :=
    List.filter_eq_self.2 fun timer _ => by rw [other]; rfl
  cases move with
  | fire number =>
    have none : timed.timerOf (.fire number) = [] := rfl
    rw [act, timers_fire, none, List.append_nil]
    refine List.filter_congr fun timer _ => ?_
    rw [Move.fires, bne, Bool.beq_comm]
  | add item =>
    rw [unfired fun _ => rfl]
    simp [act, add, timerOf, order?]
  | addAfter item delay =>
    rw [unfired fun _ => rfl]
    exact timers_addAfter _ _ _ _
  | addRateLimited item =>
    rw [unfired fun _ => rfl]
    exact timers_addAfter _ _ _ _
  | requeue item =>
    rw [unfired fun _ => rfl, act, Queue.requeue, timerOf, order?]
    by_cases h : timed.queue.mayRetry item = true
    · rw [if_pos h, if_pos h]
      exact timers_addAfter _ _ _ _
    · rw [if_neg h, if_neg h]
      exact (List.append_nil _).symm
  | take =>
    rw [unfired fun _ => rfl, act]
    cases hitems : timed.queue.items with
    | nil => rw [take_of_nil hitems]; exact (List.append_nil _).symm
    | cons => rw [take_of_cons hitems]; exact (List.append_nil _).symm
  | done | forget | close | tick =>
    rw [unfired fun _ => rfl]
    exact (List.append_nil _).symm

/-- The timers of a queue are those that were set and have not fallen due since. -/
theorem timers_after (timed : Timed α) (moves : List (Move α)) :
    (timed.after moves).queue.timers =
      timed.queue.timers.filter (fun timer => !moves.any (·.fires timer.number)) ++
        timed.waiting moves := by
  induction moves generalizing timed with
  | nil => simp [waiting]
  | cons move rest ih =>
    rw [after_cons, ih, timers_act, List.filter_append, List.filter_filter, waiting, List.append_assoc]
    congr 2
    funext timer
    simp [Bool.and_comm]

/-! ## Counters of delays -/

/-- No move leaves a counter at zero. -/
theorem Change.positive {timed' : Timed α} (change : Change timed move timed')
    (positive : timed.queue.delayed.Positive) : timed'.queue.delayed.Positive := by
  cases change with
  | order item delay failures =>
    rw [Queue.addAfter]
    split
    · rw [add, delayed_accept]
      exact positive
    · exact positive.put _ (Nat.succ_ne_zero _)
  | fire number =>
    rw [Queue.fire]
    split
    · exact positive
    · rw [delayed_accept]
      exact positive.decrement _
  | take | close | tick | rest => exact positive

theorem positive_after (positive : timed.queue.delayed.Positive) (moves : List (Move α)) :
    (timed.after moves).queue.delayed.Positive := by
  induction moves generalizing timed with
  | nil => exact positive
  | cons move rest ih => exact ih ((act_change timed move).positive positive)

/-! ## Work in hand -/

/-- The key that a move is about, if an item is handed out in it (`true`) or the work on one is said to be over
    (`false`). -/
def touch? (timed : Timed α) (move : Move α) : Option (String × Bool) :=
  match move with
  | .take => (timed.handout? .take).map fun item => (Keyed.key item, true)
  | .done item => some (Keyed.key item, false)
  | _ => none

/-- The keys of items that are handed out and of work that is said to be over, in that order. -/
def touches (timed : Timed α) : List (Move α) → List (String × Bool)
  | [] => []
  | move :: rest => (timed.touch? move).toList ++ (timed.act move).touches rest

/-- The last that happened to a key was that an item of it was handed out. -/
def InWork (timed : Timed α) (moves : List (Move α)) (key : String) : Prop :=
  ((timed.touches moves).filter (·.1 = key)).getLast? = some (key, true)

instance (timed : Timed α) (moves : List (Move α)) (key : String) : Decidable (timed.InWork moves key) :=
  inferInstanceAs (Decidable (_ = _))

/-- In one move, a key comes to be worked on when an item of it is handed out, and ceases to be when one is done. -/
theorem mem_processing_act (timed : Timed α) (move : Move α) (key : String) :
    key ∈ (timed.act move).queue.processing ↔
      match (timed.touch? move).filter (·.1 = key) with
      | some (_, begun) => begun = true
      | none => key ∈ timed.queue.processing := by
  have untouched (h : (timed.act move).queue.processing = timed.queue.processing) :
      key ∈ (timed.act move).queue.processing ↔ key ∈ timed.queue.processing := by rw [h]
  cases move with
  | done item =>
    rw [act, Queue.done, List.mem_filter, touch?]
    by_cases h : Keyed.key item = key
    · simp [h, Option.filter]
    · simp [h, Ne.symm h, Option.filter]
  | take =>
    rw [act, touch?, handout?]
    cases hitems : timed.queue.items with
    | nil =>
      rw [take_of_nil hitems]
      cases timed.queue.closed <;> rfl
    | cons item rest =>
      rw [take_of_cons hitems]
      by_cases h : Keyed.key item = key
      · by_cases hmem : key ∈ timed.queue.processing <;> simp [h, hmem, Option.filter]
      · by_cases hmem : Keyed.key item ∈ timed.queue.processing <;>
          simp [h, Ne.symm h, hmem, Option.filter]
  | requeue item =>
    refine untouched ?_
    rw [act, Queue.requeue]
    split
    · exact (frame_addAfter _ _ _ _).processing
    · rfl
  | add item =>
    refine untouched ?_
    rw [act, Queue.add, accept]
    split <;> rfl
  | addAfter item | addRateLimited item => exact untouched (frame_addAfter _ _ _ _).processing
  | fire number => exact untouched (frame_fire _ _).processing
  | forget | close | tick => exact untouched rfl

/-- The keys that are being worked on are those of which the last that happened was a handout, or that were worked
    on before and have not been touched since. -/
theorem mem_processing_after (timed : Timed α) (moves : List (Move α)) (key : String) :
    key ∈ (timed.after moves).queue.processing ↔
      match ((timed.touches moves).filter (·.1 = key)).getLast? with
      | some (_, begun) => begun = true
      | none => key ∈ timed.queue.processing := by
  induction moves generalizing timed with
  | nil => rfl
  | cons move rest ih =>
    have first : ((timed.touch? move).toList.filter (·.1 = key)).getLast? =
        (timed.touch? move).filter (·.1 = key) := by
      cases timed.touch? move with
      | none => rfl
      | some touch => by_cases h : touch.1 = key <;> simp [h, Option.filter]
    rw [after_cons, ih, touches, List.filter_append, List.getLast?_append, first]
    cases (((timed.act move).touches rest).filter (·.1 = key)).getLast? with
    | none => exact mem_processing_act timed move key
    | some touch => rfl

/-- A key is being worked on if an item of it was handed out last, and has not been done since. -/
theorem mem_processing_iff (new : timed.queue.processing = []) (moves : List (Move α)) (key : String) :
    key ∈ (timed.after moves).queue.processing ↔ timed.InWork moves key := by
  rw [mem_processing_after, new, InWork]
  cases h : ((timed.touches moves).filter (·.1 = key)).getLast? with
  | none => simp
  | some touch =>
    obtain ⟨other, begun⟩ := touch
    have hmem := List.mem_of_getLast? h
    have hkey : other = key := by simpa using (List.mem_filter.1 hmem).2
    simp [hkey]

end Timed

/-- A queue that is asked what is outstanding tells the truth, whatever has happened to it. For every key it counts
    the items that were put in with a delay and have not fallen due, has no counter for a key without such items,
    and finds a counter to count down for every item that falls due. It takes those keys to be worked on of which the
    last that happened was that an item was handed out. So work of certain keys is outstanding exactly if an item of
    them is to be handed out, waits out its delay, or was handed out and is not done. -/
theorem outstanding_told {α : Type} [Keyed α] {start : Timed α} {name : String} {config : QueueConfig}
    (new : start.queue = { name, config }) (moves : List (Move α)) :
    let queue := (start.after moves).queue
    let waiting := start.waiting moves
    (∀ key, queue.delayed.lookup key =
      if ∃ timer ∈ waiting, Keyed.key timer.item = key then
        some (waiting.countP fun timer => Keyed.key timer.item = key)
      else none) ∧
    (∀ timer ∈ waiting, (queue.fire timer.number).delayed.count (Keyed.key timer.item) + 1 =
      queue.delayed.count (Keyed.key timer.item)) ∧
    (∀ key, key ∈ queue.processing ↔ start.InWork moves key) ∧
    ∀ property, queue.hasOutstanding property = true ↔
      (∃ item ∈ queue.items, property (Keyed.key item) = true) ∨
        (∃ timer ∈ waiting, property (Keyed.key timer.item) = true) ∨
        ∃ key, start.InWork moves key ∧ property key = true := by
  intro queue waiting
  have sound : queue.Sound := by
    refine Timed.sound_after ?_ moves
    rw [new]
    exact (Sound.new config).of_eq rfl rfl rfl
  have positive : queue.delayed.Positive := by
    refine Timed.positive_after ?_ moves
    rw [new]
    exact .nil
  have timers : queue.timers = waiting := by
    have h := start.timers_after moves
    rwa [new, List.filter_nil, List.nil_append] at h
  have counted (key : String) :
      queue.delayed.count key = waiting.countP fun timer => Keyed.key timer.item = key :=
    timers ▸ sound.delayed key
  have counted_pos {key : String} :
      0 < queue.delayed.count key ↔ ∃ timer ∈ waiting, Keyed.key timer.item = key := by
    rw [counted, List.countP_pos_iff]
    simp
  have worked (key : String) : key ∈ queue.processing ↔ start.InWork moves key :=
    Timed.mem_processing_iff (by rw [new]) moves key
  refine ⟨fun key => ?_, fun timer htimer => ?_, worked, fun property => ?_⟩
  · rw [positive.lookup_eq, ← counted]
    by_cases h : queue.delayed.count key = 0
    · rw [if_pos h, if_neg fun hex => absurd h (counted_pos.2 hex).ne']
    · rw [if_neg h, if_pos (counted_pos.1 (Nat.pos_of_ne_zero h))]
  · have hfind := find?_of_mem sound.nodup (timers ▸ htimer)
    have hpos := counted_pos.2 ⟨timer, htimer, rfl⟩
    rw [delayed_fire hfind, Counts.count_decrement, if_pos rfl]
    omega
  · rw [hasOutstanding, Bool.or_eq_true, Bool.or_eq_true, List.any_eq_true, List.any_eq_true,
      List.any_eq_true, or_assoc, or_comm (a := ∃ key ∈ queue.processing, _)]
    refine or_congr_right (or_congr ?_ ?_)
    · constructor
      · rintro ⟨key, hkey, hproperty⟩
        obtain ⟨timer, htimer, rfl⟩ := counted_pos.1 (positive.mem_keys_iff.1 hkey)
        exact ⟨timer, htimer, hproperty⟩
      · rintro ⟨timer, htimer, hproperty⟩
        exact ⟨_, positive.mem_keys_iff.2 (counted_pos.2 ⟨timer, htimer, rfl⟩), hproperty⟩
    · simp only [worked]

/-- A row of moves in which two items of one key are put in with delays, of which one has fallen due by the time that
    the queue is closed. -/
def halfDue : List (Move Work.Item) :=
  [.addAfter (.flush (.named "a")) 5, .addAfter (.flush (.named "a")) 7, .add (.flush (.named "b")), .take,
    .tick 5, .fire 0, .close]

/-- Of two timers of one key one is still counted, until it falls due in its turn; and the item that was handed out
    is outstanding. -/
theorem outstanding_told_closing :
    let start : Timed Work.Item := {}
    let queue := (start.after halfDue).queue
    queue.delayed.lookup "flush:a" = some 1 ∧ (queue.fire 1).delayed.count "flush:a" + 1 = 1 ∧
      "flush:b" ∈ queue.processing ∧ queue.hasOutstanding (· == "flush:b") = true := by
  intro start queue
  obtain ⟨counted, due, worked, told⟩ := outstanding_told (show start.queue = {} from rfl) halfDue
  have left : start.waiting halfDue = [⟨1, 7, .flush (.named "a")⟩] := rfl
  have inWork : start.InWork halfDue "flush:b" := by decide
  have one : queue.delayed.lookup "flush:a" = some 1 := (counted "flush:a").trans (by decide)
  refine ⟨one, ?_, (worked _).2 inWork, (told _).2 (.inr (.inr ⟨_, inWork, beq_self_eq_true _⟩))⟩
  have hkey : Keyed.key (.flush (.named "a") : Work.Item) = "flush:a" := by decide
  have h := due ⟨1, 7, .flush (.named "a")⟩ (left ▸ List.mem_singleton_self _)
  rw [hkey] at h
  exact h.trans (by rw [Counts.count, one]; rfl)

end Queue

end NodeImages
