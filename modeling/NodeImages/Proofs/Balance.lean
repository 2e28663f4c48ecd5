import NodeImages.Proofs.Exclusive
import NodeImages.Proofs.Fates

/-!
# The balance of an image cache

What was put into the work queue for an image cache is there still, or it has met with a fate, and of every fate
there is something to notice. So the work can be balanced for each image cache from the outside.

* `flush_never_overtakes`: when a flush starts a run, no work of its image cache is outstanding, and all that was
  put in has been recorded, discarded or dropped;
* `work_balances`: after each item, the work that was put in is recorded, discarded, dropped or still there, and
  the flushes that were put in have started runs or are still there; and there is one run at most at a time.
-/

namespace NodeImages.Work

open Cluster

/-- Whether an item is work on an image for an image cache. -/
def Item.isImageOf (cacheKey : String) : Item → Bool
  | image request => request.cacheKey == cacheKey
  | flush _ => false

/-- Whether an item is a flush of an image cache. -/
def Item.isFlushOf (cacheKey : String) : Item → Bool
  | image _ => false
  | flush cache => cache.key == cacheKey

/-- Every settled item has met with one of the fates. -/
theorem coe_map_fst_settled (settled : List (Item × Fate)) :
    (settled.map Prod.fst : Multiset Item) =
      settledAs .recorded settled + settledAs .discarded settled + settledAs .dropped settled +
        settledAs .started settled := by
  induction settled with
  | nil => rfl
  | cons pair rest ih =>
    obtain ⟨item, fate⟩ := pair
    rw [List.map_cons, ← Multiset.cons_coe, ih]
    cases fate <;> simp [settledAs, ← Multiset.cons_coe, Multiset.cons_add, Multiset.add_cons]

/-- What was put in has met with one of the fates or is held. -/
theorem added_eq_fates_add_held (settings : Settings) (work reports : QueueConfig) {moves : List Move}
    (opens : ∀ move ∈ moves, move.keepsOpen = true) :
    let settled := (Engine.new settings work reports).settled moves
    (moves.flatMap Move.added : Multiset Item) =
      settledAs .recorded settled + settledAs .discarded settled + settledAs .dropped settled +
        settledAs .started settled + ((Engine.new settings work reports).after moves).held := by
  rw [added_eq_settled_add_held settings work reports opens, coe_map_fst_settled]

section

variable {settings : Settings} {work reports : QueueConfig} {moves : List Move} {cacheKey : String}

/-- Only a flush starts a run, and all other fates are those of work on images. -/
theorem Settles.isFlush_iff {engine : Engine} {move : Move} {item : Item} {fate : Fate}
    (h : Settles engine move item fate) : (∃ cache, item = .flush cache) ↔ fate = .started := by
  cases h <;> simp

/-- The items of each fate are flushes if it is the fate of flushes, and otherwise none is. -/
theorem isFlush_iff_of_mem_settledAs (opens : ∀ move ∈ moves, move.keepsOpen = true) {item : Item}
    {fate : Fate} (h : item ∈ settledAs fate ((Engine.new settings work reports).settled moves)) :
    (∃ cache, item = .flush cache) ↔ fate = .started := by
  obtain ⟨⟨item, fate'⟩, hmem, rfl⟩ := List.mem_map.1 h
  obtain ⟨hsettled, hfate⟩ := List.mem_filter.1 hmem
  obtain ⟨_, _, _, _, h⟩ := settles_of_mem_settled opens hsettled
  rw [h.isFlush_iff, ← of_decide_eq_true hfate]

theorem not_isImageOf_of_started (opens : ∀ move ∈ moves, move.keepsOpen = true) {item : Item}
    (h : item ∈ settledAs .started ((Engine.new settings work reports).settled moves)) :
    item.isImageOf cacheKey = false := by
  obtain ⟨cache, rfl⟩ := (isFlush_iff_of_mem_settledAs opens h).2 rfl
  rfl

theorem not_isFlushOf_of_ne_started (opens : ∀ move ∈ moves, move.keepsOpen = true) {item : Item}
    {fate : Fate} (hfate : fate ≠ .started)
    (h : item ∈ settledAs fate ((Engine.new settings work reports).settled moves)) :
    item.isFlushOf cacheKey = false := by
  cases item with
  | image request => rfl
  | flush cache => exact absurd ((isFlush_iff_of_mem_settledAs opens h).1 ⟨cache, rfl⟩) hfate

/-! ## Flushes come last -/

/-- When a flush starts a run, no work on images is to be handed out, waits for a timer or is being worked on for
    its image cache. -/
theorem clear_of_started (opens : ∀ move ∈ moves, move.keepsOpen = true) {number : Nat}
    (started : .started number cacheKey ∈
      (((Engine.new settings work reports).after moves).act .take).2)
    {request : Request} (hkey : request.cacheKey = cacheKey) :
    let queue := ((Engine.new settings work reports).after moves).work
    .image request ∉ queue.items ∧ (∀ timer ∈ queue.timers, timer.item ≠ .image request) ∧
      queue.isProcessing (.image request) = false := by
  intro queue
  have hheld (hmem : .image request ∈ queue.held) : False :=
    ne_of_mem_held_of_started (tidy_after settings work reports opens) started
      (Multiset.mem_add.2 (.inl hmem)) hkey
  obtain ⟨-, -, -, cache, work', -, htake, hclear⟩ := started_of_take started
  refine ⟨fun h => hheld (Multiset.mem_add.2 (.inl h)), fun timer htimer h => hheld
    (Multiset.mem_add.2 (.inr (List.mem_map.2 ⟨timer, htimer, h⟩))), ?_⟩
  -- What was being worked on before the flush was taken still is, and so is outstanding.
  cases hitems : queue.items with
  | nil =>
    rw [Queue.take_of_nil hitems] at htake
    split at htake <;> cases htake
  | cons first rest =>
    rw [Queue.take_of_cons hitems] at htake
    obtain ⟨rfl, -⟩ := Prod.mk.inj htake
    rw [Queue.hasOutstanding, Bool.or_eq_false_iff, Bool.or_eq_false_iff] at hclear
    obtain ⟨⟨-, hprocessing⟩, -⟩ := hclear
    rw [Queue.isProcessing, ← Bool.not_eq_true, List.contains_iff_mem]
    intro hmem
    refine List.any_eq_false.1 hprocessing _ ?_ (hkey ▸ Item.isImageKey_key request)
    dsimp only
    split
    · exact hmem
    · exact .tail _ hmem

/-- When a flush starts a run, the work on images that was put in for its image cache has been recorded, discarded
    or dropped. -/
theorem images_perm_of_started (opens : ∀ move ∈ moves, move.keepsOpen = true) {number : Nat}
    (started : .started number cacheKey ∈
      (((Engine.new settings work reports).after moves).act .take).2) :
    let settled := (Engine.new settings work reports).settled moves
    ((moves.flatMap Move.added).filter (Item.isImageOf cacheKey)).Perm
      ((settledAs .recorded settled ++ settledAs .discarded settled ++
        settledAs .dropped settled).filter (Item.isImageOf cacheKey)) := by
  intro settled
  have hheld : ((Engine.new settings work reports).after moves).held.filter
      (Item.isImageOf cacheKey · = true) = 0 := by
    refine Multiset.filter_eq_nil.2 fun item hmem himage => ?_
    cases item with
    | flush => exact Bool.noConfusion himage
    | image request =>
      exact ne_of_mem_held_of_started (tidy_after settings work reports opens) started hmem
        (beq_iff_eq.1 himage)
  have hstarted : (settledAs .started settled : Multiset Item).filter
      (Item.isImageOf cacheKey · = true) = 0 := by
    refine Multiset.filter_eq_nil.2 fun item hmem => ?_
    rw [not_isImageOf_of_started opens hmem]
    exact Bool.false_ne_true
  have hadded := congrArg (Multiset.filter (Item.isImageOf cacheKey · = true))
    (added_eq_fates_add_held settings work reports opens)
  rw [Multiset.filter_add, Multiset.filter_add, hheld, hstarted, add_zero, add_zero,
    Multiset.coe_add, Multiset.coe_add, Multiset.filter_coe, Multiset.filter_coe] at hadded
  simpa only [Bool.decide_eq_true] using Multiset.coe_eq_coe.1 hadded

end

/-- Whenever a flush starts a run, the dispatcher is at work on nothing else, and work on images for its image
    cache neither waits in the queue nor for a timer nor is it worked on. So all of it that was put in before,
    each request as often as it was, has been recorded in the table, discarded as a status update, or dropped
    because its dispatch failed and it may not be tried again. -/
theorem flush_never_overtakes (settings : Settings) (work reports : QueueConfig) (moves : List Move)
    (number : Nat) (cacheKey : String) (opens : ∀ move ∈ moves, move.keepsOpen = true)
    (started : .started number cacheKey ∈
      (((Engine.new settings work reports).after moves).act .take).2) :
    let start := Engine.new settings work reports
    let engine := start.after moves
    let settled := start.settled moves
    (engine.inHand = none ∧ ∀ request : Request, request.cacheKey = cacheKey →
      .image request ∉ engine.work.items ∧ (∀ timer ∈ engine.work.timers, timer.item ≠ .image request) ∧
        engine.work.isProcessing (.image request) = false) ∧
    ((moves.flatMap Move.added).filter (Item.isImageOf cacheKey)).Perm
      ((settledAs .recorded settled ++ settledAs .discarded settled ++
        settledAs .dropped settled).filter (Item.isImageOf cacheKey)) ∧
    (settledAs .recorded settled).Sublist
      ((recordings (start.notes moves)).map fun entry => .image entry.2.request) ∧
    ∀ item fate, (item, fate) ∈ settled →
      Occurs moves fun early move => Settles (start.after early) move item fate := by
  intro start engine settled
  obtain ⟨-, free, -⟩ := started_of_take started
  exact ⟨⟨free, fun request hkey => clear_of_started opens started hkey⟩,
    images_perm_of_started opens started, settledAs_recorded_sublist opens,
    fun item fate h => settles_of_mem_settled opens h⟩

/-- The flush starts a run when the work before it has been dropped and recorded. -/
theorem flush_never_overtakes_removals :
    let early := removals (.error .missing)
    ((early.flatMap Move.added).filter (Item.isImageOf "w")).length = 2 ∧
    .started 0 "w" ∈ ((Engine.strict.after early).act .take).2 ∧
    ((early.flatMap Move.added).filter (Item.isImageOf "w")).Perm
      ((settledAs .recorded (Engine.strict.settled early) ++
        settledAs .discarded (Engine.strict.settled early) ++
          settledAs .dropped (Engine.strict.settled early)).filter (Item.isImageOf "w")) := by
  intro early
  have started : .started 0 "w" ∈ ((Engine.strict.after early).act .take).2 := List.mem_singleton_self _
  exact ⟨by decide +kernel, started,
    (flush_never_overtakes _ _ _ early 0 "w" (by decide) started).2.1⟩

/-! ## Balances -/

section

variable {settings : Settings} {work reports : QueueConfig} {moves : List Move}

/-- When the dispatcher is at work on nothing, the items that were put in have met with one of the fates or wait
    in the queue, whatever sort of items is counted. -/
theorem countP_added (opens : ∀ move ∈ moves, move.keepsOpen = true)
    (idle : ((Engine.new settings work reports).after moves).inHand = none) (p : Item → Bool) :
    let settled := (Engine.new settings work reports).settled moves
    (moves.flatMap Move.added).countP p =
      (settledAs .recorded settled).countP p + (settledAs .discarded settled).countP p +
        (settledAs .dropped settled).countP p + (settledAs .started settled).countP p +
        ((Engine.new settings work reports).after moves).work.held.countP (p · = true) := by
  have hheld : ((Engine.new settings work reports).after moves).held =
      ((Engine.new settings work reports).after moves).work.held := by
    rw [Engine.held, idle]
    exact add_zero _
  have hadded := congrArg (Multiset.countP (p · = true))
    (added_eq_fates_add_held settings work reports opens)
  simpa only [hheld, Multiset.countP_add, Multiset.coe_countP, Bool.decide_eq_true] using hadded

theorem countP_isImageOf_recorded (queued : ∀ move ∈ moves, move.isQueued = true) (cacheKey : String) :
    (settledAs .recorded ((Engine.new settings work reports).settled moves)).countP
        (Item.isImageOf cacheKey) =
      (entriesOf cacheKey (recordings ((Engine.new settings work reports).notes moves))).length := by
  rw [← (books_after queued).recorded, List.countP_map, entriesOf, ← List.countP_eq_length_filter]
  rfl

theorem countP_isFlushOf_started (queued : ∀ move ∈ moves, move.isQueued = true) (cacheKey : String) :
    (settledAs .started ((Engine.new settings work reports).settled moves)).countP
        (Item.isFlushOf cacheKey) =
      (starts ((Engine.new settings work reports).notes moves)).count cacheKey := by
  have opens : ∀ move ∈ moves, move.keepsOpen = true := fun move h =>
    Move.keepsOpen_of_isQueued (queued move h)
  rw [(books_after queued).started, List.count, List.countP_map]
  -- Only flushes have started runs, and of a flush the cache is what is counted.
  refine List.countP_congr fun item h => ?_
  obtain ⟨cache, rfl⟩ := (isFlush_iff_of_mem_settledAs opens h).2 rfl
  rfl

/-- A start is refused exactly while a run of the image cache is under way. -/
theorem Engine.Exclusive.start_refused_iff {engine : Engine} (exclusive : engine.Exclusive)
    (cacheKey : String) :
    engine.act (.start cacheKey) = (engine, []) ↔ ∃ run ∈ engine.runs, run.cacheKey = cacheKey := by
  rw [← exclusive.barred, ← List.contains_iff_mem, Engine.act, Engine.startRun, Engine.isBarred]
  split
  · rename_i hbarred
    exact iff_of_true rfl hbarred
  · rename_i hfree
    exact ⟨fun heq => (by cases (Prod.mk.inj heq).2), fun hbarred => absurd hbarred hfree⟩

end

/-- So long as all work goes through the queue, each image cache balances whenever the dispatcher is done with an
    item. The work on images that was put in has been recorded, discarded or dropped, or waits in the queue; the
    flushes that were put in have started as many runs or wait in the queue. One run is under way at most, and
    just while it is, another start is refused. -/
theorem work_balances (settings : Settings) (work reports : QueueConfig) (moves : List Move)
    (cacheKey : String) (queued : ∀ move ∈ moves, move.isQueued = true)
    (idle : ((Engine.new settings work reports).after moves).inHand = none) :
    let start := Engine.new settings work reports
    let engine := start.after moves
    let settled := start.settled moves
    ((moves.flatMap Move.added).countP (Item.isImageOf cacheKey) =
      (entriesOf cacheKey (recordings (start.notes moves))).length +
        (settledAs .discarded settled).countP (Item.isImageOf cacheKey) +
        (settledAs .dropped settled).countP (Item.isImageOf cacheKey) +
        engine.work.held.countP (Item.isImageOf cacheKey · = true)) ∧
    ((moves.flatMap Move.added).countP (Item.isFlushOf cacheKey) =
      (starts (start.notes moves)).count cacheKey +
        engine.work.held.countP (Item.isFlushOf cacheKey · = true)) ∧
    (engine.runs.map ActiveRun.cacheKey).count cacheKey ≤ 1 ∧
    (engine.act (.start cacheKey) = (engine, []) ↔ ∃ run ∈ engine.runs, run.cacheKey = cacheKey) ∧
    ∀ item fate, (item, fate) ∈ settled →
      Occurs moves fun early move => Settles (start.after early) move item fate := by
  intro start engine settled
  have opens : ∀ move ∈ moves, move.keepsOpen = true := fun move h =>
    Move.keepsOpen_of_isQueued (queued move h)
  have exclusive : engine.Exclusive := exclusive_after
    (fun move h => Move.isInner_of_isQueued (queued move h))
    fun move h => Move.isGuarded_of_isQueued (queued move h)
  -- Flushes have one fate, and work on images has the others, so each sum falls apart.
  have noFlush {fate : Fate} (hfate : fate ≠ .started) :
      (settledAs fate settled).countP (Item.isFlushOf cacheKey) = 0 :=
    List.countP_eq_zero.2 fun item h => by
      rw [not_isFlushOf_of_ne_started opens hfate h]
      exact Bool.false_ne_true
  have noImage : (settledAs .started settled).countP (Item.isImageOf cacheKey) = 0 :=
    List.countP_eq_zero.2 fun item h => by
      rw [not_isImageOf_of_started opens h]
      exact Bool.false_ne_true
  refine ⟨?_, ?_, List.nodup_iff_count_le_one.1 exclusive.apart _, exclusive.start_refused_iff cacheKey,
    fun item fate h => settles_of_mem_settled opens h⟩
  · rw [countP_added opens idle, countP_isImageOf_recorded queued, noImage, add_zero]
  · rw [countP_added opens idle, countP_isFlushOf_started queued, noFlush (by decide),
      noFlush (by decide), noFlush (by decide), zero_add, zero_add, zero_add]

/-- One request has been dropped and one recorded, and the flush has started a run. -/
theorem work_balances_removals :
    let moves := removals (.error .missing) ++ [.take]
    (moves.flatMap Move.added).countP (Item.isImageOf "w") = 2 ∧
    ((Engine.strict.after moves).runs.map ActiveRun.cacheKey).count "w" = 1 ∧
    ((moves.flatMap Move.added).countP (Item.isImageOf "w") =
      (entriesOf "w" (recordings (Engine.strict.notes moves))).length +
        (settledAs .discarded (Engine.strict.settled moves)).countP (Item.isImageOf "w") +
        (settledAs .dropped (Engine.strict.settled moves)).countP (Item.isImageOf "w") +
        (Engine.strict.after moves).work.held.countP (Item.isImageOf "w" · = true)) ∧
    (Engine.strict.after moves).act (.start "w") = (Engine.strict.after moves, []) := by
  intro moves
  obtain ⟨himages, -, -, hrefused, -⟩ :=
    work_balances { deadlineMs := 0 } { maxRetries := 0 } {} moves "w" (by decide) rfl
  have hrun : ((Engine.strict.after moves).runs.map ActiveRun.cacheKey).count "w" = 1 := by
    decide +kernel
  refine ⟨by decide +kernel, hrun, himages, hrefused.2 ?_⟩
  exact List.mem_map.1 (List.count_pos_iff.1 (hrun ▸ Nat.one_pos))

end NodeImages.Work
