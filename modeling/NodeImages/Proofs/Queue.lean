import Mathlib.Algebra.Order.Group.Multiset
import Mathlib.Data.List.Nodup
import NodeImages.Proofs.Dictionary
import NodeImages.Queue

/-!
# What a queue holds

An item that was put into a queue is in one of two places until it is handed out: among the items to be handed
out, or with a timer. Items may be equal to one another, so what a queue holds is a multiset (`Queue.held`).

* `held_addAfter`, `held_requeue`, `held_fire`, `held_take`: how the ways in and out change it, so long as the
  queue is not closed;
* `Queue.Sound`: timers have numbers of their own, and the counters of delays are those of the timers. It is
  what makes `fire` move exactly one item, and what lets `hasOutstanding` speak for the timers.
-/

namespace NodeImages

namespace Queue

/-! ## Counters -/

namespace Counts

variable {counts : Counts} {key k : String}

/-- The counter that is set has its new value, and the others keep theirs. -/
theorem lookup_put (key : String) (n : Nat) (counts : Counts) (k : String) :
    (put key n counts).lookup k = if k = key then some n else counts.lookup k := by
  induction counts with
  | nil => rw [put, Dictionary.lookup_cons]
  | cons entry rest ih =>
    obtain ⟨other, m⟩ := entry
    rw [put]
    by_cases h : other = key
    · subst h
      rw [if_pos rfl, Dictionary.lookup_cons, Dictionary.lookup_cons]
      by_cases hk : k = other <;> simp [hk]
    · rw [if_neg h, Dictionary.lookup_cons, ih, Dictionary.lookup_cons]
      by_cases hk : k = other
      · subst hk
        simp [h]
      · simp [hk]

/-- A counter that is dropped is gone, and the others are left. -/
theorem lookup_drop (counts : Counts) (key k : String) :
    (counts.drop key).lookup k = if k = key then none else counts.lookup k := by
  rw [drop, Dictionary.lookup_filter (· ≠ key)]
  by_cases h : k = key <;> simp [h]

/-- The counter of the key goes up by one, and no other changes. -/
theorem count_increment (counts : Counts) (key k : String) :
    (counts.increment key).count k = counts.count k + if k = key then 1 else 0 := by
  rw [increment, count, lookup_put]
  by_cases h : k = key <;> simp [h, count]

/-- The counter of the key goes down by one, unless it is zero, and no other changes. -/
theorem count_decrement (counts : Counts) (key k : String) :
    (counts.decrement key).count k = counts.count k - if k = key then 1 else 0 := by
  rw [decrement]
  split
  · rename_i hnone
    by_cases h : k = key <;> simp [h, count, hnone]
  · rename_i n hsome
    split
    · rename_i hle
      rw [count, lookup_drop]
      by_cases h : k = key
      · simp only [h, if_true, Option.getD_none, count, hsome, Option.getD_some]
        omega
      · simp [h, count]
    · rw [count, lookup_put]
      by_cases h : k = key <;> simp [h, count, hsome]

/-- A key that is counted has a counter. -/
theorem mem_keys_of_count_pos (h : 0 < counts.count k) : k ∈ counts.keys := by
  by_contra hnot
  have hnone : counts.lookup k = none :=
    List.lookup_eq_none_iff.2 fun entry hentry => by
      simpa using fun heq => hnot (List.mem_map.2 ⟨entry, hentry, heq.symm⟩)
  simp [count, hnone] at h

end Counts

variable {α : Type} [Keyed α] {queue : Queue α} {item : α} {rest : List α}

/-! ## Items -/

/-- The items that are to be handed out, now or later. -/
def held (queue : Queue α) : Multiset α := queue.items + (queue.timers.map Timer.item : List α)

/-- A queue hands out its first item, and notes that it is being worked on. -/
theorem take_of_cons (h : queue.items = item :: rest) :
    queue.take =
      ({ queue with
          items := rest
          processing :=
            if Keyed.key item ∈ queue.processing then queue.processing
            else Keyed.key item :: queue.processing },
        .item item) := by
  rw [take, h]

/-- A queue without items hands out nothing, and stays as it is. -/
theorem take_of_nil (h : queue.items = []) :
    queue.take = (queue, if queue.closed then .closed else .nothing) := by
  rw [take, h]

/-- What is handed out was in front. -/
theorem take_eq_item {queue' : Queue α} (h : queue.take = (queue', .item item)) :
    ∃ rest processing, queue.items = item :: rest ∧
      queue' = { queue with items := rest, processing } := by
  cases hitems : queue.items with
  | nil =>
    rw [take_of_nil hitems] at h
    obtain ⟨-, h⟩ := Prod.mk.inj h
    split at h <;> cases h
  | cons first rest =>
    rw [take_of_cons hitems] at h
    obtain ⟨rfl, h⟩ := Prod.mk.inj h
    cases h
    exact ⟨rest, _, rfl, rfl⟩

/-- An item that is handed out is no longer held; all others are. -/
theorem held_take {queue' : Queue α} (h : queue.take = (queue', .item item)) :
    queue.held = item ::ₘ queue'.held := by
  obtain ⟨rest, processing, hitems, rfl⟩ := take_eq_item h
  rw [held, held, hitems, ← Multiset.cons_coe, Multiset.cons_add]

omit [Keyed α] in
/-- An open queue holds what is put in. -/
theorem held_add (opened : queue.closed = false) (item : α) :
    (queue.add item).held = item ::ₘ queue.held := by
  rw [add, accept, if_neg (by simp [opened]), held, held, ← Multiset.coe_add, Multiset.coe_singleton,
    add_right_comm, add_comm, Multiset.singleton_add]

/-- It holds what is put in with a delay, too. -/
theorem held_addAfter (opened : queue.closed = false) (now : Nat) (item : α) (delay : Nat) :
    (queue.addAfter now item delay).held = item ::ₘ queue.held := by
  rw [addAfter]
  split
  · exact held_add opened item
  · rw [held, held, List.map_append, ← Multiset.coe_add, List.map_singleton, Multiset.coe_singleton,
      ← add_assoc, add_comm, Multiset.singleton_add]

/-- It holds an item that failed if this may be tried once more. -/
theorem held_requeue (opened : queue.closed = false) (now : Nat) (item : α) :
    (queue.requeue now item).held =
      if queue.mayRetry item then item ::ₘ queue.held else queue.held := by
  rw [requeue]
  split
  · rw [addRateLimited]
    refine (held_addAfter ?_ now item _).trans rfl
    exact opened
  · rfl

/-! ## Closing -/

omit [Keyed α] in
@[simp] theorem closed_accept : (queue.accept item).closed = queue.closed := by
  rw [accept]
  split <;> rfl

@[simp] theorem closed_addAfter {now delay : Nat} :
    (queue.addAfter now item delay).closed = queue.closed := by
  rw [addAfter]
  split
  · exact closed_accept
  · rfl

@[simp] theorem closed_requeue {now : Nat} : (queue.requeue now item).closed = queue.closed := by
  rw [requeue]
  split
  · exact closed_addAfter
  · rfl

@[simp] theorem closed_fire {number : Nat} : (queue.fire number).closed = queue.closed := by
  rw [fire]
  split
  · rfl
  · exact closed_accept

/-! ## Timers -/

/-- What a queue keeps about its timers: their numbers, and for every key how many there are. -/
structure Sound (queue : Queue α) : Prop where
  nodup : (queue.timers.map Timer.number).Nodup
  lt : ∀ timer ∈ queue.timers, timer.number < queue.nextTimer
  delayed : ∀ key, queue.delayed.count key =
    queue.timers.countP fun timer => Keyed.key timer.item = key

/-- A new queue has no timers. -/
theorem Sound.new (config : QueueConfig) : ({ config } : Queue α).Sound where
  nodup := .nil
  lt _ h := absurd h List.not_mem_nil
  delayed _ := rfl

/-- The other parts of a queue have no part in it. -/
theorem Sound.of_eq {queue' : Queue α} (sound : queue.Sound) (timers : queue'.timers = queue.timers)
    (nextTimer : queue'.nextTimer = queue.nextTimer) (delayed : queue'.delayed = queue.delayed) :
    queue'.Sound :=
  ⟨timers ▸ sound.nodup, by rw [timers, nextTimer]; exact sound.lt,
    by rw [timers, delayed]; exact sound.delayed⟩

theorem Sound.accept (sound : queue.Sound) (item : α) : (queue.accept item).Sound := by
  rw [Queue.accept]
  split
  · exact sound
  · exact sound.of_eq rfl rfl rfl

/-- A timer that is set has a number of its own, and is counted for its key. -/
theorem Sound.addAfter (sound : queue.Sound) (now : Nat) (item : α) (delay : Nat) :
    (queue.addAfter now item delay).Sound := by
  rw [Queue.addAfter]
  split
  · exact sound.accept item
  · refine ⟨?_, fun timer htimer => ?_, fun key => ?_⟩
    · rw [List.map_append, List.map_singleton, ← List.concat_eq_append]
      refine sound.nodup.concat fun hmem => ?_
      obtain ⟨timer, htimer, hnumber⟩ := List.mem_map.1 hmem
      exact absurd (hnumber ▸ sound.lt timer htimer) (Nat.lt_irrefl _)
    · rcases List.mem_append.1 htimer with h | h
      · exact Nat.lt_succ_of_lt (sound.lt timer h)
      · rw [List.mem_singleton.1 h]
        exact Nat.lt_succ_self _
    · rw [Counts.count_increment, sound.delayed, List.countP_append, List.countP_singleton]
      simp [eq_comm]

/-- To put a failed item in again is to set a timer or to forget its key. -/
theorem Sound.requeue (sound : queue.Sound) (now : Nat) (item : α) : (queue.requeue now item).Sound := by
  rw [Queue.requeue]
  split
  · rw [addRateLimited]
    refine Sound.addAfter ?_ _ _ _
    exact sound.of_eq rfl rfl rfl
  · exact sound.of_eq rfl rfl rfl

omit [Keyed α] in
/-- Of timers with numbers of their own, one falls due at a time. -/
theorem perm_of_find? {timers : List (Timer α)} (nodup : (timers.map Timer.number).Nodup) {number : Nat}
    {timer : Timer α} (h : timers.find? (·.number == number) = some timer) :
    timers.Perm (timer :: timers.filter (·.number != number)) := by
  induction timers with
  | nil => simp at h
  | cons first rest ih =>
    obtain ⟨hfirst, hrest⟩ := List.nodup_cons.1 nodup
    rw [List.find?_cons] at h
    split at h
    · rename_i hnumber
      obtain rfl := Option.some.inj h
      rw [beq_iff_eq] at hnumber
      subst hnumber
      -- No other timer has the number, so all of the rest stays.
      rw [List.filter_cons_of_neg (by simp), List.filter_eq_self.2]
      intro other hother
      rw [bne_iff_ne]
      exact fun heq => hfirst (List.mem_map.2 ⟨other, hother, heq⟩)
    · rename_i hnumber
      rw [List.filter_cons_of_pos (by simpa using hnumber)]
      exact ((ih hrest h).cons first).trans (.swap _ _ _)

/-- A timer that falls due is no longer counted. -/
theorem Sound.fire (sound : queue.Sound) (number : Nat) : (queue.fire number).Sound := by
  rw [Queue.fire]
  split
  · exact sound
  · rename_i timer htimer
    refine Sound.accept ⟨?_, fun other hother => ?_, fun key => ?_⟩ timer.item
    · exact sound.nodup.sublist (List.filter_sublist.map _)
    · exact sound.lt other (List.mem_filter.1 hother).1
    · rw [Counts.count_decrement, sound.delayed, (perm_of_find? sound.nodup htimer).countP_eq,
        List.countP_cons]
      simp [eq_comm]

/-- An item that is put in again is dropped, or comes last among the items or the timers. -/
theorem requeue_cases (queue : Queue α) (now : Nat) (item : α) :
    ((queue.requeue now item).items = queue.items ∧ (queue.requeue now item).timers = queue.timers) ∨
    queue.mayRetry item = true ∧
      ((queue.requeue now item).items = queue.items ++ [item] ∧
          (queue.requeue now item).timers = queue.timers ∨
        (queue.requeue now item).items = queue.items ∧
          (queue.requeue now item).timers.map Timer.item = queue.timers.map Timer.item ++ [item]) := by
  rw [requeue]
  split
  · rename_i hretry
    rw [addRateLimited, addAfter]
    split
    · rw [add, accept]
      split
      · exact .inl ⟨rfl, rfl⟩
      · exact .inr ⟨hretry, .inl ⟨rfl, rfl⟩⟩
    · exact .inr ⟨hretry, .inr ⟨rfl, by simp⟩⟩
  · exact .inl ⟨rfl, rfl⟩

/-- When a timer falls due, its item comes last among the items, unless the queue is closed. -/
theorem Sound.fire_cases (sound : queue.Sound) (number : Nat) :
    ((queue.fire number).items = queue.items ∧ (queue.fire number).timers = queue.timers) ∨
    ∃ item, (queue.timers.map Timer.item).Perm (item :: (queue.fire number).timers.map Timer.item) ∧
      ((queue.fire number).items = queue.items ∨ (queue.fire number).items = queue.items ++ [item]) := by
  rw [Queue.fire]
  split
  · exact .inl ⟨rfl, rfl⟩
  · rename_i timer htimer
    have hperm := (perm_of_find? sound.nodup htimer).map Timer.item
    refine .inr ⟨timer.item, ?_⟩
    rw [Queue.accept]
    split
    · exact ⟨hperm, .inl rfl⟩
    · exact ⟨hperm, .inr rfl⟩

/-- When a timer falls due, its item is still held. -/
theorem held_fire (sound : queue.Sound) (opened : queue.closed = false) (number : Nat) :
    (queue.fire number).held = queue.held := by
  rw [fire]
  split
  · rfl
  · rename_i timer htimer
    have hperm := (perm_of_find? sound.nodup htimer).map Timer.item
    refine Eq.trans (held_add ?_ timer.item) ?_
    · exact opened
    rw [held, held, Multiset.coe_eq_coe.2 hperm, List.map_cons, ← Multiset.cons_coe, Multiset.add_cons]

/-- When no key with a property is outstanding, the queue holds no item of such a key. -/
theorem Sound.not_of_mem_held (sound : queue.Sound) {property : String → Bool}
    (h : queue.hasOutstanding property = false) {item : α} (hitem : item ∈ queue.held) :
    property (Keyed.key item) = false := by
  rw [hasOutstanding, Bool.or_eq_false_iff, Bool.or_eq_false_iff, List.any_eq_false,
    List.any_eq_false] at h
  obtain ⟨⟨hitems, -⟩, hdelayed⟩ := h
  rw [held, Multiset.mem_add, Multiset.mem_coe, Multiset.mem_coe] at hitem
  rcases hitem with hitem | hitem
  · simpa using hitems item hitem
  · obtain ⟨timer, htimer, rfl⟩ := List.mem_map.1 hitem
    have hpos : 0 < queue.delayed.count (Keyed.key timer.item) := by
      rw [sound.delayed]
      exact List.countP_pos_iff.2 ⟨timer, htimer, by simp⟩
    simpa using List.any_eq_false.1 hdelayed _ (Counts.mem_keys_of_count_pos hpos)

end Queue

end NodeImages
