import NodeImages.Integer
import NodeImages.Proofs.Outstanding

/-!
# How often work is tried

An item that fails is tried again for as long as its key may be (`Queue.mayRetry`), and is dropped after that. The
failures are counted by key: items of one key share a counter, which starts again when one of them is dropped, so
that of a single item nothing can be said. What can be said is how often items of the key are tried altogether.

A `Trial` is a queue at which every attempt at an item of a certain key fails, while anything may happen to items
of other keys. Its `Account` holds what has been put in, tried and dropped of the key.

* `act_posting`: what a move makes of the account;
* `Account.Balanced`: what was put in is paid for by what was tried, what is outstanding and what the counter says;
* `attempt_of_outstanding`: so long as something is outstanding, there comes another attempt;
* `tried_to_the_end`: every item is tried once more than it may be retried, on the average, and then dropped.
-/

namespace NodeImages

namespace Queue

/-! ## Accounts -/

/-- What has become of the items of a key. -/
@[ext]
structure Account where
  /-- How many were put in. -/
  added : Nat
  /-- How many attempts have failed. -/
  attempts : Nat
  /-- How many were dropped after an attempt, and not put in again. -/
  dropped : Nat
  /-- How many are to be handed out, with a timer, or in the hand of the consumer. -/
  outstanding : Nat
  /-- What the counter of failures says. -/
  failures : Nat

namespace Account

variable {retries : Nat} {account account' : Account}

/-- How an account can change. -/
inductive Posting (retries : Nat) (account : Account) : Account → Prop
  /-- Nothing happens to items of the key. -/
  | rest : Posting retries account account
  /-- An item is put in. -/
  | added : Posting retries account
      { account with added := account.added + 1, outstanding := account.outstanding + 1 }
  /-- An item is tried and put in again. -/
  | retried (left : 0 < account.outstanding) (may : account.failures < retries) : Posting retries account
      { account with attempts := account.attempts + 1, failures := account.failures + 1 }
  /-- An item is tried and dropped. -/
  | dropped (outstanding : Nat) (one : account.outstanding = outstanding + 1)
      (spent : retries ≤ account.failures) : Posting retries account
      { account with
        attempts := account.attempts + 1, dropped := account.dropped + 1, outstanding, failures := 0 }

/-- Every item that was put in is good for one attempt and the retries. Of these, a dropped item has had all,
    and those of the items that are outstanding are still to come, but for as many as the counter says. -/
structure Balanced (retries : Nat) (account : Account) : Prop where
  failures_le : account.failures ≤ retries
  balance : account.attempts + account.outstanding * (retries + 1) =
    account.added * (retries + 1) + account.failures
  dropped : account.dropped + account.outstanding = account.added
  settled : account.outstanding = 0 → account.failures = 0

theorem Balanced.post (balanced : account.Balanced retries) (posting : Posting retries account account') :
    account'.Balanced retries := by
  obtain ⟨hle, hbalance, hdropped, hsettled⟩ := balanced
  cases posting with
  | rest => exact ⟨hle, hbalance, hdropped, hsettled⟩
  | added =>
    refine ⟨hle, ?_, ?_, nofun⟩
    · rw [Nat.succ_mul, Nat.succ_mul]
      dsimp only
      omega
    · rw [← Nat.add_assoc, hdropped]
  | retried left may =>
    refine ⟨may, ?_, hdropped, fun hzero => absurd hzero left.ne'⟩
    dsimp only
    omega
  | dropped outstanding one spent =>
    -- The counter is spent on the item that goes, whichever items it was run up by.
    rw [one, Nat.succ_mul] at hbalance
    refine ⟨Nat.zero_le _, ?_, ?_, fun _ => rfl⟩
    · dsimp only
      omega
    · dsimp only
      omega

/-- There are no more attempts than are paid for, and as many only when nothing is outstanding. -/
theorem Balanced.attempts_le (balanced : account.Balanced retries) :
    account.attempts ≤ account.added * (retries + 1) ∧
      (account.attempts = account.added * (retries + 1) ↔ account.outstanding = 0) := by
  obtain ⟨hle, hbalance, -, hsettled⟩ := balanced
  cases h : account.outstanding with
  | zero =>
    rw [h, hsettled h] at hbalance
    omega
  | succ outstanding =>
    rw [h, Nat.succ_mul] at hbalance
    omega

end Account

/-! ## Items of a key -/

section

variable {α : Type} [Keyed α] {queue queue' : Queue α} {item : α} {key : String}

/-- How many items of a key are to be handed out, now or later. -/
def holding (key : String) (queue : Queue α) : Nat := queue.held.countP (Keyed.key · = key)

theorem holding_of_held (key : String) (held : queue'.held = item ::ₘ queue.held) :
    queue'.holding key = queue.holding key + if Keyed.key item = key then 1 else 0 := by
  rw [holding, held, Multiset.countP_cons]
  rfl

theorem holding_pos_iff :
    0 < queue.holding key ↔
      (∃ item ∈ queue.items, Keyed.key item = key) ∨ ∃ timer ∈ queue.timers, Keyed.key timer.item = key := by
  rw [holding, Multiset.countP_pos]
  simp [held, or_and_right, exists_or]

theorem Counts.count_put (key : String) (n : Nat) (counts : Counts) (k : String) :
    (Counts.put key n counts).count k = if k = key then n else counts.count k := by
  rw [count, lookup_put]
  split <;> rfl

theorem Counts.count_drop (counts : Counts) (key k : String) :
    (counts.drop key).count k = if k = key then 0 else counts.count k := by
  rw [count, lookup_drop]
  split <;> rfl

theorem held_addRateLimited (opened : queue.closed = false) (now : Nat) (item : α) :
    (queue.addRateLimited now item).held = item ::ₘ queue.held := by
  rw [addRateLimited]
  refine (held_addAfter ?_ now item _).trans rfl
  exact opened

theorem failures_addRateLimited (queue : Queue α) (now : Nat) (item : α) :
    (queue.addRateLimited now item).failures =
      queue.failures.put (Keyed.key item) (oneMore (queue.requeues item)) :=
  (frame_addAfter _ _ _ _).failures

theorem failures_requeue (queue : Queue α) (now : Nat) (item : α) :
    (queue.requeue now item).failures =
      if queue.mayRetry item then queue.failures.put (Keyed.key item) (oneMore (queue.requeues item))
      else queue.failures.drop (Keyed.key item) := by
  rw [requeue]
  split
  · exact failures_addRateLimited _ _ _
  · rfl

theorem oneMore_ne_zero (failures : Nat) : oneMore failures ≠ 0 := by
  rw [oneMore]
  omega

end

namespace Timed

variable {α : Type} [Keyed α] {timed : Timed α}

theorem handout?_take (timed : Timed α) : timed.handout? .take = timed.queue.items.head? := by
  rw [handout?, handout_eq]
  cases timed.queue.items with
  | nil => cases timed.queue.closed <;> rfl
  | cons => rfl

/-- The item that a move puts in after a failure (`true`), or whose failures it forgets (`false`). -/
def setback? (timed : Timed α) : Move α → Option (α × Bool)
  | .addRateLimited item => some (item, true)
  | .requeue item => some (item, timed.queue.mayRetry item)
  | .forget item => some (item, false)
  | _ => none

/-- In no other way does a move touch the counters of failures. -/
theorem failures_act (timed : Timed α) (move : Move α) :
    (timed.act move).queue.failures =
      match timed.setback? move with
      | none => timed.queue.failures
      | some (item, again) =>
        if again then timed.queue.failures.put (Keyed.key item) (oneMore (timed.queue.requeues item))
        else timed.queue.failures.drop (Keyed.key item) := by
  cases move with
  | add item => exact (frame_accept _ _).failures
  | addAfter item delay => exact (frame_addAfter _ _ _ _).failures
  | addRateLimited item => exact failures_addRateLimited _ _ _
  | requeue item => exact failures_requeue _ _ _
  | take =>
    rw [act]
    cases hitems : timed.queue.items with
    | nil => rw [take_of_nil hitems]; rfl
    | cons => rw [take_of_cons hitems]; rfl
  | fire number => exact (frame_fire _ _).failures
  | done | forget | close | tick => rfl

/-- A key that has failed has a counter that says so, and any other has none. -/
theorem positive_failures_act (positive : timed.queue.failures.Positive) (move : Move α) :
    (timed.act move).queue.failures.Positive := by
  rw [failures_act]
  rcases timed.setback? move with _ | ⟨item, again⟩
  · exact positive
  · cases again with
    | false => exact positive.drop _
    | true => exact positive.put _ (oneMore_ne_zero _)

theorem positive_failures_after (positive : timed.queue.failures.Positive) (moves : List (Move α)) :
    (timed.after moves).queue.failures.Positive := by
  induction moves generalizing timed with
  | nil => exact positive
  | cons move rest ih => exact ih (positive_failures_act positive move)

theorem Change.config {move : Move α} {timed' : Timed α} (change : Change timed move timed') :
    timed'.queue.config = timed.queue.config := by
  cases change with
  | order => exact (frame_addAfter { timed.queue with failures := _ } _ _ _).config
  | fire => exact (frame_fire _ _).config
  | take | close | tick | rest => rfl

theorem config_after (timed : Timed α) (moves : List (Move α)) :
    (timed.after moves).queue.config = timed.queue.config := by
  induction moves generalizing timed with
  | nil => rfl
  | cons move rest ih => exact (ih _).trans (act_change timed move).config

end Timed

/-! ## Trials -/

/-- A queue at which every attempt at an item of a key fails. -/
structure Trial (α : Type) where
  timed : Timed α
  /-- The item of the key that the consumer is at. -/
  hand : Option α := none
  /-- How many items of the key were put in. -/
  added : Nat := 0
  /-- How many attempts at items of the key have failed. -/
  attempts : Nat := 0
  /-- After how many of them the item was not put in again. -/
  dropped : Nat := 0

namespace Trial

variable {α : Type} [Keyed α]

/-- What a move makes of a trial. An attempt is over when the consumer puts the item in again, or is told that it
    may not be. -/
def act (key : String) (trial : Trial α) (move : Move α) : Trial α :=
  let timed := trial.timed.act move
  match move with
  | .add item => { trial with timed, added := trial.added + if Keyed.key item = key then 1 else 0 }
  | .take => { trial with timed, hand := (trial.timed.handout? .take).filter (Keyed.key · = key) }
  | .requeue item =>
    if Keyed.key item = key then
      { trial with
        timed
        hand := none
        attempts := trial.attempts + 1
        dropped := trial.dropped + if trial.timed.queue.mayRetry item then 0 else 1 }
    else { trial with timed }
  | _ => { trial with timed }

/-- The moves that there can be. Items of the key are only put in without a delay, and their failures are not
    forgotten; they are put in again only by the consumer, who does so with every one that it has got before it takes
    another. Items of other keys are treated in any way. To mark items as done has no part in this, and the queue
    is not closed. -/
def Allows (key : String) (trial : Trial α) : Move α → Prop
  | .add _ | .done _ | .fire _ | .tick _ => True
  | .take => trial.hand = none
  | .requeue item => Keyed.key item = key → trial.hand = some item
  | .addAfter item _ | .addRateLimited item | .forget item => Keyed.key item ≠ key
  | .close => False

/-- The account of the items of the key. -/
def account (key : String) (trial : Trial α) : Account where
  added := trial.added
  attempts := trial.attempts
  dropped := trial.dropped
  outstanding := trial.timed.queue.holding key + trial.hand.toList.length
  failures := trial.timed.queue.failures.count key

variable {key : String} {trial : Trial α} {move : Move α} {retries : Nat}

/-- Nothing changes for a consumer to whom nothing is to be handed out. -/
theorem act_take_of_nil (items : trial.timed.queue.items = []) (idle : trial.hand = none) :
    trial.act key .take = trial := by
  obtain ⟨timed, hand⟩ := trial
  obtain rfl : hand = none := idle
  rw [act, Timed.handout?_take, Timed.act, take_of_nil items, items]
  rfl

theorem timed_act : (trial.act key move).timed = trial.timed.act move := by
  cases move with
  | requeue item =>
    rw [act]
    split <;> rfl
  | _ => rfl

/-- A move that leaves items of the key where they are is not booked. -/
theorem posting_of_same
    (held : (trial.timed.act move).queue.holding key = trial.timed.queue.holding key)
    (failures : (trial.timed.act move).queue.failures.count key = trial.timed.queue.failures.count key) :
    Account.Posting retries (trial.account key)
      (account key { trial with timed := trial.timed.act move }) := by
  have same : account key { trial with timed := trial.timed.act move } = trial.account key := by
    rw [account, held, failures]
    rfl
  exact same ▸ .rest

/-- An item of the key that is handed out comes into the hand of the consumer. -/
theorem posting_take (nothing : trial.hand = none) :
    Account.Posting retries (trial.account key) ((trial.act key .take).account key) := by
  have booked : (trial.act key .take).account key = trial.account key := by
    rw [account, account, act, Timed.handout?_take, nothing]
    cases hitems : trial.timed.queue.items with
    | nil =>
      rw [Timed.act, take_of_nil hitems]
      rfl
    | cons item rest =>
      have held := holding_of_held key (held_take (take_of_cons hitems))
      rw [Timed.act, take_of_cons hitems]
      ext
      case outstanding =>
        by_cases h : Keyed.key item = key <;> simp [held, h]
      all_goals rfl
  exact booked ▸ .rest

/-- An attempt at an item of the key is over. -/
theorem posting_requeue (limit : IntegerKind.u32.Holds retries)
    (config : trial.timed.queue.config.maxRetries = retries) (opened : trial.timed.queue.closed = false)
    {item : α} (hkey : Keyed.key item = key) (hand : trial.hand = some item) :
    Account.Posting retries (trial.account key) ((trial.act key (.requeue item)).account key) := by
  have one : (trial.account key).outstanding = trial.timed.queue.holding key + 1 := by
    rw [account, hand]
    rfl
  have failures := failures_requeue trial.timed.queue trial.timed.now item
  have held := held_requeue opened trial.timed.now item
  have may_iff : trial.timed.queue.mayRetry item = true ↔ trial.timed.queue.failures.count key < retries := by
    rw [mayRetry, requeues, hkey, config, decide_eq_true_iff]
  by_cases may : trial.timed.queue.mayRetry item = true
  · rw [if_pos may] at failures held
    have less := may_iff.1 may
    -- The counter is below the limit, which is a word, and so it does not stop short.
    have count : oneMore (trial.timed.queue.requeues item) = trial.timed.queue.failures.count key + 1 := by
      have hlimit := limit.2.1
      rw [oneMore, requeues, hkey]
      simp only [IntegerKind.u32] at hlimit
      omega
    have booked : (trial.act key (.requeue item)).account key =
        { trial.account key with
          attempts := trial.attempts + 1, failures := (trial.account key).failures + 1 } := by
      rw [act, if_pos hkey, if_pos may]
      ext
      case outstanding => exact (holding_of_held key held).trans (one ▸ by rw [if_pos hkey])
      case failures =>
        refine (congrArg (Counts.count · key) failures).trans ?_
        rw [Counts.count_put, if_pos hkey.symm, count]
        rfl
      all_goals rfl
    exact booked ▸ .retried (one ▸ Nat.succ_pos _) less
  · rw [if_neg may] at failures held
    have booked : (trial.act key (.requeue item)).account key =
        { trial.account key with
          attempts := trial.attempts + 1, dropped := trial.dropped + 1
          outstanding := trial.timed.queue.holding key, failures := 0 } := by
      rw [act, if_pos hkey, if_neg may]
      ext
      case outstanding => exact congrArg (Multiset.countP _) held
      case failures =>
        refine (congrArg (Counts.count · key) failures).trans ?_
        rw [Counts.count_drop, if_pos hkey.symm]
      all_goals rfl
    exact booked ▸ .dropped _ one (Nat.le_of_not_lt (may_iff.not.1 may))

theorem act_posting (limit : IntegerKind.u32.Holds retries)
    (config : trial.timed.queue.config.maxRetries = retries) (sound : trial.timed.queue.Sound)
    (opened : trial.timed.queue.closed = false) (allowed : trial.Allows key move) :
    Account.Posting retries (trial.account key) ((trial.act key move).account key) := by
  cases move with
  | add item =>
    have held := holding_of_held key (held_add opened item)
    have failures : (trial.timed.queue.add item).failures = trial.timed.queue.failures :=
      (frame_accept _ _).failures
    by_cases h : Keyed.key item = key
    · have booked : (trial.act key (.add item)).account key =
          { trial.account key with
            added := trial.added + 1, outstanding := (trial.account key).outstanding + 1 } := by
        rw [if_pos h] at held
        rw [act, account, if_pos h, Timed.act, held, failures, Nat.add_right_comm]
        rfl
      exact booked ▸ .added
    · rw [if_neg h] at held
      rw [act, if_neg h]
      exact posting_of_same held (congrArg (Counts.count · key) failures)
  | addAfter item delay =>
    have held := holding_of_held key (held_addAfter opened trial.timed.now item delay)
    rw [if_neg allowed] at held
    exact posting_of_same held (congrArg (Counts.count · key) (frame_addAfter _ _ _ _).failures)
  | addRateLimited item =>
    have held := holding_of_held key (held_addRateLimited opened trial.timed.now item)
    have failures := failures_addRateLimited trial.timed.queue trial.timed.now item
    rw [if_neg allowed] at held
    refine posting_of_same held ((congrArg (Counts.count · key) failures).trans ?_)
    rw [Counts.count_put, if_neg (Ne.symm allowed)]
  | forget item =>
    exact posting_of_same rfl ((Counts.count_drop _ _ _).trans (if_neg (Ne.symm allowed)))
  | fire number =>
    exact posting_of_same (congrArg (Multiset.countP _) (held_fire sound opened number))
      (congrArg (Counts.count · key) (frame_fire _ _).failures)
  | done | tick => exact posting_of_same rfl rfl
  | close => exact absurd allowed id
  | take => exact posting_take allowed
  | requeue item =>
    by_cases h : Keyed.key item = key
    · exact posting_requeue limit config opened h (allowed h)
    · have held := held_requeue opened trial.timed.now item
      have failures := failures_requeue trial.timed.queue trial.timed.now item
      rw [act, if_neg h]
      refine posting_of_same ?_ ((congrArg (Counts.count · key) failures).trans ?_)
      · rw [Timed.act, holding, held]
        split
        · exact Multiset.countP_cons_of_neg _ h
        · rfl
      · split
        · rw [Counts.count_put, if_neg (Ne.symm h)]
        · rw [Counts.count_drop, if_neg (Ne.symm h)]

/-! ## Courses -/

/-- The trial along a course of moves that does not end. -/
def along (key : String) (trial : Trial α) (course : Nat → Move α) : Nat → Trial α
  | 0 => trial
  | i + 1 => (trial.along key course i).act key (course i)

/-- What stays so in a trial. -/
structure Regular (key : String) (retries : Nat) (trial : Trial α) : Prop where
  sound : trial.timed.queue.Sound
  opened : trial.timed.queue.closed = false
  config : trial.timed.queue.config.maxRetries = retries
  positive : trial.timed.queue.failures.Positive
  balanced : (trial.account key).Balanced retries

theorem Regular.act (limit : IntegerKind.u32.Holds retries) (regular : trial.Regular key retries)
    (allowed : trial.Allows key move) : (trial.act key move).Regular key retries := by
  obtain ⟨sound, opened, config, positive, balanced⟩ := regular
  have change := Timed.act_change trial.timed move
  have other : move ≠ .close := by
    rintro rfl
    exact allowed
  constructor
  case balanced => exact balanced.post (act_posting limit config sound opened allowed)
  all_goals rw [timed_act]
  · exact change.sound sound
  · exact (change.closed other).trans opened
  · exact (congrArg _ change.config).trans config
  · exact Timed.positive_failures_act positive move

/-- A course in which the consumer comes for items again and again, and every timer falls due at some time. -/
structure Lively (key : String) (trial : Trial α) (course : Nat → Move α) : Prop where
  taken : ∀ i, ∃ j ≥ i, course j = .take
  fired : ∀ i, ∀ timer ∈ (trial.along key course i).timed.queue.timers,
    ∃ j ≥ i, course j = .fire timer.number

theorem attempts_le_act : trial.attempts ≤ (trial.act key move).attempts := by
  cases move with
  | requeue item =>
    rw [act]
    split
    · exact Nat.le_succ _
    · exact Nat.le_refl _
  | _ => exact Nat.le_refl _

/-- The consumer has an item of the key in hand until the attempt at it is over. -/
theorem hand_act (taken : move ≠ .take)
    (tried : ∀ item, move = .requeue item → Keyed.key item ≠ key) : (trial.act key move).hand = trial.hand := by
  cases move with
  | take => exact absurd rfl taken
  | requeue item => rw [act, if_neg (tried item rfl)]
  | _ => rfl

variable (key) in
/-- What is to be handed out stays in front of what comes later, until an item is taken. -/
theorem items_act (opened : trial.timed.queue.closed = false) (taken : move ≠ .take) :
    ∃ more, (trial.act key move).timed.queue.items = trial.timed.queue.items ++ more := by
  have items := (Timed.act_change trial.timed move).items
  have handout : trial.timed.handout? move = none := by
    cases move with
    | take => exact absurd rfl taken
    | _ => rfl
  rw [opened, if_neg Bool.false_ne_true, handout] at items
  rw [timed_act]
  exact ⟨_, items.symm⟩

section

variable {course : Nat → Move α}

/-- What goes on until something comes goes on when it comes. -/
theorem exists_until {P E : Nat → Prop} {i : Nat} (start : P i)
    (step : ∀ j, P j → ¬ E j → P (j + 1)) (comes : ∃ j ≥ i, E j) : ∃ j ≥ i, P j ∧ E j := by
  obtain ⟨j, hj, hE⟩ := comes
  obtain ⟨wait, rfl⟩ := Nat.exists_eq_add_of_le hj
  clear hj
  induction wait generalizing i with
  | zero => exact ⟨i, Nat.le_refl i, start, hE⟩
  | succ wait ih =>
    by_cases h : E i
    · exact ⟨i, Nat.le_refl i, start, h⟩
    · obtain ⟨j, hj, hP, hE⟩ := ih (step i start h) (by rwa [Nat.add_assoc, Nat.add_comm 1 wait])
      exact ⟨j, by omega, hP, hE⟩

theorem attempts_mono {i j : Nat} (h : i ≤ j) :
    (trial.along key course i).attempts ≤ (trial.along key course j).attempts := by
  induction h with
  | refl => exact Nat.le_refl _
  | step _ ih => exact Nat.le_trans ih attempts_le_act

theorem regular_along (limit : IntegerKind.u32.Holds retries) (regular : trial.Regular key retries)
    (allowed : ∀ i, (trial.along key course i).Allows key (course i)) (i : Nat) :
    (trial.along key course i).Regular key retries := by
  induction i with
  | zero => exact regular
  | succ i ih => exact ih.act limit (allowed i)

variable (allowed : ∀ i, (trial.along key course i).Allows key (course i)) (lively : trial.Lively key course)
  (regular : ∀ i, (trial.along key course i).Regular key retries)

include allowed lively

/-- An attempt that has begun comes to an end, as the consumer is to take another item. -/
theorem attempt_of_hand {i : Nat} (hand : (trial.along key course i).hand ≠ none) :
    ∃ j ≥ i, (trial.along key course i).attempts < (trial.along key course j).attempts := by
  obtain ⟨j, hj, busy, taken | ⟨item, tried, hkey⟩⟩ := exists_until
    (P := fun j => (trial.along key course j).hand ≠ none)
    (E := fun j => course j = .take ∨ ∃ item, course j = .requeue item ∧ Keyed.key item = key) hand
    (fun j busy quiet => by
      rw [along, hand_act (fun h => quiet (.inl h)) fun item h hkey => quiet (.inr ⟨item, h, hkey⟩)]
      exact busy)
    ((lively.taken i).imp fun j => .imp_right .inl)
  · have idle := allowed j
    rw [taken] at idle
    exact absurd idle busy
  · refine ⟨j + 1, Nat.le_succ_of_le hj, Nat.lt_of_le_of_lt (attempts_mono hj) ?_⟩
    rw [along, tried, act, if_pos hkey]
    exact Nat.lt_succ_self _

include regular

omit allowed in
/-- When the consumer takes an item next, those that are to be handed out now are in front. -/
theorem exists_take (i : Nat) :
    ∃ j ≥ i, course j = .take ∧ ∃ more, (trial.along key course j).timed.queue.items =
      (trial.along key course i).timed.queue.items ++ more := by
  obtain ⟨j, hj, items, taken⟩ := exists_until
    (P := fun j => ∃ more, (trial.along key course j).timed.queue.items =
      (trial.along key course i).timed.queue.items ++ more)
    (E := fun j => course j = .take) ⟨[], (List.append_nil _).symm⟩
    (fun j ⟨more, items⟩ other => by
      obtain ⟨later, hlater⟩ := items_act key (regular j).opened other
      exact ⟨more ++ later, by rw [along, hlater, items, List.append_assoc]⟩)
    (lively.taken i)
  exact ⟨j, hj, taken, items⟩

/-- An item of the key that is to be handed out is tried, after those in front of it have been taken. -/
theorem attempt_of_items {item : α} (hkey : Keyed.key item = key) {front back : List α} {i : Nat}
    (items : (trial.along key course i).timed.queue.items = front ++ item :: back) :
    ∃ j ≥ i, (trial.along key course i).attempts < (trial.along key course j).attempts := by
  -- By induction on the items in front. More may join the row behind, but none in between.
  induction front generalizing back i with
  | nil =>
    obtain ⟨j, hj, taken, more, hitems⟩ := exists_take lively regular i
    rw [items, List.nil_append, List.cons_append] at hitems
    have hand : (trial.along key course (j + 1)).hand = some item := by
      rw [along, taken, act, Timed.handout?_take, hitems]
      simp [hkey]
    obtain ⟨k, hk, attempt⟩ := attempt_of_hand allowed lively (hand ▸ Option.some_ne_none item)
    exact ⟨k, by omega, Nat.lt_of_le_of_lt (attempts_mono (Nat.le_succ_of_le hj)) attempt⟩
  | cons first front ih =>
    obtain ⟨j, hj, taken, more, hitems⟩ := exists_take lively regular i
    rw [items, List.cons_append, List.cons_append, List.append_assoc, List.cons_append] at hitems
    have rest : (trial.along key course (j + 1)).timed.queue.items = front ++ item :: (back ++ more) := by
      rw [along, taken, timed_act, Timed.act, take_of_cons hitems]
    obtain ⟨k, hk, attempt⟩ := ih rest
    exact ⟨k, by omega, Nat.lt_of_le_of_lt (attempts_mono (Nat.le_succ_of_le hj)) attempt⟩

/-- An item of the key that is with a timer is tried, after the timer has fallen due. -/
theorem attempt_of_timer {timer : Timer α} (hkey : Keyed.key timer.item = key) {i : Nat}
    (waits : timer ∈ (trial.along key course i).timed.queue.timers) :
    ∃ j ≥ i, (trial.along key course i).attempts < (trial.along key course j).attempts := by
  obtain ⟨j, hj, waits, fired⟩ := exists_until
    (P := fun j => timer ∈ (trial.along key course j).timed.queue.timers)
    (E := fun j => course j = .fire timer.number) waits
    (fun j waits other => by
      have unfired : (course j).fires timer.number = false := by
        cases h : course j with
        | fire number =>
          exact beq_eq_false_iff_ne.2 fun heq => other (h.trans (heq ▸ rfl))
        | _ => rfl
      rw [along, timed_act, Timed.timers_act]
      exact List.mem_append_left _ (List.mem_filter.2 ⟨waits, by rw [unfired]; rfl⟩))
    (lively.fired i timer waits)
  have items : (trial.along key course (j + 1)).timed.queue.items =
      (trial.along key course j).timed.queue.items ++ timer.item :: [] := by
    rw [along, fired, timed_act]
    exact (regular j).sound.items_fire (regular j).opened waits
  obtain ⟨k, hk, attempt⟩ := attempt_of_items allowed lively regular hkey items
  exact ⟨k, by omega, Nat.lt_of_le_of_lt (attempts_mono (Nat.le_succ_of_le hj)) attempt⟩

/-- So long as items of the key are outstanding, another attempt comes. -/
theorem attempt_of_outstanding {i : Nat} (left : ((trial.along key course i).account key).outstanding ≠ 0) :
    ∃ j ≥ i, (trial.along key course i).attempts < (trial.along key course j).attempts := by
  by_cases hand : (trial.along key course i).hand = none
  · -- What is outstanding is not in the hand, so it is in the queue or with a timer.
    rw [account, hand] at left
    rcases holding_pos_iff.1 (Nat.pos_of_ne_zero left) with ⟨item, hitem, hkey⟩ | ⟨timer, htimer, hkey⟩
    · obtain ⟨front, back, items⟩ := List.append_of_mem hitem
      exact attempt_of_items allowed lively regular hkey items
    · exact attempt_of_timer allowed lively regular hkey htimer
  · exact attempt_of_hand allowed lively hand

/-- When no more items of the key are put in, there comes a time when none is outstanding. -/
theorem exists_outstanding_eq_zero {i n : Nat} (added : ∀ j ≥ i, (trial.along key course j).added = n) :
    ∃ j ≥ i, ((trial.along key course j).account key).outstanding = 0 := by
  -- Every attempt uses up some of what has been paid for.
  generalize budget : n * (retries + 1) - (trial.along key course i).attempts = rest
  induction rest using Nat.strongRecOn generalizing i with
  | ind rest ih =>
    by_cases nothing : ((trial.along key course i).account key).outstanding = 0
    · exact ⟨i, Nat.le_refl i, nothing⟩
    · obtain ⟨j, hj, attempt⟩ := attempt_of_outstanding allowed lively regular nothing
      have paid := (regular j).balanced.attempts_le.1
      rw [show ((trial.along key course j).account key).added = n from added j hj] at paid
      obtain ⟨k, hk, nothing⟩ := ih _ (by dsimp only [account] at paid; omega)
        (fun k hk => added k (Nat.le_trans hj hk)) rfl
      exact ⟨k, Nat.le_trans hj hk, nothing⟩

end

/-- A trial of a queue begins with the items of the key that it has by then. -/
def begin (key : String) (timed : Timed α) : Trial α where
  timed
  added := timed.queue.holding key

theorem regular_begin {timed : Timed α} (sound : timed.queue.Sound) (opened : timed.queue.closed = false)
    (config : timed.queue.config.maxRetries = retries) (positive : timed.queue.failures.Positive)
    (untried : timed.queue.failures.count key = 0) : (begin key timed).Regular key retries where
  sound
  opened
  config
  positive
  balanced :=
    { failures_le := untried.trans_le (Nat.zero_le _)
      balance := by
        change 0 + (timed.queue.holding key + 0) * _ = timed.queue.holding key * _ + timed.queue.failures.count key
        rw [untried, Nat.zero_add]
        rfl
      dropped := Nat.zero_add _
      settled := fun _ => untried }

/-- When nothing of the key is outstanding, every item of it has had its attempts and was dropped. -/
theorem Regular.settled (regular : trial.Regular key retries) (nothing : (trial.account key).outstanding = 0) :
    trial.attempts = trial.added * (retries + 1) ∧ trial.dropped = trial.added ∧
      trial.timed.queue.failures.lookup key = none ∧ (∀ item ∈ trial.timed.queue.held, Keyed.key item ≠ key) ∧
      trial.hand = none := by
  obtain ⟨held, hand⟩ := Nat.add_eq_zero_iff.1 nothing
  refine ⟨regular.balanced.attempts_le.2.2 nothing, ?_, ?_, ?_, ?_⟩
  · have dropped := regular.balanced.dropped
    rwa [nothing] at dropped
  · exact (regular.positive.lookup_eq key).trans (if_pos (regular.balanced.settled nothing))
  · exact Multiset.countP_eq_zero.1 held
  · cases h : trial.hand with
    | none => rfl
    | some item =>
      rw [h] at hand
      exact absurd hand Nat.one_ne_zero

end Trial

/-- However an item of a key whose attempts all fail is mixed with others of the same key and of other keys, the
    attempts at items of the key are paid for by the items that were put in: at any time, those that are over, with
    those that the outstanding items are good for, are as many as the items are good for, and as the counter says on
    top. When nothing is outstanding, every item has had one attempt more than the retries it may have, on the
    average, and as many were dropped as were put in. When no more items of the key are put in, the consumer goes on
    to take items and the timers fall due, that comes to pass, and stays so. -/
theorem tried_to_the_end {α : Type} [Keyed α] {fresh : Timed α} {name : String} {config : QueueConfig}
    (limit : IntegerKind.u32.Holds config.maxRetries) (new : fresh.queue = { name, config })
    {before : List (Move α)} (opened : .close ∉ before) {key : String}
    (untried : (fresh.after before).queue.failures.count key = 0) {course : Nat → Move α}
    (allowed : ∀ i, (Trial.along key (.begin key (fresh.after before)) course i).Allows key (course i)) :
    let start := Trial.begin key (fresh.after before)
    let trial := Trial.along key start course
    let outstanding i := ((trial i).account key).outstanding
    (∀ i, (trial i).attempts + outstanding i * (config.maxRetries + 1) =
      (trial i).added * (config.maxRetries + 1) + (trial i).timed.queue.failures.count key) ∧
    (start.Lively key course → ∀ n i, (∀ j ≥ i, (trial j).added = n) → ∃ m ≥ i, ∀ j ≥ m,
      (trial j).attempts = n * (config.maxRetries + 1) ∧ (trial j).dropped = n ∧
      (trial j).timed.queue.failures.lookup key = none ∧
      (∀ item ∈ (trial j).timed.queue.held, Keyed.key item ≠ key) ∧ (trial j).hand = none) := by
  intro start trial outstanding
  have regular : ∀ i, (trial i).Regular key config.maxRetries := by
    refine Trial.regular_along limit (Trial.regular_begin ?_ ?_ ?_ ?_ untried) allowed
    · refine Timed.sound_after ?_ before
      rw [new]
      exact (Sound.new config).of_eq rfl rfl rfl
    · rw [Timed.closed_after opened, new]
    · rw [Timed.config_after, new]
    · refine Timed.positive_failures_after ?_ before
      rw [new]
      exact .nil
  refine ⟨fun i => (regular i).balanced.balance, fun lively n i added => ?_⟩
  obtain ⟨m, hm, nothing⟩ := Trial.exists_outstanding_eq_zero allowed lively regular added
  refine ⟨m, hm, fun j hj => ?_⟩
  have hadded := added j (Nat.le_trans hm hj)
  -- There are no attempts left for an item to be outstanding again.
  have all : (trial m).attempts = n * (config.maxRetries + 1) :=
    added m hm ▸ ((regular m).settled nothing).1
  have paid := (regular j).balanced.attempts_le
  rw [show ((trial j).account key).added = n from hadded] at paid
  have stays : outstanding j = 0 :=
    paid.2.1 (Nat.le_antisymm paid.1 (all ▸ Trial.attempts_mono hj))
  exact hadded ▸ (regular j).settled stays

/-- Two flushes of one image cache, each of which may be put in again once. Both have been put in when the first
    attempt fails. -/
def twoFlushes : List (Move Work.Item) :=
  let flush : Work.Item := .flush (.named "a")
  [.add flush, .add flush, .take, .requeue flush, .take, .requeue flush, .fire 0, .take, .requeue flush, .fire 1,
    .take, .requeue flush]

/-- The consumer comes for more for ever. -/
def twoFlushesTried (i : Nat) : Move Work.Item := twoFlushes.getD i .take

/-- The queue that the two flushes are put into. -/
def onceMore : Timed Work.Item := { queue := { config := { maxRetries := 1 } } }

/-- What becomes of the two flushes. -/
def twoFlushesTrial : Nat → Trial Work.Item :=
  Trial.along "flush:a" (.begin "flush:a" (onceMore.after [])) twoFlushesTried

/-- The queue has nothing left after the row of moves. -/
theorem twoFlushesTrial_still (i : Nat) : twoFlushesTrial (i + 12) = twoFlushesTrial 12 := by
  induction i with
  | zero => rfl
  | succ i ih =>
    refine Eq.trans (congrArg (Trial.act "flush:a" · .take) ih) (Trial.act_take_of_nil ?_ ?_)
    · exact List.isEmpty_iff.1 (by decide +kernel)
    · exact Option.isNone_iff_eq_none.1 (by decide +kernel)

theorem twoFlushesTrial_allows (i : Nat) : (twoFlushesTrial i).Allows "flush:a" (twoFlushesTried i) :=
  match i with
  | 0 | 1 | 6 | 9 => trivial
  | 2 | 4 | 7 | 10 => rfl
  | 3 => fun _ => show (twoFlushesTrial 3).hand = some (.flush (.named "a")) from rfl
  | 5 => fun _ => show (twoFlushesTrial 5).hand = some (.flush (.named "a")) from rfl
  | 8 => fun _ => show (twoFlushesTrial 8).hand = some (.flush (.named "a")) from rfl
  | 11 => fun _ => show (twoFlushesTrial 11).hand = some (.flush (.named "a")) from rfl
  | i + 12 => by
    rw [twoFlushesTrial_still]
    exact Option.isNone_iff_eq_none.1 (by decide +kernel)

theorem twoFlushesTrial_lively :
    Trial.Lively "flush:a" (.begin "flush:a" (onceMore.after [])) twoFlushesTried where
  taken i := ⟨i + 12, Nat.le_add_right _ _, rfl⟩
  fired i timer waits := by
    have early : ∀ i < 12, ∀ timer ∈ (twoFlushesTrial i).timed.queue.timers,
        ∃ j < 12, i ≤ j ∧ (twoFlushesTried j).fires timer.number = true := by decide +kernel
    by_cases h : i < 12
    · obtain ⟨j, -, hj, fires⟩ := early i h timer waits
      exact ⟨j, hj, Move.eq_of_fires fires⟩
    · obtain ⟨i, rfl⟩ := Nat.exists_eq_add_of_le' (Nat.le_of_not_lt h)
      have nothing : (twoFlushesTrial (i + 12)).timed.queue.timers = [] := by
        rw [twoFlushesTrial_still]
        exact List.isEmpty_iff.1 (by decide +kernel)
      exact absurd (nothing ▸ waits) List.not_mem_nil

theorem tried_to_the_end_twice :
    ∃ m ≥ 2, ∀ j ≥ m, (twoFlushesTrial j).attempts = 4 ∧ (twoFlushesTrial j).dropped = 2 := by
  have added : ∀ j ≥ 2, (twoFlushesTrial j).added = 2 := by
    intro j hj
    by_cases h : j < 12
    · exact (by decide +kernel : ∀ j < 12, 2 ≤ j → (twoFlushesTrial j).added = 2) j h hj
    · obtain ⟨j, rfl⟩ := Nat.exists_eq_add_of_le' (Nat.le_of_not_lt h)
      rw [twoFlushesTrial_still]
      rfl
  have limit : IntegerKind.u32.Holds (1 : Nat) := ⟨by decide, by decide, nofun⟩
  have new : onceMore.queue = { config := { maxRetries := 1 } } := rfl
  obtain ⟨m, hm, told⟩ := (tried_to_the_end limit new List.not_mem_nil rfl twoFlushesTrial_allows).2
    twoFlushesTrial_lively 2 2 added
  exact ⟨m, hm, fun j hj => ⟨(told j hj).1, (told j hj).2.1⟩⟩

end Queue

end NodeImages
