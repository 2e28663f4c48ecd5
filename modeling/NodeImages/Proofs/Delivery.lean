import NodeImages.Proofs.Queue
import NodeImages.Work.Engine

/-!
# What a queue delivers

A queue is used by producers and consumers while time passes (`Timed`). What happens is a row of moves, and three
things can be read off it: what was put in, and when its wait is over (`Timed.orders`); what was taken in, and when
(`Timed.accepted`); and what was handed out (`Timed.handed`). The row may be any, but timers fall due when they
are due (`Timed.Punctual`).

* `items_append_accepted`: what is taken in is handed out in that order, and nothing else is;
* `accepted_add_promises`: until the queue is closed, what was put in has been taken in when its wait was over,
  or is with a timer;
* `delivered_as_accepted`: both together, and what a consumer is told once the queue has been closed;
* `accepted_before_delay`: a wait of more than thirty years is cut short.
-/

namespace NodeImages

namespace Queue

/-! ## What the ways in make of a queue -/

section

variable {α : Type}

/-- An item comes in behind the others, unless the queue is closed. -/
theorem items_accept (queue : Queue α) (item : α) :
    (queue.accept item).items = queue.items ++ if queue.closed then [] else [item] := by
  rw [accept]
  split <;> simp

@[simp] theorem timers_accept (queue : Queue α) (item : α) :
    (queue.accept item).timers = queue.timers := by
  rw [accept]
  split <;> rfl

variable [Keyed α]

/-- An item with a delay does not come in at once. -/
theorem items_addAfter (queue : Queue α) (now : Nat) (item : α) (delay : Nat) :
    (queue.addAfter now item delay).items =
      queue.items ++ if queue.closed || decide (delay ≠ 0) then [] else [item] := by
  rw [addAfter]
  split
  · rename_i h
    rw [add, items_accept]
    simp [h]
  · rename_i h
    simp [h]

/-- A timer is set for it, for thirty years at most. -/
theorem timers_addAfter (queue : Queue α) (now : Nat) (item : α) (delay : Nat) :
    (queue.addAfter now item delay).timers =
      queue.timers ++ if delay = 0 then [] else [⟨queue.nextTimer, now + waitFor delay, item⟩] := by
  rw [addAfter]
  split
  · rw [add, timers_accept, List.append_nil]
  · rfl

/-- A timer falls due once. -/
theorem timers_fire (queue : Queue α) (number : Nat) :
    (queue.fire number).timers = queue.timers.filter (·.number != number) := by
  rw [fire]
  split
  · rename_i h
    refine (List.filter_eq_self.2 fun timer htimer => ?_).symm
    simpa using List.find?_eq_none.1 h timer htimer
  · exact timers_accept _ _

end

/-! ## Queues and time -/

/-- What can happen to a queue. -/
inductive Move (α : Type)
  | add (item : α)
  | addAfter (item : α) (delay : Nat)
  | addRateLimited (item : α)
  | requeue (item : α)
  /-- A consumer asks for an item. One that finds nothing may ask again later, or give up. -/
  | take
  | done (item : α)
  | forget (item : α)
  | close
  /-- The timer of a number falls due. -/
  | fire (number : Nat)
  /-- Time passes, in milliseconds. -/
  | tick (time : Nat)

/-- A queue, and what time it is. -/
structure Timed (α : Type) where
  /-- The time in milliseconds. -/
  now : Nat := 0
  queue : Queue α := {}

namespace Timed

variable {α : Type} [Keyed α]

/-- What a move makes of a queue. -/
def act (timed : Timed α) : Move α → Timed α
  | .add item => { timed with queue := timed.queue.add item }
  | .addAfter item delay => { timed with queue := timed.queue.addAfter timed.now item delay }
  | .addRateLimited item => { timed with queue := timed.queue.addRateLimited timed.now item }
  | .requeue item => { timed with queue := timed.queue.requeue timed.now item }
  | .take => { timed with queue := timed.queue.take.1 }
  | .done item => { timed with queue := timed.queue.done item }
  | .forget item => { timed with queue := timed.queue.forget item }
  | .close => { timed with queue := timed.queue.close }
  | .fire number => { timed with queue := timed.queue.fire number }
  | .tick time => { timed with now := timed.now + time }

/-- The queue after a row of moves. -/
def after (timed : Timed α) (moves : List (Move α)) : Timed α := moves.foldl act timed

/-- Whether a move is one that can happen now: a timer falls due when it is due, and until then no time passes. -/
def OnTime (timed : Timed α) : Move α → Prop
  | .fire number => ∀ timer ∈ timed.queue.timers, timer.number = number → timer.due = timed.now
  | .tick time => ∀ timer ∈ timed.queue.timers, timed.now + time ≤ timer.due
  | _ => True

/-- Every move of a row is on time. -/
def Punctual (timed : Timed α) : List (Move α) → Prop
  | [] => True
  | move :: rest => timed.OnTime move ∧ (timed.act move).Punctual rest

instance (timed : Timed α) (move : Move α) : Decidable (timed.OnTime move) :=
  match move with
  | .fire _ | .tick _ => inferInstanceAs (Decidable (∀ timer ∈ timed.queue.timers, _))
  | .add _ | .addAfter _ _ | .addRateLimited _ | .requeue _ | .take | .done _ | .forget _ | .close =>
    .isTrue trivial

instance decidablePunctual (timed : Timed α) (moves : List (Move α)) : Decidable (timed.Punctual moves) :=
  match moves with
  | [] => .isTrue trivial
  | move :: rest =>
    have := decidablePunctual (timed.act move) rest
    inferInstanceAs (Decidable (_ ∧ _))

/-! ## What is put in, taken in, and handed out -/

/-- The item that a move puts in, with the delay that it asks for. -/
def order? (timed : Timed α) : Move α → Option (α × Nat)
  | .add item => some (item, 0)
  | .addAfter item delay => some (item, delay)
  | .addRateLimited item => some (item, backoffDelay timed.queue.config (timed.queue.requeues item))
  | .requeue item =>
    if timed.queue.mayRetry item then
      some (item, backoffDelay timed.queue.config (timed.queue.requeues item))
    else none
  | _ => none

/-- The item that a move brings to an open queue: one that need not wait, or one whose wait is over. -/
def arrival? (timed : Timed α) : Move α → Option α
  | .fire number => (timed.queue.timers.find? (·.number == number)).map Timer.item
  | move => (timed.order? move).bind fun order => if order.2 = 0 then some order.1 else none

/-- The item that a consumer gets in a move. -/
def handout? (timed : Timed α) : Move α → Option α
  | .take =>
    match timed.queue.take.2 with
    | .item item => some item
    | _ => none
  | _ => none

/-- The item that is put in, with the time at which its wait is over. -/
def orderOf (timed : Timed α) (move : Move α) : List (α × Nat) :=
  ((timed.order? move).map fun order => (order.1, timed.now + waitFor order.2)).toList

/-- The item that arrives, with the time. -/
def arrivalOf (timed : Timed α) (move : Move α) : List (α × Nat) :=
  ((timed.arrival? move).map fun item => (item, timed.now)).toList

/-- The items that are put in, with the times at which their waits are over. -/
def orders (timed : Timed α) : List (Move α) → List (α × Nat)
  | [] => []
  | move :: rest => timed.orderOf move ++ (timed.act move).orders rest

/-- The items that are taken in, with the times: all that arrive until the queue is closed. -/
def accepted (timed : Timed α) : List (Move α) → List (α × Nat)
  | [] => []
  | .close :: _ => []
  | move :: rest => timed.arrivalOf move ++ (timed.act move).accepted rest

/-- The items that are handed out. -/
def handed (timed : Timed α) : List (Move α) → List α
  | [] => []
  | move :: rest => (timed.handout? move).toList ++ (timed.act move).handed rest

/-- The items that are with a timer, with the times at which their waits are over. -/
def promises (timed : Timed α) : Multiset (α × Nat) :=
  (timed.queue.timers.map fun timer => (timer.item, timer.due) : List (α × Nat))

variable {timed timed' : Timed α} {move : Move α} {moves early late : List (Move α)}

@[simp] theorem after_nil : timed.after [] = timed := rfl

@[simp] theorem after_cons (move : Move α) (rest : List (Move α)) :
    timed.after (move :: rest) = (timed.act move).after rest := rfl

/-- A queue goes on from where the beginning of a row of moves has led. -/
theorem after_append (early late : List (Move α)) :
    timed.after (early ++ late) = (timed.after early).after late := List.foldl_append

/-- What is accepted in a row of moves is what arrives in the first one and what is accepted in the others, so long
    as the queue is not closed. -/
theorem accepted_cons (other : move ≠ .close) (rest : List (Move α)) :
    timed.accepted (move :: rest) = timed.arrivalOf move ++ (timed.act move).accepted rest := by
  cases move <;> first | rfl | exact absurd rfl other

/-- Nothing is taken in once the queue has been closed. -/
theorem accepted_append_close (early late : List (Move α)) :
    timed.accepted (early ++ .close :: late) = timed.accepted early := by
  induction early generalizing timed with
  | nil => rfl
  | cons move rest ih =>
    by_cases h : move = .close
    · rw [h]
      rfl
    · rw [List.cons_append, accepted_cons h, accepted_cons h, ih]

/-- What is put in arrives at once if there is no delay. -/
theorem arrival?_of_order? {item : α} {delay : Nat} (h : timed.order? move = some (item, delay)) :
    timed.arrival? move = if delay = 0 then some item else none := by
  cases move with
  | fire => exact absurd h (Option.some_ne_none _).symm
  | _ => simp only [arrival?, h, Option.bind_some]

/-! ## Moves -/

/-- What a move makes of a queue. -/
inductive Change (timed : Timed α) : Move α → Timed α → Prop
  /-- An item is put in. -/
  | order {move : Move α} (item : α) (delay : Nat) (failures : Counts)
      (order : timed.order? move = some (item, delay)) (handout : timed.handout? move = none) :
      Change timed move { timed with
        queue := { timed.queue with failures }.addAfter timed.now item delay }
  /-- A timer falls due. -/
  | fire (number : Nat) : Change timed (.fire number) { timed with queue := timed.queue.fire number }
  /-- The first item is handed out, if there is one. -/
  | take (items : List α) (processing : List String)
      (handout : timed.queue.items = (timed.handout? .take).toList ++ items) :
      Change timed .take { timed with queue := { timed.queue with items, processing } }
  /-- The queue is closed. -/
  | close : Change timed .close { timed with queue := timed.queue.close }
  /-- Time passes. -/
  | tick (time : Nat) : Change timed (.tick time) { timed with now := timed.now + time }
  /-- What the queue holds stays as it is. -/
  | rest {move : Move α} (processing : List String) (failures : Counts)
      (order : timed.order? move = none) (arrival : timed.arrival? move = none)
      (handout : timed.handout? move = none) :
      Change timed move { timed with queue := { timed.queue with processing, failures } }

/-- A move changes the queue in one of these ways. -/
theorem act_change (timed : Timed α) (move : Move α) : Change timed move (timed.act move) := by
  cases move with
  | add item => exact .order item 0 timed.queue.failures rfl rfl
  | addAfter item delay => exact .order item delay timed.queue.failures rfl rfl
  | addRateLimited item => exact .order item _ _ rfl rfl
  | requeue item =>
    by_cases h : timed.queue.mayRetry item = true
    · rw [act, Queue.requeue, if_pos h]
      exact .order item _ _ (if_pos h) rfl
    · rw [act, Queue.requeue, if_neg h]
      refine .rest _ _ (if_neg h) ?_ rfl
      simp only [arrival?, order?, if_neg h, Option.bind_none]
  | take =>
    rw [act]
    cases hitems : timed.queue.items with
    | nil =>
      rw [take_of_nil hitems]
      refine .take timed.queue.items timed.queue.processing ?_
      rw [handout?, take_of_nil hitems]
      cases timed.queue.closed <;> rfl
    | cons item rest =>
      rw [take_of_cons hitems]
      refine .take rest _ ?_
      rw [handout?, take_of_cons hitems, hitems]
      rfl
  | done item => exact .rest _ _ rfl rfl rfl
  | forget item => exact .rest _ _ rfl rfl rfl
  | close => exact .close
  | fire number => exact .fire number
  | tick time => exact .tick time

namespace Change

/-- What was there and what is taken in is what is handed out and what is there then, in that order. -/
theorem items (change : Change timed move timed') :
    timed.queue.items ++ (if timed.queue.closed then [] else (timed.arrival? move).toList) =
      (timed.handout? move).toList ++ timed'.queue.items := by
  cases change with
  | order item delay failures order handout =>
    rw [handout, arrival?_of_order? order, items_addAfter]
    by_cases hdelay : delay = 0 <;> simp [hdelay]
  | fire number =>
    rw [arrival?, handout?, Queue.fire]
    · cases hfind : timed.queue.timers.find? (·.number == number) with
      | none => simp
      | some timer => simp [items_accept]
    · simp
  | take items processing handout =>
    rw [handout]
    simp [arrival?, order?]
  | close | tick => simp [arrival?, order?, handout?, Queue.close]
  | rest processing failures order arrival handout =>
    rw [arrival, handout]
    simp

/-- Only a queue that is being closed comes to be closed. -/
theorem closed (change : Change timed move timed') (other : move ≠ .close) :
    timed'.queue.closed = timed.queue.closed := by
  cases change with
  | order => exact closed_addAfter
  | fire => exact closed_fire
  | close => exact absurd rfl other
  | take | tick | rest => rfl

/-- The timers are kept as they should be in every move. -/
theorem sound (change : Change timed move timed') (sound : timed.queue.Sound) : timed'.queue.Sound := by
  cases change with
  | order item delay failures =>
    have base : ({ timed.queue with failures } : Queue α).Sound := sound.of_eq rfl rfl rfl
    exact base.addAfter _ _ _
  | fire number => exact sound.fire number
  | tick => exact sound
  | take | close | rest => exact sound.of_eq rfl rfl rfl

/-- Until its timer falls due, an item does not wait longer than it has to. -/
theorem current (change : Change timed move timed') (onTime : timed.OnTime move)
    (current : ∀ timer ∈ timed.queue.timers, timed.now ≤ timer.due) :
    ∀ timer ∈ timed'.queue.timers, timed'.now ≤ timer.due := by
  intro timer htimer
  cases change with
  | order item delay failures =>
    rw [timers_addAfter] at htimer
    rcases List.mem_append.1 htimer with h | h
    · exact current timer h
    · split at h
      · exact absurd h List.not_mem_nil
      · rw [List.mem_singleton.1 h]
        exact Nat.le_add_right _ _
  | fire number =>
    rw [timers_fire] at htimer
    exact current timer (List.mem_filter.1 htimer).1
  | tick => exact onTime timer htimer
  | take | close | rest => exact current timer htimer

/-- What arrives and what is with a timer then is what is put in and what was with a timer. -/
theorem promises (change : Change timed move timed') (sound : timed.queue.Sound)
    (onTime : timed.OnTime move) :
    (timed.arrivalOf move : Multiset (α × Nat)) + timed'.promises =
      timed.orderOf move + timed.promises := by
  cases change with
  | order item delay failures order =>
    rw [arrivalOf, orderOf, arrival?_of_order? order, order, Timed.promises, Timed.promises,
      timers_addAfter]
    by_cases hdelay : delay = 0
    · simp [hdelay, waitFor]
    · simp [hdelay]
  | fire number =>
    rw [arrivalOf, arrival?, Timed.promises, Timed.promises]
    cases hfind : timed.queue.timers.find? (·.number == number) with
    | none =>
      rw [Queue.fire, hfind]
      rfl
    | some timer =>
      have hdue : timer.due = timed.now :=
        onTime timer (List.mem_of_find?_eq_some hfind) (by simpa using List.find?_some hfind)
      have hperm := (perm_of_find? sound.nodup hfind).map fun timer => (timer.item, timer.due)
      rw [timers_fire, Multiset.coe_eq_coe.2 hperm, List.map_cons, hdue]
      rfl
  | take | close | tick => rfl
  | rest processing failures order arrival =>
    rw [arrivalOf, orderOf, arrival, order]
    rfl

end Change

/-- A queue that is closed stays so. -/
theorem closed_act_of_closed (closed : timed.queue.closed = true) :
    (timed.act move).queue.closed = true := by
  by_cases h : move = .close
  · rw [h]
    rfl
  · rw [(act_change timed move).closed h, closed]

/-! ## Rows of moves -/

theorem closed_after_of_closed (closed : timed.queue.closed = true) (moves : List (Move α)) :
    (timed.after moves).queue.closed = true := by
  induction moves generalizing timed with
  | nil => exact closed
  | cons move rest ih => exact ih (closed_act_of_closed closed)

/-- A queue that nobody closes stays open. -/
theorem closed_after (opened : .close ∉ moves) :
    (timed.after moves).queue.closed = timed.queue.closed := by
  induction moves generalizing timed with
  | nil => rfl
  | cons move rest ih =>
    obtain ⟨hmove, hrest⟩ := not_or.1 (List.mem_cons.not.1 opened)
    rw [after_cons, ih hrest, (act_change timed move).closed (Ne.symm hmove)]

/-- A queue that has been closed hands out what it has, and nothing else. -/
theorem items_of_closed (closed : timed.queue.closed = true) (moves : List (Move α)) :
    timed.queue.items = timed.handed moves ++ (timed.after moves).queue.items := by
  induction moves generalizing timed with
  | nil => rfl
  | cons move rest ih =>
    have hitems := (act_change timed move).items
    rw [closed, if_pos rfl, List.append_nil] at hitems
    rw [handed, after_cons, List.append_assoc, ← ih (closed_act_of_closed closed), hitems]

/-- An open queue hands out, in their order, what it has and what it takes in. -/
theorem items_append_accepted (opened : timed.queue.closed = false) (moves : List (Move α)) :
    timed.queue.items ++ (timed.accepted moves).map Prod.fst =
      timed.handed moves ++ (timed.after moves).queue.items := by
  induction moves generalizing timed with
  | nil => simp [accepted, handed]
  | cons move rest ih =>
    by_cases h : move = .close
    · subst h
      have hclosed : (timed.act .close).queue.closed = true := rfl
      have hitems := items_of_closed hclosed rest
      rw [accepted, List.map_nil, List.append_nil]
      exact hitems
    · have change := act_change timed move
      have hitems := change.items
      rw [opened, if_neg Bool.false_ne_true] at hitems
      have harrival : (timed.arrivalOf move).map Prod.fst = (timed.arrival? move).toList := by
        rw [arrivalOf]
        cases timed.arrival? move <;> rfl
      rw [accepted_cons h, List.map_append, harrival, ← List.append_assoc, hitems, List.append_assoc,
        ih ((change.closed h).trans opened), handed, after_cons, List.append_assoc]

/-- So long as timers fall due on time and the queue is open, what has been taken in and what is with a timer is
    what was put in, each with the time at which its wait is over. -/
theorem accepted_add_promises (opened : .close ∉ moves) (sound : timed.queue.Sound)
    (punctual : timed.Punctual moves) :
    (timed.accepted moves : Multiset (α × Nat)) + (timed.after moves).promises =
      timed.orders moves + timed.promises := by
  induction moves generalizing timed with
  | nil => rfl
  | cons move rest ih =>
    obtain ⟨hmove, hrest⟩ := not_or.1 (List.mem_cons.not.1 opened)
    obtain ⟨onTime, punctual⟩ := punctual
    have change := act_change timed move
    have hrest := ih hrest (change.sound sound) punctual
    rw [accepted_cons (Ne.symm hmove), orders, after_cons, ← Multiset.coe_add, ← Multiset.coe_add,
      add_assoc, hrest, add_left_comm, change.promises sound onTime, add_left_comm, add_assoc]

/-- When timers fire in time, none that is still set was due before. -/
theorem current_after (punctual : timed.Punctual moves)
    (current : ∀ timer ∈ timed.queue.timers, timed.now ≤ timer.due) :
    ∀ timer ∈ (timed.after moves).queue.timers, (timed.after moves).now ≤ timer.due := by
  induction moves generalizing timed with
  | nil => exact current
  | cons move rest ih => exact ih punctual.2 ((act_change timed move).current punctual.1 current)

/-- What a consumer is told depends on what the queue holds and on whether it has been closed. -/
theorem handout_eq (queue : Queue α) :
    queue.take.2 =
      match queue.items with
      | [] => if queue.closed then .closed else .nothing
      | item :: _ => .item item := by
  cases hitems : queue.items with
  | nil => rw [take_of_nil hitems]
  | cons => rw [take_of_cons hitems]

end Timed

/-- A queue loses nothing and doubles nothing, whatever happens to it, so long as timers fall due on time. It hands
    out what it took in, in that order, and holds the rest. Until it is closed it has taken in all that was put in
    and need not wait any longer, each item when its wait was over, and has the rest with timers that are not
    overdue; and no consumer is told that it is closed. Once it is closed, it takes in nothing more and hands
    out what it held then, in that order; and when there is nothing left, consumers are told that it is closed. -/
theorem delivered_as_accepted {α : Type} [Keyed α] {start : Timed α} {name : String}
    {config : QueueConfig} (new : start.queue = { name, config }) {moves : List (Move α)}
    (punctual : start.Punctual moves) :
    start.handed moves ++ (start.after moves).queue.items = (start.accepted moves).map Prod.fst ∧
    (.close ∉ moves →
      (start.accepted moves : Multiset (α × Nat)) + (start.after moves).promises =
        start.orders moves ∧
      (∀ timer ∈ (start.after moves).queue.timers, (start.after moves).now ≤ timer.due) ∧
      (start.after moves).queue.take.2 ≠ .closed) ∧
    ∀ early late, moves = early ++ .close :: late →
      start.accepted moves = start.accepted early ∧
      ((start.after early).act .close).handed late ++ (start.after moves).queue.items =
        (start.after early).queue.items ∧
      (start.after moves).queue.take.2 =
        match (start.after moves).queue.items with
        | [] => .closed
        | item :: _ => .item item := by
  have opened : start.queue.closed = false := by rw [new]
  have sound : start.queue.Sound := by
    rw [new]
    exact (Sound.new config).of_eq rfl rfl rfl
  have current : ∀ timer ∈ start.queue.timers, start.now ≤ timer.due := by
    rw [new]
    exact nofun
  have none_held : start.queue.items = [] := by rw [new]
  have none_promised : start.promises = 0 := by
    rw [Timed.promises, new]
    rfl
  refine ⟨?_, fun hopen => ⟨?_, Timed.current_after punctual current, ?_⟩, ?_⟩
  · have h := Timed.items_append_accepted opened moves
    rw [none_held, List.nil_append] at h
    exact h.symm
  · have h := Timed.accepted_add_promises hopen sound punctual
    rwa [none_promised, add_zero] at h
  · rw [Timed.handout_eq, Timed.closed_after hopen, opened]
    cases (start.after moves).queue.items <;> exact nofun
  · rintro early late rfl
    have closed : ((start.after early).act .close).queue.closed = true := rfl
    rw [Timed.after_append, Timed.after_cons]
    refine ⟨Timed.accepted_append_close early late, (Timed.items_of_closed closed late).symm, ?_⟩
    rw [Timed.handout_eq, Timed.closed_after_of_closed closed]
    rfl

/-- A row of moves in which an item is put in after another one that has to wait, and the queue is closed when the
    wait is over. -/
def closing : List (Move Work.Item) :=
  [.addAfter (.flush (.named "b")) 5, .add (.flush (.named "a")), .take, .tick 5, .fire 0, .close,
    .add (.flush (.named "c")), .take]

/-- Of three items the one that comes after the closing is not accepted. The others are handed out in the order in which
    they came in, and then no more is promised. -/
theorem delivered_as_accepted_closing :
    let start : Timed Work.Item := {}
    start.Punctual closing ∧
      start.accepted closing = [(.flush (.named "a"), 0), (.flush (.named "b"), 5)] ∧
      start.handed closing ++ (start.after closing).queue.items =
        [.flush (.named "a"), .flush (.named "b")] ∧
      (start.after closing).queue.take.2 = .closed := by
  intro start
  have punctual : start.Punctual closing := by decide
  obtain ⟨delivered, -, late⟩ := delivered_as_accepted rfl punctual
  obtain ⟨-, -, told⟩ := late (closing.take 5) (closing.drop 6) rfl
  exact ⟨punctual, rfl, delivered, told⟩

/-- An item that has to wait for more than thirty years is taken in before its time. -/
theorem accepted_before_delay :
    let start : Timed Work.Item := {}
    let moves : List (Move Work.Item) :=
      [.addAfter (.flush (.named "a")) (longestWait + 1), .tick longestWait, .fire 0]
    start.Punctual moves ∧ start.accepted moves = [(.flush (.named "a"), longestWait)] ∧
      longestWait < start.now + (longestWait + 1) :=
  ⟨by decide, rfl, by decide⟩

end Queue

end NodeImages
