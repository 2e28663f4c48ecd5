import Mathlib.Algebra.Order.Floor.Div
import NodeImages.Proofs.Conclusion

/-!
# How long a run waits

A run that has been started looks at the table at once, and waits so long as a job of its image cache is open. It looks
again at regular intervals, and for the last time when the deadline has come. As no timer is set to more than thirty
years, no interval is longer than that.

* `moments`: the moments at which a run looks at the table;
* `Engine.sightsOf`, `Engine.Punctual`: what a run sees of the table, and that it is seen to in time;
* `WaitTurn`, `waitTurn`: what a run that waits makes of one move;
* `Waited`, `waited_after`: how far it has come with its wait after a row of moves;
* `waits_for_jobs`: it looks at these moments and at no others, and its wait ends at the first of them at which no job
  is open, or at the deadline.
-/

namespace NodeImages

/-! ## Moments -/

section

variable {start interval deadline n : Nat}

/-- The moments at which a run looks at the table that starts to wait at some time: at regular intervals while the
    deadline has not come, and at the deadline. -/
def moments (start interval deadline : Nat) : List Nat :=
  (List.range (deadline ⌈/⌉ interval)).map (start + · * interval) ++ [start + deadline]

/-- The moment of a number. -/
def moment (start interval deadline n : Nat) : Nat := start + min (n * interval) deadline

@[simp] theorem moment_zero : moment start interval deadline 0 = start := by
  rw [moment, Nat.zero_mul, Nat.zero_min, Nat.add_zero]

theorem moment_le : moment start interval deadline n ≤ start + deadline :=
  Nat.add_le_add_left (Nat.min_le_right _ _) _

/-- The deadline has not come at the moments before the last one. -/
theorem moment_lt_iff (positive : 0 < interval) :
    moment start interval deadline n < start + deadline ↔ n < deadline ⌈/⌉ interval := by
  rw [← Nat.not_le, ← Nat.not_le, ceilDiv_le_iff_le_mul positive, Nat.mul_comm, moment]
  omega

theorem moment_of_lt (positive : 0 < interval) (lt : n < deadline ⌈/⌉ interval) :
    moment start interval deadline n = start + n * interval := by
  have early : moment start interval deadline n < start + deadline := (moment_lt_iff positive).2 lt
  rw [moment] at early ⊢
  omega

theorem moment_ceilDiv (positive : 0 < interval) :
    moment start interval deadline (deadline ⌈/⌉ interval) = start + deadline :=
  Nat.le_antisymm moment_le (Nat.not_lt.1 fun lt => Nat.lt_irrefl _ ((moment_lt_iff positive).1 lt))

/-- From one moment to the next, it is an interval, or what is left until the deadline. -/
theorem moment_succ (early : moment start interval deadline n < start + deadline) :
    moment start interval deadline (n + 1) = moment start interval deadline n +
      min interval (start + deadline - moment start interval deadline n) := by
  rw [moment] at early
  rw [moment, moment, Nat.succ_mul]
  omega

theorem moments_eq (positive : 0 < interval) :
    moments start interval deadline =
      (List.range (deadline ⌈/⌉ interval + 1)).map (moment start interval deadline) := by
  rw [moments, List.range_succ, List.map_append, List.map_singleton, moment_ceilDiv positive]
  refine congrArg (· ++ _) (List.map_congr_left fun n hn => ?_)
  exact (moment_of_lt positive (List.mem_range.1 hn)).symm

end

theorem waitFor_min (asked left : Nat) : waitFor (min asked left) = min (waitFor asked) left :=
  Nat.min_right_comm _ _ _

theorem waitFor_pos {asked : Nat} (positive : 0 < asked) : 0 < waitFor asked :=
  Nat.lt_min.2 ⟨positive, by decide⟩

namespace Work

open Cluster

/-! ## Looks at the table -/

/-- What a run sees when it looks at the table. -/
structure Sight where
  time : Nat
  table : Table

/-- A job of an image cache is open when a run looks at the table. -/
def Sight.Pending (sight : Sight) (cacheKey : String) : Prop :=
  ∃ entry ∈ sight.table.entries, entry.cacheKey = cacheKey ∧ entry.result.status = .jobCreated

theorem Table.hasPendingFor_iff {table : Table} {cacheKey : String} :
    table.hasPendingFor cacheKey = true ↔
      ∃ entry ∈ table.entries, entry.cacheKey = cacheKey ∧ entry.result.status = .jobCreated := by
  simp only [hasPendingFor, List.any_eq_true, Bool.and_eq_true, beq_iff_eq, Entry.isPending, Status.isPending_iff,
    and_comm]

/-- Whether a run waits. -/
def Stage.isWaiting : Stage → Bool
  | fresh | sleeping _ _ => true
  | _ => false

theorem Stage.not_isWaiting_of_isFixed {stage : Stage} (h : stage.isFixed = true) : stage.isWaiting = false := by
  cases stage <;> first | rfl | cases h

/-- The time that passes in a move. -/
def Move.time? : Move → Option Nat
  | .tick time => some time
  | _ => none

namespace Engine

instance decidableAlong {property : Engine → Move → Prop} [∀ engine move, Decidable (property engine move)] :
    (engine : Engine) → (moves : List Move) → Decidable (engine.Along property moves)
  | _, [] => isTrue trivial
  | engine, move :: rest =>
    have : Decidable ((engine.act move).1.Along property rest) := decidableAlong _ rest
    inferInstanceAs (Decidable (property engine move ∧ (engine.act move).1.Along property rest))

/-- What a run sees of the table in a move. It looks at the table for the first time if the clock reaches as far as
    its deadline, and then whenever it has waited for long enough. -/
def sightsOf (engine : Engine) : Move → List Sight
  | .look number =>
    match engine.stageOf number with
    | .fresh =>
      if engine.now + engine.settings.deadlineMs ≤ engine.settings.lastTime then [⟨engine.now, engine.table⟩] else []
    | .sleeping _ wake => if wake ≤ engine.now then [⟨engine.now, engine.table⟩] else []
    | _ => []
  | _ => []

/-- A run can be left alone for some time: for none if it has just been started, or if it has been told to stop while
    it waits, and otherwise until its next look. -/
def CanWait (engine : Engine) (time : Nat) : Stage → Prop
  | .fresh => time = 0
  | .sleeping _ wake => engine.now + time ≤ wake ∧ (engine.stopping = true → time = 0)
  | _ => True

instance (engine : Engine) (time : Nat) : (stage : Stage) → Decidable (engine.CanWait time stage)
  | .fresh => inferInstanceAs (Decidable (time = 0))
  | .sleeping _ wake =>
    inferInstanceAs (Decidable (engine.now + time ≤ wake ∧ (engine.stopping = true → time = 0)))
  | .listingPods _ _ _ _ | .listingEvents _ _ _ _ _ | .resolving _ _ | .deleting _ _ _ | .collecting _ | .stuck
  | .ended _ => isTrue trivial

/-- A run is seen to in time, in a row of moves: time passes only so long as it can be left alone. -/
def Punctual (number : Nat) (engine : Engine) (moves : List Move) : Prop :=
  engine.Along (fun engine move => ∀ time ∈ move.time?, engine.CanWait time (engine.stageOf number)) moves

instance (number : Nat) (engine : Engine) (moves : List Move) : Decidable (engine.Punctual number moves) :=
  inferInstanceAs (Decidable (engine.Along _ moves))

/-- The time from one look at the table to the next. -/
def interval (engine : Engine) : Nat := waitFor engine.settings.pollMs

theorem settings_of_after (engine : Engine) (moves : List Move) : (engine.after moves).settings = engine.settings := by
  induction moves generalizing engine with
  | nil => rfl
  | cons move rest ih => exact (ih _).trans (settings_act engine move)

theorem nextRun_le_after (engine : Engine) (moves : List Move) : engine.nextRun ≤ (engine.after moves).nextRun := by
  induction moves generalizing engine with
  | nil => exact Nat.le_refl _
  | cons move rest ih => exact Nat.le_trans nextRun_le_act (ih _)

end Engine

/-! ## One move of a run that waits -/

/-- The failure of a run that is told to stop while it waits. -/
def stopped (cacheKey : String) : Failure :=
  ⟨.cancelled, ["Shutting down", s!"While waiting for jobs of {cacheKey}"]⟩

/-- The stage of a run that waits and has looked at the table a number of times. -/
def Engine.waiting (start : Engine) : Nat → Stage
  | 0 => .fresh
  | looks + 1 =>
    .sleeping (start.now + start.settings.deadlineMs)
      (moment start.now start.interval start.settings.deadlineMs (looks + 1))

theorem Engine.waiting_ne_ended (start : Engine) (looks : Nat) (outcome : Outcome Unit) :
    start.waiting looks ≠ .ended outcome := by
  cases looks <;> exact Stage.noConfusion

theorem Engine.isFixed_waiting (start : Engine) (looks : Nat) : (start.waiting looks).isFixed = false := by
  cases looks <;> rfl

/-- What a run that waits, and has looked at the table a number of times, makes of a move. -/
inductive WaitTurn (start : Engine) (number : Nat) (cacheKey : String) (guarded : Bool) (looks : Nat)
    (engine : Engine) (move : Move) : Prop
  /-- Nothing. -/
  | rest (found : (engine.act move).1.run? number = some ⟨number, cacheKey, guarded, start.waiting looks⟩)
      (unseen : move.run? = some number → engine.sightsOf move = [])
      (table : move.run? = some number → (engine.act move).1.table = engine.table)
  /-- It looks at the table, and waits on. -/
  | look (own : move.run? = some number) (seen : engine.sightsOf move = [⟨engine.now, engine.table⟩])
      (now : engine.now = moment start.now start.interval start.settings.deadlineMs looks)
      (pending : Sight.Pending ⟨engine.now, engine.table⟩ cacheKey)
      (early : engine.now < start.now + start.settings.deadlineMs)
      (found : (engine.act move).1.run? number = some ⟨number, cacheKey, guarded, start.waiting (looks + 1)⟩)
      (table : (engine.act move).1.table = engine.table)
  /-- It looks at the table, and its wait is over. -/
  | fix (own : move.run? = some number) (seen : engine.sightsOf move = [⟨engine.now, engine.table⟩])
      (now : engine.now = moment start.now start.interval start.settings.deadlineMs looks)
      (enough : ¬ Sight.Pending ⟨engine.now, engine.table⟩ cacheKey ∨
        engine.now = start.now + start.settings.deadlineMs)
      (found : (engine.act move).1.run? number =
        some ⟨number, cacheKey, guarded, Run.fixBatch (start.plan cacheKey) engine.table⟩)
      (table : (engine.act move).1.table = engine.table)
  /-- It is told to stop. -/
  | stop (own : move = .cancel number) (stopping : engine.stopping = true) (asleep : 0 < looks)
      (gone : (engine.act move).1.run? number = none)
      (ended : .ended number (.error (stopped cacheKey)) ∈ (engine.act move).2)
      (table : (engine.act move).1.table = engine.table)

section

variable {start engine : Engine} {number looks : Nat} {cacheKey : String} {guarded : Bool} {move : Move}

theorem Run.fixBatch_ne_ended {plan : RunPlan} {table : Table} (outcome : Outcome Unit) :
    fixBatch plan table ≠ .ended outcome := by
  intro h
  have fixed : (fixBatch plan table).isFixed = true := isFixed_fixBatch
  rw [h] at fixed
  exact Bool.false_ne_true fixed

/-- A run that looks at the table waits on if a job is open and the deadline has not come. -/
theorem inspect_of_pending
    (now : engine.now = moment start.now start.interval start.settings.deadlineMs looks)
    (pending : engine.table.hasPendingFor cacheKey = true)
    (early : engine.now < start.now + start.settings.deadlineMs) :
    Run.inspect (start.plan cacheKey) engine.now (start.now + start.settings.deadlineMs) engine.table =
      start.waiting (looks + 1) := by
  have pending' : engine.table.hasPendingFor (start.plan cacheKey).cacheKey = true := pending
  rw [Run.inspect, pending', Bool.not_true, Bool.false_or, if_neg (by simpa using early), waitFor_min, Engine.waiting,
    moment_succ (now ▸ early), ← now]
  rfl

/-- Otherwise its wait is over. -/
theorem inspect_of_enough {deadline : Nat}
    (enough : engine.table.hasPendingFor cacheKey = false ∨ deadline ≤ engine.now) :
    Run.inspect (start.plan cacheKey) engine.now deadline engine.table =
      Run.fixBatch (start.plan cacheKey) engine.table := by
  refine if_pos ?_
  rw [Bool.or_eq_true, Bool.not_eq_true', decide_eq_true_eq]
  exact enough

/-- When a run that waits comes to look, either it is too early for that, or the run inspects the table. -/
theorem look_waiting (clock : start.now + start.settings.deadlineMs ≤ start.settings.lastTime)
    (settings : engine.settings = start.settings) (since : start.now ≤ engine.now)
    (until' : engine.now ≤ moment start.now start.interval start.settings.deadlineMs looks)
    (found : engine.run? number = some ⟨number, cacheKey, guarded, start.waiting looks⟩) :
    (engine.sightsOf (.look number) = [] ∧
      engine.nextStage ⟨number, cacheKey, guarded, start.waiting looks⟩ (.look number) = start.waiting looks) ∨
    (engine.now = moment start.now start.interval start.settings.deadlineMs looks ∧
      engine.sightsOf (.look number) = [⟨engine.now, engine.table⟩] ∧
      engine.nextStage ⟨number, cacheKey, guarded, start.waiting looks⟩ (.look number) =
        Run.inspect (start.plan cacheKey) engine.now (start.now + start.settings.deadlineMs) engine.table) := by
  have plan : engine.plan cacheKey = start.plan cacheKey := by rw [Engine.plan, Engine.plan, settings]
  rw [Engine.sightsOf, Engine.stageOf_of_run? found, Engine.nextStage, plan]
  dsimp only
  cases looks with
  | zero =>
    -- The first look is due at once.
    right
    rw [moment_zero] at until' ⊢
    have now := Nat.le_antisymm until' since
    rw [Engine.waiting, settings, Run.look, now]
    exact ⟨rfl, if_pos clock, if_neg (Nat.not_lt.2 clock)⟩
  | succ looks =>
    rw [Engine.waiting, Run.look]
    dsimp only
    rcases Nat.lt_or_eq_of_le until' with early | now
    · exact .inl ⟨if_neg (Nat.not_le.2 early), if_neg (Nat.not_le.2 early)⟩
    · exact .inr ⟨now, if_pos (Nat.le_of_eq now.symm), if_pos (Nat.le_of_eq now.symm)⟩

/-- What a run that waits makes of a look. -/
theorem waitTurn_look (clock : start.now + start.settings.deadlineMs ≤ start.settings.lastTime)
    (settings : engine.settings = start.settings) (since : start.now ≤ engine.now)
    (until' : engine.now ≤ moment start.now start.interval start.settings.deadlineMs looks)
    (found : engine.run? number = some ⟨number, cacheKey, guarded, start.waiting looks⟩) :
    WaitTurn start number cacheKey guarded looks engine (.look number) := by
  have own : (Move.look number).run? = some number := rfl
  have comes : Comes ⟨number, cacheKey, guarded, start.waiting looks⟩ _ _ _ _ _ := Comes.of_own own found rfl
  rcases look_waiting clock settings since until' found with ⟨unseen, next⟩ | ⟨now, seen, next⟩
  · rw [next] at comes
    exact .rest (comes.going (start.waiting_ne_ended looks)) (fun _ => unseen) fun _ => comes.table
  · by_cases goes : engine.table.hasPendingFor cacheKey = true ∧ engine.now < start.now + start.settings.deadlineMs
    · obtain ⟨pending, early⟩ := goes
      rw [next, inspect_of_pending now pending early] at comes
      exact .look own seen now (Table.hasPendingFor_iff.1 pending) early (comes.going fun _ => Stage.noConfusion)
        comes.table
    · -- No moment is later than the deadline, so it has just come if it has.
      have enough := Decidable.not_and_iff_not_or_not.1 goes
      rw [next, inspect_of_enough (enough.imp Bool.eq_false_iff.2 Nat.not_lt.1)] at comes
      refine .fix own seen now (enough.imp (mt Table.hasPendingFor_iff.2) fun late => ?_)
        (comes.going Run.fixBatch_ne_ended) comes.table
      exact Nat.le_antisymm (now ▸ moment_le) (Nat.not_lt.1 late)

/-- A run that is not told to stop, and does not look at the table, waits on in its moves. -/
theorem waitTurn_stay (own : move.run? = some number) (heeds : engine.heeds move = true)
    (found : engine.run? number = some ⟨number, cacheKey, guarded, start.waiting looks⟩)
    (stay : engine.nextStage ⟨number, cacheKey, guarded, start.waiting looks⟩ move = start.waiting looks)
    (table : engine.nextTable ⟨number, cacheKey, guarded, start.waiting looks⟩ move = engine.table)
    (unseen : engine.sightsOf move = []) : WaitTurn start number cacheKey guarded looks engine move := by
  have comes : Comes ⟨number, cacheKey, guarded, start.waiting looks⟩ _ _ _ _ _ := Comes.of_own own found heeds
  rw [stay, table] at comes
  exact .rest (comes.going (start.waiting_ne_ended looks)) (fun _ => unseen) fun _ => comes.table

/-- What a run that waits makes of any move. -/
theorem waitTurn (clock : start.now + start.settings.deadlineMs ≤ start.settings.lastTime)
    (settings : engine.settings = start.settings) (since : start.now ≤ engine.now)
    (until' : engine.now ≤ moment start.now start.interval start.settings.deadlineMs looks)
    (found : engine.run? number = some ⟨number, cacheKey, guarded, start.waiting looks⟩) (move : Move) :
    WaitTurn start number cacheKey guarded looks engine move := by
  by_cases own : move.run? = some number
  · cases move with
    | look =>
      obtain rfl := (Option.some.inj own).symm
      exact waitTurn_look clock settings since until' found
    | cancel =>
      obtain rfl := (Option.some.inj own).symm
      by_cases stopping : engine.stopping = true
      · cases looks with
        | zero => exact waitTurn_stay own stopping found rfl rfl rfl
        | succ looks =>
          have comes : Comes ⟨number, cacheKey, guarded, start.waiting (looks + 1)⟩ _ _ _ _ _ :=
            Comes.of_own own found stopping
          exact .stop rfl stopping (Nat.succ_pos _) (comes.gone _ rfl) ((comes.ended _).2 rfl) comes.table
      · have idle : engine.act (.cancel number) = (engine, []) := if_neg stopping
        exact .rest (by rw [idle]; exact found) (fun _ => rfl) fun _ => by rw [idle]
    | pods | events | expire | deleted | collect => cases looks <;> exact waitTurn_stay own rfl found rfl rfl rfl
    | _ => exact absurd own (Option.some_ne_none _).symm
  · exact .rest (Engine.run?_act_of_other own found) (fun h => absurd h own) fun h => absurd h own

end

/-! ## Rows of moves -/

section

variable (start : Engine) (number : Nat) (cacheKey : String) (moves : List Move)

/-- How far a run has come with its wait after a row of moves, and what it has seen. -/
inductive Waited : Prop
  /-- It waits: it has found open jobs so far, and the next look is still to come. -/
  | on (guarded : Bool) (looks : Nat) (le : looks ≤ start.settings.deadlineMs ⌈/⌉ start.interval)
      (found : (start.after moves).run? number = some ⟨number, cacheKey, guarded, start.waiting looks⟩)
      (times : (start.ofRun Engine.sightsOf number moves).map Sight.time =
        (List.range looks).map (moment start.now start.interval start.settings.deadlineMs))
      (pending : ∀ sight ∈ start.ofRun Engine.sightsOf number moves, sight.Pending cacheKey)
      (until' : (start.after moves).now ≤ moment start.now start.interval start.settings.deadlineMs looks)
  /-- Its wait is over: it has found open jobs until then. -/
  | finished (looks : Nat) (le : looks ≤ start.settings.deadlineMs ⌈/⌉ start.interval + 1)
      (done : ((start.after moves).stageOf number).isWaiting = false)
      (times : (start.ofRun Engine.sightsOf number moves).map Sight.time =
        (List.range looks).map (moment start.now start.interval start.settings.deadlineMs))
      (pending : ∀ sight ∈ (start.ofRun Engine.sightsOf number moves).dropLast, sight.Pending cacheKey)

end

section

variable {start engine : Engine} {number looks : Nat} {cacheKey : String} {guarded : Bool} {move : Move}
  {moves : List Move}

/-- A run that does not wait sees nothing. -/
theorem sightsOf_of_done (done : (engine.stageOf number).isWaiting = false) (own : move.run? = some number) :
    engine.sightsOf move = [] := by
  cases move with
  | look =>
    obtain rfl := (Option.some.inj own).symm
    rw [Engine.sightsOf]
    cases hstage : engine.stageOf number with
    | fresh | sleeping =>
      rw [hstage] at done
      cases done
    | _ => rfl
  | _ => rfl

/-- A run that does not wait never does so again. -/
theorem done_act (done : (engine.stageOf number).isWaiting = false) (lt : number < engine.nextRun) (move : Move) :
    ((engine.act move).1.stageOf number).isWaiting = false := by
  have ended (gone : (engine.act move).1.run? number = none) :
      ((engine.act move).1.stageOf number).isWaiting = false := by
    rw [Engine.stageOf, gone]
    rfl
  cases found : engine.run? number with
  | none => exact ended (Engine.run?_act_of_none lt found)
  | some run =>
    obtain rfl := (Engine.mem_of_run? found).2
    rw [Engine.stageOf_of_run? found] at done
    by_cases own : move.run? = some run.number
    · cases (turn_of_own own found : Turn engine run move _ _ _) with
      | rest _ found' =>
        rw [Engine.stageOf_of_run? found']
        exact done
      | step going _ found' =>
        rw [Engine.stageOf_of_run? found']
        have advance : Advance engine run move (engine.nextStage run move) := advance_of_own own
        generalize engine.nextStage run move = stage at advance
        cases advance with
        | stay => exact done
        | @inspect deadline waits =>
          cases hstage : run.stage with
          | fresh | sleeping =>
            rw [hstage] at done
            cases done
          | _ =>
            rw [hstage] at waits
            cases waits
        | @expire _ _ rest | @hear _ _ _ rest => cases rest <;> rfl
        | @resolve _ _ jobs => cases jobs <;> rfl
        | @delete _ _ rest => cases rest <;> rfl
        | _ => rfl
      | stop _ _ _ gone | collect _ _ _ _ _ gone => exact ended gone
    · rw [Engine.stageOf_of_run? (Engine.run?_act_of_other own found)]
      exact done

/-- A run that is seen to in time does not miss its next look. -/
theorem now_le_of_canWait (patient : ∀ time ∈ move.time?, engine.CanWait time (engine.stageOf number))
    (stage : engine.stageOf number = start.waiting looks)
    (until' : engine.now ≤ moment start.now start.interval start.settings.deadlineMs looks) :
    (engine.act move).1.now ≤ moment start.now start.interval start.settings.deadlineMs looks := by
  by_cases tick : ∃ time, move = .tick time
  · obtain ⟨time, rfl⟩ := tick
    have left := patient time rfl
    rw [stage] at left
    cases looks with
    | zero =>
      have none : time = 0 := left
      rw [none]
      exact until'
    | succ looks => exact left.1
  · rw [Engine.now_act fun time h => tick ⟨time, h⟩]
    exact until'

/-- One more move of a row. -/
theorem Waited.concat (positive : 0 < start.interval)
    (clock : start.now + start.settings.deadlineMs ≤ start.settings.lastTime) (lt : number < start.nextRun)
    (waited : Waited start number cacheKey moves)
    (patient : ∀ time ∈ move.time?, (start.after moves).CanWait time ((start.after moves).stageOf number)) :
    Waited start number cacheKey (moves ++ [move]) := by
  have settings := start.settings_of_after moves
  have since := start.now_le_after moves
  cases waited with
  | on guarded looks le found times pending until' =>
    have stage := Engine.stageOf_of_run? found
    -- What is seen in the move comes at the end.
    have seen {sight : Sight} (own : move.run? = some number) (h : (start.after moves).sightsOf move = [sight]) :
        start.ofRun Engine.sightsOf number (moves ++ [move]) =
          start.ofRun Engine.sightsOf number moves ++ [sight] := by
      rw [Engine.ofRun_concat_of_own own, h]
    have times' {sight : Sight} (now : sight.time = moment start.now start.interval start.settings.deadlineMs looks) :
        (start.ofRun Engine.sightsOf number moves ++ [sight]).map Sight.time =
          (List.range (looks + 1)).map (moment start.now start.interval start.settings.deadlineMs) := by
      rw [List.map_append, times, List.map_singleton, now, List.range_succ, List.map_append, List.map_singleton]
    cases waitTurn clock settings since until' found move with
    | rest found' unseen =>
      rw [← Engine.after_concat] at found'
      have same := Engine.ofRun_concat_of_nil unseen
      refine .on guarded looks le found' (same ▸ times) (same ▸ pending) ?_
      rw [Engine.after_concat]
      exact now_le_of_canWait patient stage until'
    | look own seen' now open' early found' =>
      -- The deadline has not come, and so there is another moment.
      have lt' := (moment_lt_iff positive).1 (now ▸ early)
      have same := seen own seen'
      have tick : ∀ time, move ≠ .tick time := by
        rintro time rfl
        cases own
      rw [← Engine.after_concat] at found'
      refine .on guarded (looks + 1) lt' found' (same ▸ times' now) ?_ ?_
      · rw [same]
        intro sight hsight
        rcases List.mem_append.1 hsight with hsight | hsight
        · exact pending sight hsight
        · rw [List.mem_singleton.1 hsight]
          exact open'
      · rw [Engine.after_concat, Engine.now_act tick, moment_succ (now ▸ early), ← now]
        exact Nat.le_add_right _ _
    | fix own seen' now _ found' =>
      have same := seen own seen'
      rw [← Engine.after_concat] at found'
      refine .finished (looks + 1) (Nat.succ_le_succ le) ?_ (same ▸ times' now) ?_
      · rw [Engine.stageOf_of_run? found']
        exact Stage.not_isWaiting_of_isFixed Run.isFixed_fixBatch
      · rw [same, List.dropLast_concat]
        exact pending
    | stop own _ _ gone =>
      -- It does not look again before it ends.
      have same : start.ofRun Engine.sightsOf number (moves ++ [move]) = start.ofRun Engine.sightsOf number moves :=
        Engine.ofRun_concat_of_nil fun _ => by rw [own]; rfl
      refine .finished looks (Nat.le_succ_of_le le) ?_ (same ▸ times) fun sight hsight => ?_
      · rw [Engine.after_concat, Engine.stageOf, gone]
        rfl
      · rw [same] at hsight
        exact pending sight (List.mem_of_mem_dropLast hsight)
  | finished looks le done times pending =>
    have same : start.ofRun Engine.sightsOf number (moves ++ [move]) = start.ofRun Engine.sightsOf number moves :=
      Engine.ofRun_concat_of_nil (sightsOf_of_done done)
    have lt' := Nat.lt_of_lt_of_le lt (start.nextRun_le_after moves)
    refine .finished looks le ?_ (same ▸ times) (same ▸ pending)
    rw [Engine.after_concat]
    exact done_act done lt' move

/-- A run that is about to begin keeps to its moments, along every row of moves in which it is seen to in time. -/
theorem waited_after (begins : start.Begins cacheKey number) (positive : 0 < start.interval)
    (clock : start.now + start.settings.deadlineMs ≤ start.settings.lastTime) (punctual : start.Punctual number moves) :
    Waited start number cacheKey moves := by
  induction moves using List.reverseRecOn with
  | nil =>
    obtain ⟨guarded, found⟩ := begins.found
    exact .on guarded 0 (Nat.zero_le _) found rfl (fun _ h => absurd h List.not_mem_nil) (Nat.le_of_eq moment_zero.symm)
  | append_singleton moves move ih =>
    obtain ⟨punctual, patient⟩ := Engine.along_concat.1 punctual
    exact (ih punctual).concat positive clock begins.lt patient

/-- Only from its wait, a run comes to fix its batch. -/
theorem Run.Step.isWaiting {plan : RunPlan} {now : Nat} {table table' : Table} {stage stage' : Stage}
    {deletions : List Deletion} (step : Step plan now table stage deletions table' stage')
    (unfixed : stage.isFixed = false) (fixed' : stage'.isFixed = true) : stage.isWaiting = true := by
  cases step with
  | fix waits => cases stage <;> first | rfl | cases waits
  | idle =>
    rw [unfixed] at fixed'
    exact absurd fixed' Bool.false_ne_true
  | wait | stick | fail => exact absurd fixed' Bool.false_ne_true
  | _ => exact absurd unfixed.symm Bool.false_ne_true

theorem Engine.EndsWait.isWaiting (ends : engine.EndsWait number move) : (engine.stageOf number).isWaiting = true := by
  obtain ⟨own, unfixed, fixed⟩ := ends
  have gone (none : (engine.act move).1.run? number = none) : (engine.stageOf number).isWaiting = true := by
    rw [stageOf, none] at fixed
    exact absurd fixed Bool.false_ne_true
  cases found : engine.run? number with
  | none => exact gone (by rw [act_of_none own found, found])
  | some run =>
    obtain rfl := (mem_of_run? found).2
    rw [stageOf_of_run? found] at unfixed ⊢
    cases (turn_of_own own found : Turn engine run move _ _ _) with
    | rest _ found' =>
      rw [stageOf_of_run? found', unfixed] at fixed
      exact absurd fixed Bool.false_ne_true
    | step _ step found' =>
      rw [stageOf_of_run? found'] at fixed
      exact step.isWaiting unfixed fixed
    | stop _ _ _ none | collect _ _ _ _ _ none =>
      exact absurd fixed (by rw [stageOf, none]; exact Bool.false_ne_true)

/-- What a run sees in a move is that no job is open, or that the deadline has come. -/
def Engine.SeesEnd (start engine : Engine) (number : Nat) (cacheKey : String) (move : Move) : Prop :=
  move.run? = some number ∧ ∃ sight, engine.sightsOf move = [sight] ∧
    (¬ sight.Pending cacheKey ∨ sight.time = start.now + start.settings.deadlineMs)

/-- The wait of a run ends in a move in which it sees that, and in no other move. -/
theorem Waited.ends (clock : start.now + start.settings.deadlineMs ≤ start.settings.lastTime)
    (waited : Waited start number cacheKey moves) (move : Move) :
    ((start.after moves).EndsWait number move ∧ start.SeesEnd (start.after moves) number cacheKey move ∧
        ((start.after moves).act move).1.stageOf number =
          Run.fixBatch (start.plan cacheKey) (start.after moves).table) ∨
      (¬ (start.after moves).EndsWait number move ∧ ¬ start.SeesEnd (start.after moves) number cacheKey move) := by
  cases waited with
  | on guarded looks _ found _ _ until' =>
    have waits : ((start.after moves).stageOf number).isFixed = false := by
      rw [Engine.stageOf_of_run? found]
      exact start.isFixed_waiting looks
    have unfixed {stage : Stage} (found' : ((start.after moves).act move).1.stageOf number = stage)
        (h : stage.isFixed = false) : ¬ (start.after moves).EndsWait number move := by
      rintro ⟨-, -, fixed⟩
      rw [found', h] at fixed
      exact Bool.false_ne_true fixed
    cases waitTurn clock (start.settings_of_after moves) (start.now_le_after moves) until' found move with
    | rest found' unseen =>
      refine .inr ⟨unfixed (Engine.stageOf_of_run? found') (start.isFixed_waiting looks), ?_⟩
      rintro ⟨own, sight, seen, -⟩
      rw [unseen own] at seen
      exact List.cons_ne_nil _ _ seen.symm
    | look own seen _ open' early found' =>
      refine .inr ⟨unfixed (Engine.stageOf_of_run? found') rfl, ?_⟩
      rintro ⟨-, sight, seen', enough⟩
      obtain rfl := (List.cons.inj (seen.symm.trans seen')).1
      exact enough.elim (fun none => none open') (Nat.ne_of_lt early)
    | fix own seen _ enough found' =>
      have stage := Engine.stageOf_of_run? found'
      exact .inl ⟨⟨own, waits, by rw [stage]; exact Run.isFixed_fixBatch⟩, ⟨own, _, seen, enough⟩, stage⟩
    | stop own _ _ gone =>
      have stage : ((start.after moves).act move).1.stageOf number = .ended (.ok ()) := by
        rw [Engine.stageOf, gone]
        rfl
      refine .inr ⟨unfixed stage rfl, ?_⟩
      rintro ⟨-, sight, seen, -⟩
      rw [own] at seen
      exact List.cons_ne_nil _ _ seen.symm
  | finished _ _ done =>
    refine .inr ⟨fun ends => ?_, ?_⟩
    · rw [ends.isWaiting] at done
      exact Bool.noConfusion done
    · rintro ⟨own, sight, seen, -⟩
      rw [sightsOf_of_done done own] at seen
      exact List.cons_ne_nil _ _ seen.symm

/-- While it waits, a run leaves the table alone. -/
theorem Waited.table_eq (clock : start.now + start.settings.deadlineMs ≤ start.settings.lastTime)
    (waited : Waited start number cacheKey moves) (own : move.run? = some number)
    (waits : ((start.after moves).stageOf number).isWaiting = true) :
    ((start.after moves).act move).1.table = (start.after moves).table := by
  cases waited with
  | on guarded looks _ found _ _ until' =>
    cases waitTurn clock (start.settings_of_after moves) (start.now_le_after moves) until' found move with
    | rest _ _ table => exact table own
    | look _ _ _ _ _ _ table | fix _ _ _ _ _ table | stop _ _ _ _ _ table => exact table
  | finished _ _ done =>
    rw [waits] at done
    exact absurd done.symm Bool.false_ne_true

/-- A run that is told to stop while it waits fails, for that reason. -/
theorem ended_of_cancel {deadline wake : Nat}
    (found : engine.run? number = some ⟨number, cacheKey, guarded, .sleeping deadline wake⟩)
    (stopping : engine.stopping = true) :
    .ended number (.error (stopped cacheKey)) ∈ (engine.act (.cancel number)).2 := by
  have own : (Move.cancel number).run? = some number := rfl
  have comes : Comes ⟨number, cacheKey, guarded, .sleeping deadline wake⟩ _ _ _ _ _ := Comes.of_own own found stopping
  exact (comes.ended _).2 rfl

/-- No time passes while a run that is told to stop waits. -/
theorem now_act_of_stopping (found : engine.run? number = some ⟨number, cacheKey, guarded, start.waiting (looks + 1)⟩)
    (stopping : engine.stopping = true)
    (patient : ∀ time ∈ move.time?, engine.CanWait time (engine.stageOf number)) :
    (engine.act move).1.now = engine.now := by
  by_cases tick : ∃ time, move = .tick time
  · obtain ⟨time, rfl⟩ := tick
    have left := patient time rfl
    rw [Engine.stageOf_of_run? found] at left
    have none : time = 0 := left.2 stopping
    rw [none]
    rfl
  · exact Engine.now_act fun time h => tick ⟨time, h⟩

/-- A run that is told to stop before its next look is due does nothing else, and no time passes until then. -/
theorem stopped_at_once (clock : start.now + start.settings.deadlineMs ≤ start.settings.lastTime)
    (settings : engine.settings = start.settings) (since : start.now ≤ engine.now)
    (found : engine.run? number = some ⟨number, cacheKey, guarded, start.waiting (looks + 1)⟩)
    (stopping : engine.stopping = true)
    (early : engine.now < moment start.now start.interval start.settings.deadlineMs (looks + 1))
    (punctual : engine.Punctual number moves) :
    ((engine.after moves).stageOf number = start.waiting (looks + 1) ∧ (engine.after moves).now = engine.now) ∨
      .ended number (.error (stopped cacheKey)) ∈ engine.notes moves := by
  induction moves generalizing engine with
  | nil => exact .inl ⟨Engine.stageOf_of_run? found, rfl⟩
  | cons move rest ih =>
    rw [Engine.notes]
    cases waitTurn clock settings since (Nat.le_of_lt early) found move with
    | rest found' =>
      have now := now_act_of_stopping found stopping punctual.1
      rcases ih ((engine.settings_act move).trans settings) (now ▸ since) found' (Engine.stopping_act stopping move)
        (now ▸ early) punctual.2 with ⟨stage, same⟩ | ended
      · exact .inl ⟨stage, same.trans now⟩
      · exact .inr (List.mem_append_right _ ended)
    -- It is too early for a look.
    | look _ _ now | fix _ _ now => exact absurd now (Nat.ne_of_lt early)
    | stop _ _ _ _ ended => exact .inr (List.mem_append_left _ ended)

end

/-! ## The wait -/

/-- A run waits for the jobs of its image cache, and no longer than it has to. -/
structure WaitsOnTime (start : Engine) (number : Nat) (cacheKey : String) (moves : List Move) : Prop where
  /-- It looks at the table at its moments, one after the other, and at no other times. -/
  times : (start.ofRun Engine.sightsOf number moves).map Sight.time <+:
    moments start.now start.interval start.settings.deadlineMs
  /-- At all of them but the last one, a job was open. -/
  pending : ∀ sight ∈ (start.ofRun Engine.sightsOf number moves).dropLast, sight.Pending cacheKey
  /-- Its wait ends when it sees that no job is open, or that the deadline has come, and not otherwise. It goes on with
      the table as it sees it then. -/
  ends : ∀ early move late, moves = early ++ move :: late →
    ((start.after early).EndsWait number move ↔ start.SeesEnd (start.after early) number cacheKey move) ∧
    ((start.after early).EndsWait number move → ((start.after early).act move).1.stageOf number =
      Run.fixBatch (start.plan cacheKey) (start.after early).table)
  /-- So long as it waits, a job was open whenever it looked, its next moment has not passed, and it will look then. -/
  next : ((start.after moves).stageOf number).isWaiting = true →
    (∀ sight ∈ start.ofRun Engine.sightsOf number moves, sight.Pending cacheKey) ∧
    ∃ wake later, moments start.now start.interval start.settings.deadlineMs =
        (start.ofRun Engine.sightsOf number moves).map Sight.time ++ wake :: later ∧
      (start.after moves).now ≤ wake ∧
      ((start.after moves).now = wake →
        (start.after moves).sightsOf (.look number) = [⟨wake, (start.after moves).table⟩])
  /-- It does not wait when the deadline has passed. -/
  late : start.now + start.settings.deadlineMs < (start.after moves).now →
    ((start.after moves).stageOf number).isWaiting = false
  /-- It looks at most once more than there are intervals until the deadline. -/
  count : (start.ofRun Engine.sightsOf number moves).length ≤ start.settings.deadlineMs ⌈/⌉ start.interval + 1
  /-- While it waits, it leaves the table alone. -/
  table : ∀ early move late, moves = early ++ move :: late → move.run? = some number →
    ((start.after early).stageOf number).isWaiting = true →
    ((start.after early).act move).1.table = (start.after early).table
  /-- It fails when it is told to stop while it waits, at once unless it is to look at the table just then. -/
  stops : ∀ early late deadline wake, moves = early ++ late →
    (start.after early).stageOf number = .sleeping deadline wake → (start.after early).stopping = true →
    .ended number (.error (stopped cacheKey)) ∈ ((start.after early).act (.cancel number)).2 ∧
    ((start.after early).now < wake →
      ((start.after moves).stageOf number = .sleeping deadline wake ∧
          (start.after moves).now = (start.after early).now) ∨
        .ended number (.error (stopped cacheKey)) ∈ (start.after early).notes late)

/-- The moments are those at which a run has looked, and the others. -/
theorem moments_split (start : Nat) {interval deadline looks : Nat} (positive : 0 < interval)
    (le : looks ≤ deadline ⌈/⌉ interval + 1) :
    ∃ later, moments start interval deadline = (List.range looks).map (moment start interval deadline) ++ later := by
  obtain ⟨rest, heq⟩ := Nat.exists_eq_add_of_le le
  rw [moments_eq positive, heq, List.range_add, List.map_append]
  exact ⟨_, rfl⟩

/-- So long as there is another one, it is the next one. -/
theorem moments_split_next (start : Nat) {interval deadline looks : Nat} (positive : 0 < interval)
    (le : looks ≤ deadline ⌈/⌉ interval) :
    ∃ later, moments start interval deadline =
      (List.range looks).map (moment start interval deadline) ++ moment start interval deadline looks :: later := by
  obtain ⟨rest, heq⟩ := Nat.exists_eq_add_of_le le
  rw [moments_eq positive, heq, Nat.add_assoc, List.range_add, List.range_succ_eq_map, List.map_append, List.map_cons,
    List.map_cons, Nat.add_zero]
  exact ⟨_, rfl⟩

section

variable {start : Engine} {number looks : Nat} {cacheKey : String} {guarded : Bool} {moves : List Move}

/-- A run that waits looks at the table at its next moment. -/
theorem sightsOf_due (clock : start.now + start.settings.deadlineMs ≤ start.settings.lastTime)
    (found : (start.after moves).run? number = some ⟨number, cacheKey, guarded, start.waiting looks⟩)
    (now : (start.after moves).now = moment start.now start.interval start.settings.deadlineMs looks) :
    (start.after moves).sightsOf (.look number) = [⟨(start.after moves).now, (start.after moves).table⟩] := by
  rw [Engine.sightsOf, Engine.stageOf_of_run? found]
  cases looks with
  | zero =>
    rw [moment_zero] at now
    exact if_pos (by rwa [start.settings_of_after, now])
  | succ looks => exact if_pos (Nat.le_of_eq now.symm)

/-- The times at which a run has looked are its first moments. -/
theorem Waited.times_prefix (positive : 0 < start.interval) (waited : Waited start number cacheKey moves) :
    (start.ofRun Engine.sightsOf number moves).map Sight.time <+:
      moments start.now start.interval start.settings.deadlineMs := by
  cases waited with
  | on _ looks le _ times =>
    obtain ⟨later, split⟩ := moments_split_next start.now positive le
    exact ⟨_, by rw [times, ← split]⟩
  | finished looks le _ times =>
    obtain ⟨later, split⟩ := moments_split start.now positive le
    exact ⟨later, by rw [times, ← split]⟩

/-- A run that waits has another moment to come, and looks at the table then. -/
theorem Waited.next (positive : 0 < start.interval)
    (clock : start.now + start.settings.deadlineMs ≤ start.settings.lastTime)
    (waited : Waited start number cacheKey moves) (waits : ((start.after moves).stageOf number).isWaiting = true) :
    (∀ sight ∈ start.ofRun Engine.sightsOf number moves, sight.Pending cacheKey) ∧
    ∃ wake later, moments start.now start.interval start.settings.deadlineMs =
        (start.ofRun Engine.sightsOf number moves).map Sight.time ++ wake :: later ∧
      (start.after moves).now ≤ wake ∧
      ((start.after moves).now = wake →
        (start.after moves).sightsOf (.look number) = [⟨wake, (start.after moves).table⟩]) := by
  cases waited with
  | on _ looks le found times pending until' =>
    obtain ⟨later, split⟩ := moments_split_next start.now positive le
    exact ⟨pending, _, later, by rw [times, split], until', fun now => now ▸ sightsOf_due clock found now⟩
  | finished _ _ done =>
    rw [done] at waits
    exact absurd waits Bool.false_ne_true

/-- A run that is told to stop while it waits fails, at once unless it is to look at the table just then. -/
theorem Waited.stops {deadline wake : Nat} {late : List Move}
    (clock : start.now + start.settings.deadlineMs ≤ start.settings.lastTime)
    (waited : Waited start number cacheKey moves)
    (asleep : (start.after moves).stageOf number = .sleeping deadline wake)
    (stopping : (start.after moves).stopping = true) (punctual : (start.after moves).Punctual number late) :
    .ended number (.error (stopped cacheKey)) ∈ ((start.after moves).act (.cancel number)).2 ∧
    ((start.after moves).now < wake →
      ((start.after (moves ++ late)).stageOf number = .sleeping deadline wake ∧
          (start.after (moves ++ late)).now = (start.after moves).now) ∨
        .ended number (.error (stopped cacheKey)) ∈ (start.after moves).notes late) := by
  rw [Engine.after_append]
  cases waited with
  | on guarded looks _ found =>
    have stage : start.waiting looks = _ := (Engine.stageOf_of_run? found).symm.trans asleep
    refine ⟨ended_of_cancel (stage ▸ found) stopping, fun early => ?_⟩
    cases looks with
    | zero => cases stage
    | succ looks =>
      obtain ⟨-, rfl⟩ := Stage.sleeping.inj stage
      rw [← stage]
      exact stopped_at_once clock (start.settings_of_after moves) (start.now_le_after moves) found stopping early
        punctual
  | finished _ _ done =>
    rw [asleep] at done
    cases done

end

/-- A run waits for the jobs of its image cache, and no longer than it has to. Take a run that is about to begin, with
    any interval between two looks at the table, and any time that jobs may take such that the clock reaches as far as
    the deadline; and any row of moves, whatever others do to the table meanwhile, in which the run is seen to in time.
    The run looks at the table at once, then at regular intervals so long as the deadline has not come, and for the
    last time at the deadline. Its wait ends at the first of these moments at which no job is open, and otherwise at
    the deadline; and if it is told to stop while it waits, it fails for that reason. -/
theorem waits_for_jobs (start : Engine) (number : Nat) (cacheKey : String) (begins : start.Begins cacheKey number)
    (poll : 0 < start.settings.pollMs) (clock : start.now + start.settings.deadlineMs ≤ start.settings.lastTime)
    (moves : List Move) (punctual : start.Punctual number moves) : WaitsOnTime start number cacheKey moves := by
  have positive : 0 < start.interval := waitFor_pos poll
  -- How far the run has come is known after each part of the row.
  have waited {early late : List Move} (split : moves = early ++ late) : Waited start number cacheKey early := by
    rw [split] at punctual
    exact waited_after begins positive clock (Engine.along_append.1 punctual).1
  have whole : Waited start number cacheKey moves := waited (List.append_nil moves).symm
  have times := whole.times_prefix positive
  refine ⟨times, ?_, fun early move late split => ?_, whole.next positive clock, fun passed => ?_, ?_,
    fun early move late split => (waited split).table_eq clock,
    fun early late deadline wake split asleep stopping => ?_⟩
  · cases whole with
    | on _ _ _ _ _ pending => exact fun sight h => pending sight (List.mem_of_mem_dropLast h)
    | finished _ _ _ _ pending => exact pending
  · rcases (waited split).ends clock move with ⟨ends, sees, stage⟩ | ⟨going, unseen⟩
    · exact ⟨iff_of_true ends sees, fun _ => stage⟩
    · exact ⟨iff_of_false going unseen, fun ends => absurd ends going⟩
  · cases whole with
    | on _ _ _ _ _ _ until' => exact absurd (Nat.le_trans until' moment_le) (Nat.not_le.2 passed)
    | finished _ _ done => exact done
  · have length := times.length_le
    rw [List.length_map, moments, List.length_append, List.length_map, List.length_range, List.length_singleton]
      at length
    exact length
  · have waited' := waited split
    rw [split] at punctual ⊢
    exact waited'.stops clock asleep stopping (Engine.along_append.1 punctual).2

/-- An engine with a run that is about to begin, and a job for it that is open. -/
def Engine.withRun (deadlineMs pollMs : Nat) : Engine :=
  let pull : Request :=
    { image := "x:1", node := .named "a", runtimeVersion := "", kind := .create, cache := .named "w" }
  (Engine.new { deadlineMs, pollMs } {} {}).after
    [.insert (.real "j") { request := pull, status := .jobCreated }, .start pull.cacheKey]

theorem Engine.begins_withRun (deadlineMs pollMs : Nat) : (withRun deadlineMs pollMs).Begins "w" 0 :=
  ⟨⟨true, rfl⟩, Nat.zero_lt_one⟩

/-- A run that looks every second and gives up after two and a half, while another job comes in and the first one is
    done. It is told to stop after it has given up, which makes no difference. -/
def waitForLatecomer : List Move :=
  let pull : Request :=
    { image := "y:1", node := .named "a", runtimeVersion := "", kind := .create, cache := .named "w" }
  [.look 0, .tick 700, .insert (.real "k") { request := pull, status := .jobCreated }, .tick 300, .look 0,
    .resolve (.real "j") .succeeded "" "", .tick 1000, .look 0, .tick 500, .look 0, .stop, .cancel 0, .tick 100]

theorem waits_for_jobs_latecomer :
    let start := Engine.withRun 2500 1000
    WaitsOnTime start 0 "w" waitForLatecomer ∧
      (start.ofRun Engine.sightsOf 0 waitForLatecomer).map Sight.time = [0, 1000, 2000, 2500] ∧
      moments start.now start.interval start.settings.deadlineMs = [0, 1000, 2000, 2500] := by
  intro start
  have punctual : start.Punctual 0 waitForLatecomer := by decide +kernel
  exact ⟨waits_for_jobs start 0 "w" (Engine.begins_withRun _ _) (by decide) (by decide) _ punctual,
    by decide +kernel, by decide +kernel⟩

/-- A run that is to look every thirty years and a millisecond looks a millisecond before that. And a run that gives
    its jobs more time than the clock can show does not look at the table at all. -/
theorem early_look :
    let start := Engine.withRun 1000000000000 946080000001
    let moves : List Move := [.look 0, .tick 946080000000, .look 0]
    start.Begins "w" 0 ∧ start.Punctual 0 moves ∧
      (start.ofRun Engine.sightsOf 0 moves).map Sight.time = [0, 946080000000] ∧
      ¬ [0, 946080000000] <+: moments start.now start.settings.pollMs start.settings.deadlineMs ∧
      let start' := Engine.withRun (({} : Settings).lastTime + 1) 1000
      start'.Begins "w" 0 ∧ start'.Punctual 0 [.look 0, .tick 1000, .look 0] ∧
        (start'.ofRun Engine.sightsOf 0 [.look 0, .tick 1000, .look 0]).map Sight.time = [] := by
  intro start moves
  exact ⟨Engine.begins_withRun _ _, by decide +kernel, by decide +kernel, by decide +kernel,
    Engine.begins_withRun _ _, by decide +kernel, by decide +kernel⟩

end Work

end NodeImages
