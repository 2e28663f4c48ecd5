import NodeImages.Proofs.Ending

/-!
# Coming to the end

A run that is led by the answers of a client (`Engine.LedBy`), with nobody else at the table, comes to the ending that
it has been heading for, whatever else goes on meanwhile.

* `reaches_ending`: so it is along every row of moves in which the run ends, and is not told to stop while it waits;
* `reaches_cancelled`: a run that is told to stop while it waits has done nothing;
* `canEnd_of_fresh`: there is such a row of moves, so long as the clock reaches as far as the deadline of the run.
-/

namespace NodeImages.Work

open Cluster

/-! ## Rows of moves -/

namespace Engine

/-- What is put up for reporting in a move. -/
def updatesOf (engine : Engine) (move : Move) : List Update := updates (engine.act move).2

/-- A run takes no notice of being told to stop when it is not to. -/
theorem idle_of_unheeded {engine : Engine} {answers : Answers} {number : Nat} {move : Move}
    (brings : answers.Brings number engine move) (unheeded : ¬ engine.heeds move = true) :
    engine.act move = (engine, []) ∧ engine.deletionsOf move = [] ∧ engine.updatesOf move = [] := by
  cases brings with
  | cancel =>
    have idle : engine.act (.cancel number) = (engine, []) := if_neg unheeded
    exact ⟨idle, by rw [deletionsOf, idle, Stage.callTo_self], by rw [updatesOf, idle]; rfl⟩
  | _ => exact absurd rfl unheeded

/-- A run is led by the answers of a client. -/
def LedBy (answers : Answers) (number : Nat) (engine : Engine) (moves : List Move) : Prop :=
  engine.Along (fun engine move => move.run? = some number → answers.Brings number engine move) moves

/-- A run is led to its end, and nobody else touches the table meanwhile. -/
structure Concludes (answers : Answers) (number : Nat) (engine : Engine) (moves : List Move) : Prop where
  led : engine.LedBy answers number moves
  undisturbed : engine.Undisturbed number moves
  finished : (engine.after moves).run? number = none

/-- A run that waits is told to stop. -/
def Cancelled (number : Nat) (engine : Engine) (moves : List Move) : Prop :=
  Occurs moves fun early move => move = .cancel number ∧ (engine.after early).stopping = true ∧
    ∃ deadline wake, (engine.after early).stageOf number = .sleeping deadline wake

/-- A run has come to its end. -/
structure Reaches (number : Nat) (engine : Engine) (moves : List Move) (ending : Ending) : Prop where
  table : (engine.after moves).table = ending.table
  deletions : engine.ofRun deletionsOf number moves = ending.deletions
  updates : engine.ofRun updatesOf number moves = ending.updates
  ended : ∀ outcome, .ended number outcome ∈ engine.notes moves ↔ ending.stage = .ended outcome

variable {engine : Engine} {answers : Answers} {number : Nat} {move : Move} {moves : List Move} {run : ActiveRun}

theorem settings_act (engine : Engine) (move : Move) : (engine.act move).1.settings = engine.settings := by
  by_cases inner : move.isInner = true
  · exact (act_effect inner).settings_eq
  · exact (sameRuns_of_not_inner (Bool.not_eq_true _ ▸ inner)).1.settings

theorem plan_act (engine : Engine) (move : Move) (cacheKey : String) :
    (engine.act move).1.plan cacheKey = engine.plan cacheKey := by
  rw [plan, plan, settings_act]

/-- A move of a run that has ended does nothing. -/
theorem act_of_none (own : move.run? = some number) (gone : engine.run? number = none) :
    engine.act move = (engine, []) := by
  cases move with
  | look | pods | events =>
    obtain rfl := Option.some.inj own
    rw [act, advance, gone]
  | cancel =>
    obtain rfl := Option.some.inj own
    rw [act, advance, gone]
    exact ite_self _
  | expire | deleted =>
    obtain rfl := Option.some.inj own
    rw [act, advanceTable, gone]
  | collect =>
    obtain rfl := Option.some.inj own
    rw [act, gone]
  | _ => exact absurd own (Option.some_ne_none _).symm

theorem deletionsOf_of_none (own : move.run? = some number) (gone : engine.run? number = none) :
    engine.deletionsOf move = [] := by
  have stage : engine.stageOf number = .ended (.ok ()) := by
    rw [stageOf, gone]
    rfl
  have act := act_of_none own gone
  cases move with
  | deleted =>
    obtain rfl := Option.some.inj own
    rw [deletionsOf, act, stage]
    rfl
  | look | cancel | pods | events | expire | collect =>
    obtain rfl := Option.some.inj own
    rw [deletionsOf, act, Stage.callTo_self]
  | _ => exact absurd own (Option.some_ne_none _).symm

/-- What passes about the deletion of jobs depends on the stages that the run comes from and to. -/
theorem deletionsOf_own (own : move.run? = some run.number) (found : engine.run? run.number = some run)
    (heeds : engine.heeds move = true) :
    engine.deletionsOf move = move.passes run.stage (engine.nextStage run move) := by
  have call := (Comes.of_own own found heeds).call
  have stage := stageOf_of_run? found
  cases move with
  | deleted =>
    obtain rfl := Option.some.inj own
    rw [deletionsOf, stage]
    exact Stage.answerTo_congr _ _ call
  | look | cancel | pods | events | expire | collect =>
    obtain rfl := Option.some.inj own
    rw [deletionsOf, stage]
    exact Stage.callTo_congr _ call
  | _ => exact absurd own (Option.some_ne_none _).symm

/-- A run that has ended makes no difference any more. -/
theorem quiet_of_none (gone : engine.run? number = none) (lt : number < engine.nextRun)
    (undisturbed : engine.Undisturbed number moves) :
    (engine.after moves).table = engine.table ∧ engine.ofRun deletionsOf number moves = [] ∧
      engine.ofRun updatesOf number moves = [] ∧ ∀ outcome, .ended number outcome ∉ engine.notes moves := by
  induction moves generalizing engine with
  | nil => exact ⟨rfl, rfl, rfl, fun _ => List.not_mem_nil⟩
  | cons move rest ih =>
    have table : (engine.act move).1.table = engine.table := by
      by_cases own : move.run? = some number
      · rw [act_of_none own gone]
      · exact undisturbed.1 own
    obtain ⟨htable, hdeletions, hupdates, hended⟩ :=
      ih (run?_act_of_none lt gone) (Nat.lt_of_lt_of_le lt nextRun_le_act) undisturbed.2
    refine ⟨htable.trans table, ?_, ?_, fun outcome h => ?_⟩
    · rw [ofRun, hdeletions, List.append_nil, ite_eq_right_iff]
      exact fun own => deletionsOf_of_none own gone
    · rw [ofRun, hupdates, List.append_nil, ite_eq_right_iff]
      intro own
      rw [updatesOf, act_of_none own gone]
      rfl
    · rw [notes] at h
      rcases List.mem_append.1 h with h | h
      · obtain ⟨-, run, found⟩ := actor_of_ended h
        exact absurd (gone.symm.trans found) (Option.some_ne_none _).symm
      · exact hended outcome h

/-- What others do on the way makes no difference to where a run comes. -/
theorem Reaches.of_other {ending : Ending} (other : move.run? ≠ some number)
    (reaches : (engine.act move).1.Reaches number moves ending) :
    engine.Reaches number (move :: moves) ending where
  table := reaches.table
  deletions := by rw [ofRun, if_neg other, List.nil_append, reaches.deletions]
  updates := by rw [ofRun, if_neg other, List.nil_append, reaches.updates]
  ended outcome := by
    rw [notes, List.mem_append, ← reaches.ended]
    exact or_iff_right fun h => other (actor_of_ended h).1

/-- A move of the run that does not end it adds what has passed to the ending. -/
theorem Reaches.of_own {ending : Ending} (own : move.run? = some number)
    (going : ∀ outcome, .ended number outcome ∉ (engine.act move).2)
    (reaches : (engine.act move).1.Reaches number moves ending) :
    engine.Reaches number (move :: moves)
      (ending.after (engine.deletionsOf move) (engine.updatesOf move)) where
  table := reaches.table
  deletions := by rw [ofRun, if_pos own, reaches.deletions, Ending.after]
  updates := by rw [ofRun, if_pos own, reaches.updates, Ending.after]
  ended outcome := by
    rw [notes, List.mem_append, Ending.after, ← reaches.ended]
    exact or_iff_right (going outcome)

/-- A move of the run in which nothing passes adds nothing to the ending. -/
theorem Reaches.of_quiet {ending : Ending} (own : move.run? = some number)
    (going : ∀ outcome, .ended number outcome ∉ (engine.act move).2) (deletions : engine.deletionsOf move = [])
    (updates : engine.updatesOf move = []) (reaches : (engine.act move).1.Reaches number moves ending) :
    engine.Reaches number (move :: moves) ending := by
  have reaches' := reaches.of_own own going
  rwa [deletions, updates, Ending.after_nil] at reaches'

/-- A move of the run that ends it. -/
theorem Reaches.of_last {outcome : Outcome Unit} (own : move.run? = some number)
    (gone : (engine.act move).1.run? number = none) (lt : number < engine.nextRun)
    (undisturbed : (engine.act move).1.Undisturbed number moves)
    (ended : ∀ other, .ended number other ∈ (engine.act move).2 ↔ Stage.ended outcome = .ended other) :
    engine.Reaches number (move :: moves)
      ⟨(engine.act move).1.table, engine.deletionsOf move, engine.updatesOf move, .ended outcome⟩ := by
  obtain ⟨htable, hdeletions, hupdates, hquiet⟩ :=
    quiet_of_none gone (Nat.lt_of_lt_of_le lt nextRun_le_act) undisturbed
  refine ⟨htable, ?_, ?_, fun other => ?_⟩
  · rw [ofRun, if_pos own, hdeletions, List.append_nil]
  · rw [ofRun, if_pos own, hupdates, List.append_nil]
  · rw [notes, List.mem_append, ended]
    exact or_iff_left (hquiet other)

theorem cancelled_cons :
    engine.Cancelled number (move :: moves) ↔
      (move = .cancel number ∧ engine.stopping = true ∧
        ∃ deadline wake, engine.stageOf number = .sleeping deadline wake) ∨
        (engine.act move).1.Cancelled number moves := by
  constructor
  · rintro ⟨early, last, late, split, h⟩
    cases early with
    | nil =>
      obtain ⟨rfl, rfl⟩ := List.cons.inj split
      exact .inl h
    | cons first early =>
      obtain ⟨rfl, rfl⟩ := List.cons.inj split
      exact .inr ⟨early, last, late, rfl, h⟩
  · rintro (h | ⟨early, last, late, rfl, h⟩)
    · exact ⟨[], move, moves, rfl, h⟩
    · exact ⟨move :: early, last, late, rfl, h⟩

/-- A run that is led to its end, and not told to stop while it waits, comes to the ending that it has been heading
    for. -/
theorem reaches_ending (found : engine.run? number = some run) (lt : number < engine.nextRun)
    (concludes : engine.Concludes answers number moves) (uncancelled : ¬ engine.Cancelled number moves) :
    engine.Reaches number moves (answers.ending (engine.plan run.cacheKey) engine.table run.stage) := by
  obtain ⟨led, undisturbed, finished⟩ := concludes
  -- The ending that the run is heading for, with what has passed on the way, stays the same from move to move.
  induction moves generalizing engine run with
  | nil => exact absurd (found.symm.trans finished) (Option.some_ne_none _)
  | cons move rest ih =>
    obtain ⟨untold, uncancelled⟩ := not_or.1 (cancelled_cons.not.1 uncancelled)
    have lt' : number < (engine.act move).1.nextRun := Nat.lt_of_lt_of_le lt nextRun_le_act
    by_cases own : move.run? = some number
    · obtain rfl := (mem_of_run? found).2
      by_cases heeds : engine.heeds move = true
      · have comes := Comes.of_own own found heeds
        have awake : move = .cancel run.number → ∀ deadline wake, run.stage ≠ .sleeping deadline wake := by
          rintro rfl deadline wake hstage
          exact untold ⟨rfl, heeds, deadline, wake, (stageOf_of_run? found).trans hstage⟩
        have next := Answers.ending_own found (led.1 own) awake
        rw [← deletionsOf_own own found heeds, ← comes.updates, ← comes.table] at next
        by_cases hended : ∃ outcome, engine.nextStage run move = .ended outcome
        · obtain ⟨outcome, hended⟩ := hended
          rw [hended, Answers.ending, Ending.after, List.append_nil, List.append_nil] at next
          rw [← next]
          exact .of_last own (comes.gone outcome hended) lt undisturbed.2
            fun other => by rw [comes.ended, hended]
        · have going (outcome : Outcome Unit) : engine.nextStage run move ≠ .ended outcome :=
            fun h => hended ⟨outcome, h⟩
          have reaches := ih (comes.going going) lt' uncancelled led.2 undisturbed.2 finished
          rw [plan_act] at reaches
          rw [← next]
          exact .of_own own (fun outcome h => going outcome ((comes.ended outcome).1 h)) reaches
      · -- The run is not told to stop at all.
        obtain ⟨idle, hdeletions, hupdates⟩ := idle_of_unheeded (led.1 own) heeds
        have same : (engine.act move).1 = engine := congrArg Prod.fst idle
        have reaches := ih (same.symm ▸ found) lt' uncancelled led.2 undisturbed.2 finished
        rw [plan_act, congrArg Engine.table same] at reaches
        refine .of_quiet own (fun outcome h => ?_) hdeletions hupdates reaches
        rw [idle] at h
        exact List.not_mem_nil h
    · have reaches := ih (run?_act_of_other own found) lt' uncancelled led.2 undisturbed.2 finished
      rw [plan_act, undisturbed.1 own] at reaches
      exact .of_other own reaches

theorem run?_after_of_none (gone : engine.run? number = none) (lt : number < engine.nextRun) (moves : List Move) :
    (engine.after moves).run? number = none := by
  induction moves generalizing engine with
  | nil => exact gone
  | cons move rest ih => exact ih (run?_act_of_none lt gone) (Nat.lt_of_lt_of_le lt nextRun_le_act)

/-- A run that has ended is not told to stop while it waits. -/
theorem not_cancelled_of_none (gone : engine.run? number = none) (lt : number < engine.nextRun) :
    ¬ engine.Cancelled number moves := by
  rintro ⟨early, -, -, -, -, -, deadline, wake, hstage⟩
  rw [stageOf, run?_after_of_none gone lt] at hstage
  exact Stage.noConfusion hstage

/-- A run that is told to stop while it waits has not done anything until then. -/
theorem reaches_cancelled (found : engine.run? number = some run) (lt : number < engine.nextRun)
    (undisturbed : engine.Undisturbed number moves) (cancelled : engine.Cancelled number moves) :
    run.stage.isFixed = false ∧ engine.Reaches number moves
      ⟨engine.table, [], [],
        Run.waitFailure (engine.plan run.cacheKey) (.of .cancelled "Shutting down")⟩ := by
  -- As it waits at that time, it has waited all the time before, and a run that waits leaves everything alone.
  induction moves generalizing engine run with
  | nil =>
    obtain ⟨early, _, _, split, -⟩ := cancelled
    exact absurd split.symm (List.append_ne_nil_of_right_ne_nil _ (List.cons_ne_nil _ _))
  | cons move rest ih =>
    have lt' : number < (engine.act move).1.nextRun := Nat.lt_of_lt_of_le lt nextRun_le_act
    obtain rfl := (mem_of_run? found).2
    rcases cancelled_cons.1 cancelled with ⟨rfl, stopping, deadline, wake, hstage⟩ | cancelled
    · have own : (Move.cancel run.number).run? = some run.number := rfl
      have heeds : engine.heeds (.cancel run.number) = true := stopping
      have comes := Comes.of_own own found heeds
      have hdeletions := deletionsOf_own own found heeds
      rw [stageOf_of_run? found] at hstage
      rw [nextStage, hstage] at comes hdeletions
      refine ⟨hstage ▸ rfl, ?_⟩
      have last := Reaches.of_last rfl (comes.gone _ rfl) lt undisturbed.2 fun other => comes.ended other
      rw [comes.table, hdeletions, updatesOf, comes.updates] at last
      exact last
    · by_cases own : move.run? = some run.number
      · have turn : Turn engine run move _ _ _ := turn_of_own own found
        cases turn with
        | rest table found' silent quiet deletions =>
          obtain ⟨waits, reaches⟩ := ih found' lt' undisturbed.2 cancelled
          rw [table, plan_act] at reaches
          exact ⟨waits, .of_quiet own quiet deletions silent reaches⟩
        | step going step found' notes =>
          obtain ⟨waits, reaches⟩ := ih found' lt' undisturbed.2 cancelled
          have waits' : run.stage.isFixed = false := by
            by_contra fixed
            rw [step.fixed (Bool.of_not_eq_false fixed) going] at waits
            exact Bool.noConfusion waits
          obtain ⟨table, deletions⟩ := step.spares (Stage.unresolved_of_unfixed waits')
            (Stage.unresolved_of_unfixed waits)
          rw [table, plan_act] at reaches
          refine ⟨waits', .of_quiet own (fun outcome h => ?_) deletions ?_ reaches⟩
          · rw [notes] at h
            exact List.not_mem_nil h
          · rw [updatesOf, notes]
            rfl
        | stop _ _ _ gone | collect _ _ _ _ _ gone => exact absurd cancelled (not_cancelled_of_none gone lt')
      · obtain ⟨waits, reaches⟩ := ih (run?_act_of_other own found) lt' undisturbed.2 cancelled
        rw [undisturbed.1 own, plan_act] at reaches
        exact ⟨waits, .of_other own reaches⟩

/-! ## A row of moves to the end -/

/-- A run can be led to its end by the answers of a client. -/
def CanEnd (answers : Answers) (number : Nat) (engine : Engine) : Prop :=
  ∃ moves, engine.Concludes answers number moves ∧ ¬ engine.Cancelled number moves

namespace CanEnd

theorem of_none (gone : engine.run? number = none) : engine.CanEnd answers number :=
  ⟨[], ⟨trivial, trivial, gone⟩, fun ⟨_, _, _, split, _⟩ => absurd split (by simp)⟩

theorem of_tick (time : Nat) (canEnd : (engine.act (.tick time)).1.CanEnd answers number) :
    engine.CanEnd answers number := by
  obtain ⟨moves, ⟨led, undisturbed, finished⟩, uncancelled⟩ := canEnd
  refine ⟨.tick time :: moves, ⟨⟨nofun, led⟩, ⟨fun _ => rfl, undisturbed⟩, finished⟩, ?_⟩
  rw [cancelled_cons]
  rintro (⟨h, -⟩ | h)
  · exact Move.noConfusion h
  · exact uncancelled h

/-- A run that can go on from where it comes in a move of its own can go on before. -/
theorem of_own (found : engine.run? number = some run) (brings : answers.Brings number engine move)
    (going : move ≠ .cancel number)
    (next : (∀ outcome, engine.nextStage run move ≠ .ended outcome) →
      (engine.act move).1.run? number = some { run with stage := engine.nextStage run move } →
      (engine.act move).1.CanEnd answers number) : engine.CanEnd answers number := by
  obtain rfl := (mem_of_run? found).2
  have own : move.run? = some run.number := by cases brings <;> rfl
  have heeds : engine.heeds move = true := by
    cases brings with
    | cancel => exact absurd rfl going
    | _ => rfl
  have comes := Comes.of_own own found heeds
  obtain ⟨moves, ⟨led, undisturbed, finished⟩, uncancelled⟩ : (engine.act move).1.CanEnd answers run.number := by
    by_cases hended : ∃ outcome, engine.nextStage run move = .ended outcome
    · obtain ⟨outcome, hended⟩ := hended
      exact of_none (comes.gone outcome hended)
    · have hgoing (outcome : Outcome Unit) : engine.nextStage run move ≠ .ended outcome :=
        fun h => hended ⟨outcome, h⟩
      exact next hgoing (comes.going hgoing)
  refine ⟨move :: moves, ⟨⟨fun _ => brings, led⟩, ⟨fun other => absurd own other, undisturbed⟩, finished⟩, ?_⟩
  rw [cancelled_cons]
  rintro (⟨h, -⟩ | h)
  · exact going h
  · exact uncancelled h

variable {batch : List JobId}

/-- A run that deletes jobs can go on from one to the next. -/
theorem of_deleteNext (jobs : List String) (found : engine.run? number = some run)
    (stage : run.stage = Run.deleteNext batch jobs) : engine.CanEnd answers number := by
  induction jobs generalizing engine run with
  | nil =>
    refine of_own found .collect Move.noConfusion fun going _ => ?_
    rw [nextStage, stage, Run.deleteNext, Run.collect] at going
    split at going <;> exact absurd rfl (going _)
  | cons job rest ih =>
    have awaited : (engine.stageOf number).awaits = some (.deletion job) := by
      rw [stageOf_of_run? found, stage]
      rfl
    refine of_own found (.deleted awaited) Move.noConfusion fun going found' => ih found' ?_
    rw [nextStage, stage, Run.deleteNext] at going ⊢
    generalize answers.deletion job = answer at going
    cases answer with
    | error => exact absurd rfl (going _)
    | ok => rfl

/-- A run that looks into open jobs can go on from one to the next, and then deletes jobs. -/
theorem of_listNext (jobs : List OpenJob) {resolved : List (JobId × Result)}
    (found : engine.run? number = some run) (stage : run.stage = Run.listNext batch resolved jobs) :
    engine.CanEnd answers number := by
  induction jobs generalizing engine run resolved with
  | nil =>
    refine of_own found .expire Move.noConfusion fun _ found' => ?_
    rw [nextStage, stage] at found'
    exact of_deleteNext _ found' rfl
  | cons job rest ih =>
    have awaited : (engine.stageOf number).awaits = some (.pods job.1) := by
      rw [stageOf_of_run? found, stage]
      rfl
    refine of_own found (.pods awaited) Move.noConfusion fun going found' => ?_
    rw [nextStage, stage, Run.listNext] at going found'
    generalize answers.pods job.1 = answer at going found' ⊢
    rcases answer with failure | _ | ⟨pod, _ | ⟨_, _⟩⟩
    · exact absurd rfl (going _)
    · exact absurd rfl (going _)
    · rw [Run.onPods] at found'
      split at found'
      · exact ih found' rfl
      · -- The events of the pod are asked for.
        have awaited' := congrArg Stage.awaits (stageOf_of_run? found')
        refine of_own found' (.events awaited') Move.noConfusion fun going' found'' => ?_
        rw [nextStage] at going' found''
        generalize answers.events pod = answer at going' found'' ⊢
        cases answer with
        | error => exact absurd rfl (going' _)
        | ok => exact ih found'' rfl
    · exact absurd rfl (going _)

theorem of_fixBatch {plan : RunPlan} {table : Table} (found : engine.run? number = some run)
    (stage : run.stage = Run.fixBatch plan table) : engine.CanEnd answers number := by
  rw [Run.fixBatch_eq] at stage
  split at stage
  · exact of_deleteNext _ found stage
  · exact of_listNext _ found stage

/-- When its deadline has come, a run that waits is done with waiting at its next look at the table. -/
theorem of_sleeping {deadline wake : Nat} (found : engine.run? number = some run)
    (stage : run.stage = .sleeping deadline wake) : engine.CanEnd answers number := by
  refine .of_tick (max deadline wake) ?_
  have found' : (engine.act (.tick (max deadline wake))).1.run? number = some run := found
  refine of_own found' .look Move.noConfusion fun _ found'' => ?_
  have due : deadline ≤ engine.now + max deadline wake := by omega
  have woken : wake ≤ engine.now + max deadline wake := by omega
  have next : (engine.act (.tick (max deadline wake))).1.nextStage run (.look number) =
      Run.fixBatch (engine.plan run.cacheKey) engine.table := by
    rw [nextStage, stage, Run.look]
    exact (if_pos woken).trans (if_pos (Bool.or_eq_true_iff.2 (.inr (decide_eq_true due))))
  exact of_fixBatch found'' next

end CanEnd

/-- A run that has been started can be led to its end, so long as the clock reaches as far as its deadline. -/
theorem canEnd_of_fresh (found : engine.run? number = some run) (stage : run.stage = .fresh)
    (clock : engine.now + engine.settings.deadlineMs ≤ engine.settings.lastTime) : engine.CanEnd answers number := by
  refine .of_own found .look Move.noConfusion fun _ found' => ?_
  have next : engine.nextStage run (.look number) =
      Run.inspect (engine.plan run.cacheKey) engine.now (engine.now + engine.settings.deadlineMs) engine.table := by
    rw [nextStage, stage]
    exact if_neg (Nat.not_lt.2 clock)
  rw [next, Run.inspect] at found'
  split at found'
  · exact .of_fixBatch found' rfl
  · exact .of_sleeping found' rfl

end Engine

end NodeImages.Work
