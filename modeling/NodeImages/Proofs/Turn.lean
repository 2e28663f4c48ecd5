import NodeImages.Proofs.Course

/-!
# Moves of a run

Of all moves of a course, a run takes part in its own only (`Move.run?`): in the others it stays at its stage,
whatever happens around it.

* `Turn`, `turn_of_own`: what a run makes of a move of its own;
* `run?_act_of_other`, `run?_act_of_none`: the moves of others neither move a run nor bring one back that has
  ended;
* `Advance`, `advance_of_own`: the stage that it comes to, by what the move brings;
* `cause_of_nextStage`: in which moves a run fails.
-/

namespace NodeImages.Work

open Cluster

namespace Engine

variable {engine engine' : Engine} {move : Move} {run : ActiveRun} {stage : Stage} {number : Nat}

/-! ## Runs after a move -/

/-- The run of a number depends on the runs alone. -/
theorem SameRuns.run? (same : engine.SameRuns engine') : engine'.run? number = engine.run? number := by
  rw [Engine.run?, Engine.run?, same.runs]

/-- A run that takes up a new stage leaves the others where they are. -/
theorem run?_stand_of_ne (other : run.number ≠ number) :
    (engine.stand run stage).1.run? number = engine.run? number := by
  rcases stand_cases engine run stage with ⟨outcome, rfl⟩ | hstand
  · rw [run?, run?, stand, List.find?_filter]
    refine congrArg (List.find? · engine.runs) (funext fun r => ?_)
    by_cases h : r.number = number
    · simp [h, other.symm]
    · simp [h]
  · rw [hstand, run?_restage]
    cases hfind : engine.run? number with
    | none => rfl
    | some r =>
      have hnumber : r.number = number := (mem_of_run? hfind).2
      rw [Option.map_some, if_neg fun h => other (h.symm.trans hnumber)]

/-- A run is found as before when another one is added. -/
theorem run?_addRun (cacheKey : String) (guarded : Bool) (h : engine.run? number = some run) :
    (engine.addRun cacheKey guarded).1.run? number = some run := by
  rw [run?] at h
  rw [run?, addRun, List.find?_append, h, Option.some_or]

/-- A number that has been given out is not given out again. -/
theorem run?_addRun_of_lt (cacheKey : String) (guarded : Bool) (lt : number < engine.nextRun) :
    (engine.addRun cacheKey guarded).1.run? number = engine.run? number := by
  have hnew : [(⟨engine.nextRun, cacheKey, guarded, .fresh⟩ : ActiveRun)].find?
      (·.number == number) = none := by
    simp [Nat.ne_of_gt lt]
  rw [run?, run?, addRun, List.find?_append, hnew, Option.or_none]

/-- A run is noted to have ended when it takes up a stage at which it has. -/
theorem ended_mem_stand {outcome : Outcome Unit} (h : .ended number outcome ∈ (engine.stand run stage).2) :
    run.number = number ∧ stage = .ended outcome := by
  rcases stand_cases engine run stage with ⟨outcome', rfl⟩ | hstand
  · cases List.mem_singleton.1 h
    exact ⟨rfl, rfl⟩
  · rw [hstand] at h
    exact absurd h List.not_mem_nil

end Engine

/-! ## Moves of others -/

namespace Effect

variable {engine engine' : Engine} {move : Move} {run : ActiveRun} {number : Nat} {notes : List Note}
  {deletions : List Deletion}

/-- A run stays where it is in the moves of others. -/
theorem run?_of_other (effect : Effect engine move engine' notes deletions)
    (other : move.run? ≠ some number) (h : engine.run? number = some run) :
    engine'.run? number = some run := by
  cases effect with
  | rest _ same | record _ _ _ _ same | settle _ _ _ same => rw [same.run?, h]
  | start cacheKey guarded _ _ same => rw [same.run?, Engine.run?_addRun _ _ h]
  | step actor stage _ _ same _ own =>
    rw [same.run?, Engine.run?_stand_of_ne fun hnumber => other (own.trans (congrArg some hnumber)), h]
  | collect actor _ _ _ _ _ same _ _ own =>
    rw [same.run?, Engine.run?_stand_of_ne fun hnumber => other (by rw [own, Move.run?, hnumber]), h]

/-- A run that ends is there, and the move is its own. -/
theorem actor_of_ended (effect : Effect engine move engine' notes deletions) {outcome : Outcome Unit}
    (h : .ended number outcome ∈ notes) :
    move.run? = some number ∧ ∃ run, engine.run? number = some run := by
  cases effect with
  | rest _ _ hnotes => rcases hnotes with rfl | ⟨_, rfl⟩ <;> simp at h
  | record _ _ _ _ _ hnotes | settle _ _ _ _ hnotes | start _ _ _ _ _ hnotes => simp [hnotes] at h
  | step actor stage mem _ _ hnotes own =>
    rw [hnotes] at h
    obtain ⟨rfl, -⟩ := Engine.ended_mem_stand h
    exact ⟨own, actor, mem⟩
  | collect actor _ mem _ _ _ _ hnotes _ own =>
    simp only [hnotes, List.mem_cons, reduceCtorEq, Note.ended.injEq, List.not_mem_nil, or_false,
      false_or] at h
    obtain ⟨rfl, -⟩ := h
    exact ⟨own ▸ rfl, actor, mem⟩

/-- A run that is over does not come back. -/
theorem run?_of_none (effect : Effect engine move engine' notes deletions)
    (lt : number < engine.nextRun) (h : engine.run? number = none) : engine'.run? number = none := by
  cases effect with
  | rest _ same | record _ _ _ _ same | settle _ _ _ same => rw [same.run?, h]
  | start cacheKey guarded _ _ same => rw [same.run?, Engine.run?_addRun_of_lt _ _ lt, h]
  | step actor stage mem _ same | collect actor _ mem _ _ _ same =>
    rw [same.run?, Engine.run?_stand_of_ne, h]
    rintro rfl
    rw [h] at mem
    exact Option.some_ne_none _ mem.symm

/-- What holds of the stage at which each run stands holds after a move if it does of the stages that runs come
    to in moves of their own, and of those that have just been started. -/
theorem forall_runs {P : Nat → Stage → Prop} (effect : Effect engine move engine' notes deletions)
    (numbered : engine.Numbered) (stays : ∀ run ∈ engine.runs, P run.number run.stage)
    (fresh : ∀ number, P number .fresh)
    (own : ∀ run ∈ engine.runs, engine.run? run.number = some run → move.run? = some run.number →
      P run.number (engine.nextStage run move)) :
    ∀ run ∈ engine'.runs, P run.number run.stage := by
  intro run h
  cases effect with
  | rest _ same | record _ _ _ _ same | settle _ _ _ same => exact stays run (same.runs ▸ h)
  | start cacheKey guarded _ _ same =>
    rw [same.runs] at h
    rcases List.mem_append.1 h with h | h
    · exact stays run h
    · rw [List.mem_singleton.1 h]
      exact fresh _
  | step actor stage mem _ same _ hown next =>
    have hactor := (Engine.mem_of_run? mem).1
    rcases Engine.mem_runs_stand numbered hactor (same.runs ▸ h) with ⟨h, _⟩ | rfl
    · exact stays run h
    · rw [next]
      exact own actor hactor mem hown
  | collect _ _ _ _ _ _ same =>
    rw [same.runs] at h
    exact stays run (List.mem_filter.1 h).1

end Effect

namespace Engine

variable {engine : Engine} {move : Move} {run : ActiveRun} {number : Nat}

/-- A move that reaches into the table from outside leaves the runs alone. -/
theorem sameRuns_of_not_inner (outer : move.isInner = false) :
    engine.SameRuns (engine.act move).1 ∧ (engine.act move).2 = [] := by
  cases move with
  | insert | resolve => exact ⟨{}, rfl⟩
  | _ => exact absurd outer.symm Bool.false_ne_true

/-- In the moves of others, a run stays where it is. -/
theorem run?_act_of_other (other : move.run? ≠ some number) (h : engine.run? number = some run) :
    (engine.act move).1.run? number = some run := by
  by_cases inner : move.isInner = true
  · exact (act_effect inner).run?_of_other other h
  · rw [(sameRuns_of_not_inner (Bool.not_eq_true _ ▸ inner)).1.run?, h]

/-- A run that ends is there, and the move is its own. -/
theorem actor_of_ended {outcome : Outcome Unit} (h : .ended number outcome ∈ (engine.act move).2) :
    move.run? = some number ∧ ∃ run, engine.run? number = some run := by
  by_cases inner : move.isInner = true
  · exact (act_effect inner).actor_of_ended h
  · rw [(sameRuns_of_not_inner (Bool.not_eq_true _ ▸ inner)).2] at h
    exact absurd h List.not_mem_nil

/-- Numbers are given out in ascending order. -/
theorem nextRun_le_act : engine.nextRun ≤ (engine.act move).1.nextRun := by
  by_cases inner : move.isInner = true
  · exact (act_effect inner).nextRun_le
  · exact Nat.le_of_eq (sameRuns_of_not_inner (Bool.not_eq_true _ ▸ inner)).1.nextRun.symm

/-- A run that has ended does not come back. -/
theorem run?_act_of_none (lt : number < engine.nextRun) (h : engine.run? number = none) :
    (engine.act move).1.run? number = none := by
  by_cases inner : move.isInner = true
  · exact (act_effect inner).run?_of_none lt h
  · rw [(sameRuns_of_not_inner (Bool.not_eq_true _ ▸ inner)).1.run?, h]

end Engine

/-! ## Moves of its own -/

/-- What a run makes of a move of its own. -/
inductive Turn (engine : Engine) (run : ActiveRun) (move : Move) (engine' : Engine) (notes : List Note)
    (deletions : List Deletion) : Prop
  /-- Nothing. -/
  | rest (table : engine'.table = engine.table) (run? : engine'.run? run.number = some run)
      (silent : updates notes = []) (notes : ∀ outcome, .ended run.number outcome ∉ notes)
      (deletions : deletions = [])
  /-- It comes to another stage. -/
  | step (going : ∀ outcome, engine.nextStage run move ≠ .ended outcome)
      (step : Run.Step (engine.plan run.cacheKey) engine.now engine.table run.stage deletions
        engine'.table (engine.nextStage run move))
      (run? : engine'.run? run.number = some { run with stage := engine.nextStage run move })
      (notes : notes = [])
  /-- It ends before it has reported its batch. -/
  | stop (outcome : Outcome Unit) (next : engine.nextStage run move = .ended outcome)
      (step : Run.Step (engine.plan run.cacheKey) engine.now engine.table run.stage deletions
        engine'.table (.ended outcome))
      (run? : engine'.run? run.number = none) (notes : notes = [.ended run.number outcome])
  /-- It reports its batch. -/
  | collect (batch : List JobId) (own : move = .collect run.number) (stage : run.stage = .collecting batch)
      (results : engine.table.results batch ≠ []) (table : engine'.table = engine.table.without batch)
      (run? : engine'.run? run.number = none)
      (notes : notes = [.emitted run.number ⟨run.cacheKey, engine.table.results batch⟩,
        .ended run.number (.ok ())]) (deletions : deletions = [])

/-- What a move of a run does comes of the step that the run makes. -/
theorem Effect.turn {engine engine' : Engine} {move : Move} {run : ActiveRun} {notes : List Note}
    {deletions : List Deletion} (effect : Effect engine move engine' notes deletions)
    (own : move.run? = some run.number) (h : engine.run? run.number = some run) :
    Turn engine run move engine' notes deletions := by
  -- The run that acts is the one that has the move.
  have actor {other : ActiveRun} (mem : engine.run? other.number = some other)
      (own' : move.run? = some other.number) : other = run := by
    rw [← Option.some.inj (own.symm.trans own'), h] at mem
    exact (Option.some.inj mem).symm
  cases effect with
  | rest table same notes deletions =>
    rcases notes with rfl | ⟨_, rfl⟩ <;>
      exact .rest table (same.run?.trans h) rfl (by simp) deletions
  | record job result kind =>
    obtain ⟨-, -, ⟨⟨_, -, rfl⟩, -⟩ | ⟨-, rfl, -⟩⟩ := kind <;>
      exact absurd own (Option.some_ne_none _).symm
  | settle pod told table same notes deletions =>
    cases move <;> first | exact absurd own (Option.some_ne_none _).symm | cases told
  | start cacheKey guarded kind table same notes deletions =>
    exact .rest table (same.run?.trans (Engine.run?_addRun _ _ h)) (notes ▸ rfl)
      (by simp [notes]) deletions
  | step other stage mem step same notes own' next =>
    obtain rfl := actor mem own'
    subst next
    rcases Engine.stand_cases engine other (engine.nextStage other move) with
      ⟨outcome, hended⟩ | hstand
    · rw [hended] at step same notes
      exact .stop outcome hended step (same.run?.trans (Engine.run?_stand_of_ended _)) notes
    · have going (outcome : Outcome Unit) : engine.nextStage other move ≠ .ended outcome := by
        intro hended
        rw [hended] at hstand
        exact absurd (congrArg Prod.snd hstand) (List.cons_ne_nil _ _)
      exact .step going step (same.run?.trans (Engine.run?_stand h going)) (notes.trans (hstand ▸ rfl))
  | collect other batch mem stage results table same notes deletions own' =>
    obtain rfl := actor mem (own' ▸ rfl)
    exact .collect batch own' stage results table (same.run?.trans (Engine.run?_stand_of_ended _)) notes
      deletions

/-- A move of a run that is under way is a turn of it. -/
theorem turn_of_own {engine : Engine} {move : Move} {run : ActiveRun}
    (own : move.run? = some run.number) (h : engine.run? run.number = some run) :
    Turn engine run move (engine.act move).1 (engine.act move).2 (engine.deletionsOf move) :=
  (act_effect (by cases move <;> first | rfl | exact absurd own (Option.some_ne_none _).symm)).turn own h

/-- Where a run comes in a move of its own, by what the move brings. -/
inductive Advance (engine : Engine) (run : ActiveRun) : Move → Stage → Prop
  /-- It stays where it is. -/
  | stay (move : Move) : Advance engine run move run.stage
  /-- Its deadline cannot be told. -/
  | stick : run.stage = .fresh → Advance engine run (.look run.number) .stuck
  /-- It looks at the table. -/
  | inspect {deadline : Nat} :
      run.stage.deadline? (engine.plan run.cacheKey) engine.now = some deadline →
      Advance engine run (.look run.number)
        (Run.inspect (engine.plan run.cacheKey) engine.now deadline engine.table)
  /-- It is told to stop while it waits. -/
  | cancel {deadline wake : Nat} (failure : Failure) :
      run.stage = .sleeping deadline wake →
      Advance engine run (.cancel run.number) (.ended (.error failure))
  /-- There is not exactly one pod of an open job. -/
  | unmatched {batch : List JobId} {job : OpenJob} {rest : List OpenJob}
      {resolved : List (JobId × Result)} {answer : Outcome (List Pod)} (failure : Failure) :
      run.stage = .listingPods batch job rest resolved → (∀ pod, answer ≠ .ok [pod]) →
      Advance engine run (.pods run.number answer) (.ended (.error failure))
  /-- An open job that takes an image off a node has expired. -/
  | expire {batch : List JobId} {job : OpenJob} {rest : List OpenJob}
      {resolved : List (JobId × Result)} (pod : Pod) :
      run.stage = .listingPods batch job rest resolved →
      Advance engine run (.pods run.number (.ok [pod])) (Run.listNext batch
        (resolved ++ [Stage.copy (job.1, Run.expire (engine.plan run.cacheKey) job.1 pod job.2)]) rest)
  /-- An open job that pulls an image has expired. -/
  | ask {batch : List JobId} {job : OpenJob} {rest : List OpenJob}
      {resolved : List (JobId × Result)} (pod : Pod) :
      run.stage = .listingPods batch job rest resolved →
      Advance engine run (.pods run.number (.ok [pod])) (.listingEvents batch
        (job.1, Run.expire (engine.plan run.cacheKey) job.1 pod job.2) pod rest resolved)
  /-- The events of an expired job cannot be listed. -/
  | unheard {batch : List JobId} {job : OpenJob} {pod : Pod} {rest : List OpenJob}
      {resolved : List (JobId × Result)} (cause failure : Failure) :
      run.stage = .listingEvents batch job pod rest resolved →
      Advance engine run (.events run.number (.error cause)) (.ended (.error failure))
  /-- The events of an expired job are known. -/
  | hear {batch : List JobId} {job : OpenJob} {pod : Pod} {rest : List OpenJob}
      {resolved : List (JobId × Result)} (events : List Event) :
      run.stage = .listingEvents batch job pod rest resolved →
      Advance engine run (.events run.number (.ok events))
        (Run.listNext batch (resolved ++ [Stage.copy (job.1, Run.addEvents job.2 events)]) rest)
  /-- The open jobs are resolved. -/
  | resolve {batch : List JobId} {resolved : List (JobId × Result)} (jobs : List String) :
      run.stage = .resolving batch resolved →
      Advance engine run (.expire run.number) (Run.deleteNext batch jobs)
  /-- A job is deleted. -/
  | delete {batch : List JobId} {job : String} {rest : List String} :
      run.stage = .deleting batch job rest →
      Advance engine run (.deleted run.number (.ok ())) (Run.deleteNext batch rest)
  /-- A job could not be deleted. -/
  | refuse {batch : List JobId} {job : String} {rest : List String} (cause failure : Failure) :
      run.stage = .deleting batch job rest →
      Advance engine run (.deleted run.number (.error cause)) (.ended (.error failure))
  /-- There is nothing to report. -/
  | vanish {batch : List JobId} (failure : Failure) :
      run.stage = .collecting batch → engine.table.results batch = [] →
      Advance engine run (.collect run.number) (.ended (.error failure))
  /-- It reports its batch. -/
  | collect {batch : List JobId} : run.stage = .collecting batch →
      Advance engine run (.collect run.number) (.ended (.ok ()))

namespace Advance

variable {engine : Engine} {run : ActiveRun}

theorem of_stage {move : Move} {stage : Stage} (hstage : run.stage = stage) : Advance engine run move stage :=
  hstage ▸ .stay move

/-- A run that looks at the table waits on, or comes to what it finds there. -/
theorem of_look : Advance engine run (.look run.number)
    (Run.look (engine.plan run.cacheKey) engine.now engine.table run.stage) := by
  cases hstage : run.stage with
  | fresh =>
    rw [Run.look]
    split
    · exact .stick hstage
    · exact .inspect (hstage ▸ rfl)
  | sleeping =>
    rw [Run.look]
    split
    · exact .inspect (hstage ▸ rfl)
    · exact of_stage hstage
  | _ => exact of_stage hstage

/-- A run that is told to stop advances only if it waits. -/
theorem of_cancel : Advance engine run (.cancel run.number)
    (Run.cancel (engine.plan run.cacheKey) run.stage) := by
  cases hstage : run.stage with
  | sleeping => exact .cancel _ hstage
  | _ => exact of_stage hstage

/-- The listing of pods advances a run that waits for it. -/
theorem of_pods (answer : Outcome (List Pod)) : Advance engine run (.pods run.number answer)
    (Run.onPods (engine.plan run.cacheKey) answer run.stage) := by
  cases hstage : run.stage with
  | listingPods batch job rest resolved =>
    rw [Run.onPods.eq_def]
    dsimp only
    -- No answer, no pod, one pod, or several.
    split
    · exact .unmatched _ hstage fun _ hone => by cases hone
    · exact .unmatched _ hstage fun _ hone => by cases hone
    · split
      · exact .expire _ hstage
      · exact .ask _ hstage
    · rename_i hmany
      exact .unmatched _ hstage fun pod hone => hmany pod (Except.ok.inj hone)
  | _ => exact of_stage hstage

/-- The listing of events does so, too. -/
theorem of_events (answer : Outcome (List Event)) : Advance engine run (.events run.number answer)
    (Run.onEvents (engine.plan run.cacheKey) answer run.stage) := by
  cases hstage : run.stage with
  | listingEvents =>
    cases answer with
    | error => exact .unheard _ _ hstage
    | ok => exact .hear _ hstage
  | _ => exact of_stage hstage

/-- A run that has looked into all open jobs advances to the deletions. -/
theorem of_resolve :
    Advance engine run (.expire run.number) (Run.resolve engine.table run.stage).2 := by
  cases hstage : run.stage with
  | resolving => exact .resolve _ hstage
  | _ => exact of_stage hstage

/-- The answer to a deletion advances a run to the next one, to the end of its deletions, or to a failure. -/
theorem of_deleted (answer : Outcome Unit) : Advance engine run (.deleted run.number answer)
    (Run.onDeleted (engine.plan run.cacheKey) answer engine.table run.stage).2 := by
  cases hstage : run.stage with
  | deleting =>
    cases answer with
    | error => exact .refuse _ _ hstage
    | ok => exact .delete hstage
  | _ => exact of_stage hstage

/-- A run whose jobs have been deleted ends when it collects its batch. -/
theorem of_collect : Advance engine run (.collect run.number)
    (Run.collect (engine.plan run.cacheKey) engine.table run.stage).2.2 := by
  cases hstage : run.stage with
  | collecting =>
    rw [Run.collect]
    split
    · rename_i hempty
      exact .vanish _ hstage (List.isEmpty_iff.1 hempty)
    · exact .collect hstage
  | _ => exact of_stage hstage

end Advance

/-- Every stage that a run comes to in a move of its own is one that it advances to. -/
theorem advance_of_own {engine : Engine} {run : ActiveRun} {move : Move}
    (own : move.run? = some run.number) : Advance engine run move (engine.nextStage run move) := by
  cases move with
  | look =>
    obtain rfl := Option.some.inj own
    exact .of_look
  | cancel =>
    obtain rfl := Option.some.inj own
    exact .of_cancel
  | pods _ answer =>
    obtain rfl := Option.some.inj own
    exact .of_pods answer
  | events _ answer =>
    obtain rfl := Option.some.inj own
    exact .of_events answer
  | expire =>
    obtain rfl := Option.some.inj own
    exact .of_resolve
  | deleted _ answer =>
    obtain rfl := Option.some.inj own
    exact .of_deleted answer
  | collect =>
    obtain rfl := Option.some.inj own
    exact .of_collect
  | _ => exact absurd own (Option.some_ne_none _).symm

/-! ## Failures -/

/-- A move that thwarts a run before the open jobs of its batch are resolved: it is told to stop, or the cluster
    does not have exactly one pod for a job, or fails to answer. -/
def Move.Thwarts (number : Nat) : Move → Prop
  | .cancel n => n = number
  | .pods n answer => n = number ∧ ∀ pod, answer ≠ .ok [pod]
  | .events n answer => n = number ∧ ∃ cause, answer = .error cause
  | _ => False

/-- A look at the table does not end a run. -/
theorem Run.inspect_ne_ended (plan : RunPlan) (now deadline : Nat) (table : Table)
    (outcome : Outcome Unit) : Run.inspect plan now deadline table ≠ .ended outcome := by
  rw [Run.inspect]
  split
  · rw [Run.fixBatch_eq]
    split
    · cases table.jobsToDelete _ <;> exact Stage.noConfusion
    · cases Run.openJobs table _ <;> exact Stage.noConfusion
  · exact Stage.noConfusion

/-- A run fails when it is thwarted before the open jobs are resolved, when a job cannot be deleted, or when
    there is nothing to report. -/
theorem cause_of_nextStage {engine : Engine} {move : Move} {run : ActiveRun} {failure : Failure}
    (own : move.run? = some run.number) (h : engine.nextStage run move = .ended (.error failure))
    (going : ∀ outcome, run.stage ≠ .ended outcome) :
    (move.Thwarts run.number ∧ run.stage.isResolved = false) ∨
    (∃ cause batch job rest, move = .deleted run.number (.error cause) ∧
      run.stage = .deleting batch job rest) ∨
    (∃ batch, move = .collect run.number ∧ run.stage = .collecting batch ∧
      engine.table.results batch = []) := by
  have advance : Advance engine run move (engine.nextStage run move) := advance_of_own own
  generalize engine.nextStage run move = stage at advance h
  cases advance with
  | stay => exact absurd h (going _)
  | inspect => exact absurd h (Run.inspect_ne_ended _ _ _ _ _)
  | cancel _ hstage => exact .inl ⟨rfl, hstage ▸ rfl⟩
  | unmatched _ hstage hanswer => exact .inl ⟨⟨rfl, hanswer⟩, hstage ▸ rfl⟩
  | unheard cause _ hstage => exact .inl ⟨⟨rfl, cause, rfl⟩, hstage ▸ rfl⟩
  | @refuse batch job rest cause _ hstage => exact .inr (.inl ⟨cause, batch, job, rest, rfl, hstage⟩)
  | @vanish batch _ hstage hnone => exact .inr (.inr ⟨batch, rfl, hstage, hnone⟩)
  | @expire _ _ rest | @hear _ _ _ rest => cases rest <;> cases h
  | @resolve _ _ jobs => cases jobs <;> cases h
  | @delete _ _ rest => cases rest <;> cases h
  | stick | ask | collect => cases h

end NodeImages.Work
