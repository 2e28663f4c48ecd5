import NodeImages.Proofs.Commutation
import NodeImages.Proofs.Phase

/-!
# How a run ends

A run for itself, with nobody else at the table and with answers that depend on nothing but what is asked, comes to an
end that can be told in advance. From every stage on it is an `Ending`: the table as it is left, what passes about the
deletion of jobs, what is reported, and how the run ends.

* `Answers.conclude`: the ending of a run that fixes its batch from a table. Open jobs are looked into one after the
  other (`Answers.examine`), and jobs are deleted one after the other (`Answers.cleanUp`), up to the first failure;
* `Answers.ending`: the ending from any stage on;
* `Comes`: the stage to which a move of a run brings it, with all that shows from outside;
* `ending_own`: a move of a run leads to no other ending.
-/

namespace NodeImages.Work

open Cluster

/-! ## Endings -/

/-- What the cluster answers to the calls of a run, whenever it is called. -/
structure Answers where
  /-- The pods of a job. -/
  pods : String → Outcome (List Pod)
  /-- The events of a pod. -/
  events : Pod → Outcome (List Event)
  /-- Whether a job is deleted. -/
  deletion : String → Outcome Unit

/-- How a run ends. -/
structure Ending where
  table : Table
  /-- What still passes about the deletion of jobs. -/
  deletions : List Deletion
  /-- What is still reported. -/
  updates : List Update
  /-- The stage at which the run has ended. -/
  stage : Stage

/-- The ending, with what has passed before. -/
def Ending.after (ending : Ending) (deletions : List Deletion) (updates : List Update) : Ending :=
  { ending with deletions := deletions ++ ending.deletions, updates := updates ++ ending.updates }

@[simp] theorem Ending.after_nil (ending : Ending) : ending.after [] [] = ending := rfl

namespace Answers

variable (answers : Answers) (plan : RunPlan)

/-- What the events of its pod add to the result of an open job. -/
def hear (pod : Pod) (result : Result) : Outcome Result :=
  match answers.events pod with
  | .error failure => .error (failure.tip s!"While listing events of pod {pod.name}")
  | .ok events => .ok (Run.addEvents result events)

/-- What comes of looking into an open job. -/
def lookInto (job : OpenJob) : Outcome Result :=
  match answers.pods job.1 with
  | .error failure => .error (failure.tip s!"While listing pods of job {job.1}")
  | .ok [] => .error (.of .failedPrecondition s!"No pods matched job {job.1}")
  | .ok [pod] =>
    let result := Run.expire plan job.1 pod job.2
    if result.request.kind.removes then .ok result else answers.hear pod result
  | .ok _ => .error (.of .failedPrecondition s!"More than one pod matched job {job.1}")

/-- The ending of a run that is yet to delete jobs. -/
def cleanUp (batch : List JobId) (table : Table) : List String → Ending
  | [] =>
    let (table, update, stage) := Run.collect plan table (.collecting batch)
    ⟨table, [], update.toList, stage⟩
  | job :: rest =>
    match answers.deletion job with
    | .error failure =>
      ⟨table, [.called job, .answered job (.error failure)], [],
        Run.cleanupFailure plan (failure.tip s!"While deleting job {job}")⟩
    | .ok () =>
      (cleanUp batch (table.markDeleted (.real job)) rest).after [.called job, .answered job (.ok ())] []

/-- The ending of a run that is about to fail its open jobs. -/
def resolve (table : Table) (batch : List JobId) (resolved : List (JobId × Result)) : Ending :=
  answers.cleanUp plan batch (table.resolveAll resolved) ((table.resolveAll resolved).jobsToDelete batch)

/-- The ending of a run that is yet to look into open jobs. -/
def examine (table : Table) (batch : List JobId) (resolved : List (JobId × Result)) : List OpenJob → Ending
  | [] => answers.resolve plan table batch resolved
  | job :: rest =>
    match answers.lookInto plan job with
    | .error failure => ⟨table, [], [], Run.resolveFailure plan failure⟩
    | .ok result => examine table batch (resolved ++ [Stage.copy (job.1, result)]) rest

/-- The ending of a run that is yet to fix its batch. -/
def conclude (table : Table) : Ending :=
  answers.examine plan table (table.jobsFor plan.cacheKey) []
    (Run.openJobs table (table.jobsFor plan.cacheKey))

/-- The ending of a run from a stage on. -/
def ending (table : Table) : Stage → Ending
  | .fresh | .sleeping _ _ | .stuck => answers.conclude plan table
  | .listingPods batch job rest resolved => answers.examine plan table batch resolved (job :: rest)
  | .listingEvents batch job pod rest resolved =>
    match answers.hear pod job.2 with
    | .error failure => ⟨table, [], [], Run.resolveFailure plan failure⟩
    | .ok result => answers.examine plan table batch (resolved ++ [Stage.copy (job.1, result)]) rest
  | .resolving batch resolved => answers.resolve plan table batch resolved
  | .deleting batch job rest =>
    -- The job has been called for already.
    { answers.cleanUp plan batch table (job :: rest) with
      deletions := (answers.cleanUp plan batch table (job :: rest)).deletions.tail }
  | .collecting batch => answers.cleanUp plan batch table []
  | .ended outcome => ⟨table, [], [], .ended outcome⟩

variable {answers plan} {table : Table} {batch : List JobId} {resolved : List (JobId × Result)} {stage : Stage}

/-- A run with jobs to delete ends as its clean-up does. -/
theorem ending_deleteNext (jobs : List String) :
    (answers.ending plan table (Run.deleteNext batch jobs)).after (Run.deleteNext batch jobs).call [] =
      answers.cleanUp plan batch table jobs := by
  cases jobs with
  | nil => rfl
  | cons job rest =>
    rw [Run.deleteNext, ending, cleanUp]
    split <;> rfl

/-- A run with open jobs ends as their examination does. -/
theorem ending_listNext (jobs : List OpenJob) :
    answers.ending plan table (Run.listNext batch resolved jobs) =
      answers.examine plan table batch resolved jobs := by
  cases jobs <;> rfl

/-- A run that fixes its batch ends as is told in advance. -/
theorem ending_fixBatch :
    (answers.ending plan table (Run.fixBatch plan table)).after (Run.fixBatch plan table).call [] =
      answers.conclude plan table := by
  rw [Run.fixBatch_eq, conclude]
  split
  · rename_i hnone
    rw [ending_deleteNext, List.isEmpty_iff.1 hnone]
    rfl
  · rw [Run.call_listNext, Ending.after_nil, ending_listNext]

end Answers

/-! ## Moves of a run -/

/-- What passes about the deletion of jobs when a run comes from a stage to another one in a move of its own. -/
def Move.passes (move : Move) (stage stage' : Stage) : List Deletion :=
  match move with
  | .deleted _ answer => stage.answerTo answer stage'
  | _ => stage.callTo stage'

namespace Engine

/-- The table as a run leaves it in a move of its own. -/
def nextTable (engine : Engine) (run : ActiveRun) (move : Move) : Table :=
  let plan := engine.plan run.cacheKey
  match move with
  | .expire _ => (Run.resolve engine.table run.stage).1
  | .deleted _ answer => (Run.onDeleted plan answer engine.table run.stage).1
  | .collect _ => (Run.collect plan engine.table run.stage).1
  | _ => engine.table

/-- What a run puts up for reporting in a move of its own. -/
def nextUpdates (engine : Engine) (run : ActiveRun) (move : Move) : List Update :=
  match move with
  | .collect _ => (Run.collect (engine.plan run.cacheKey) engine.table run.stage).2.1.toList
  | _ => []

end Engine

/-- A run has come to a stage. -/
structure Comes (run : ActiveRun) (table : Table) (reported : List Update) (stage : Stage) (engine' : Engine)
    (notes : List Note) : Prop where
  table : engine'.table = table
  going : (∀ outcome, stage ≠ .ended outcome) → engine'.run? run.number = some { run with stage }
  gone : ∀ outcome, stage = .ended outcome → engine'.run? run.number = none
  ended : ∀ outcome, .ended run.number outcome ∈ notes ↔ stage = .ended outcome
  updates : updates notes = reported
  call : (engine'.stageOf run.number).call = stage.call

namespace Comes

variable {engine : Engine} {run : ActiveRun} {move : Move}

/-- What comes of a run when it takes up a new stage. -/
theorem of_stand (engine : Engine) (found : engine.run? run.number = some run) (stage : Stage) :
    Comes run engine.table [] stage (engine.stand run stage).1 (engine.stand run stage).2 where
  table := Engine.table_stand
  going going := Engine.run?_stand found going
  gone := by
    rintro outcome rfl
    exact Engine.run?_stand_of_ended outcome
  ended outcome := by
    constructor
    · exact fun h => (Engine.ended_mem_stand h).2
    · rintro rfl
      exact List.mem_singleton_self _
  updates := Engine.updates_stand
  call := Engine.call_stageOf_stand stage found

/-- Every move of a run brings it to the next stage, but for a move that tells it to stop when it is not to. -/
theorem of_own (own : move.run? = some run.number) (found : engine.run? run.number = some run)
    (heeds : engine.heeds move = true) :
    Comes run (engine.nextTable run move) (engine.nextUpdates run move) (engine.nextStage run move)
      (engine.act move).1 (engine.act move).2 := by
  -- Neither the table nor what is reported has a part in where the run is found.
  have stand (table : Table) (reports : Queue Report) (stage : Stage) :
      Comes run table [] stage (({ engine with table, reports } : Engine).stand run stage).1
        (({ engine with table, reports } : Engine).stand run stage).2 :=
    of_stand { engine with table, reports } found stage
  cases move with
  | look | pods | events =>
    obtain rfl := Option.some.inj own
    rw [Engine.act, Engine.advance, found]
    exact of_stand engine found _
  | cancel =>
    obtain rfl := Option.some.inj own
    have stopping : engine.stopping = true := heeds
    rw [Engine.act, if_pos stopping, Engine.advance, found]
    exact of_stand engine found _
  | expire | deleted =>
    obtain rfl := Option.some.inj own
    rw [Engine.act, Engine.advanceTable, found]
    exact stand _ _ _
  | collect =>
    obtain rfl := Option.some.inj own
    rw [Engine.act, Engine.nextTable, Engine.nextUpdates, Engine.nextStage, found]
    dsimp only
    rcases h : Run.collect (engine.plan run.cacheKey) engine.table run.stage with ⟨table, update, stage⟩
    cases update with
    | none => exact stand _ _ _
    | some update =>
      have comes := stand table (engine.reports.add (.status update)) stage
      refine ⟨comes.table, comes.going, comes.gone, fun outcome => ?_, ?_, comes.call⟩
      · rw [← comes.ended]
        simp
      · exact congrArg (update :: ·) comes.updates
  | _ => exact absurd own (Option.some_ne_none _).symm

end Comes

namespace Answers

variable {answers : Answers} {plan : RunPlan} {table : Table} {stage : Stage} {now : Nat}

/-- A run moves on, or it is given the answer to the call that it waits for. -/
inductive Brings (answers : Answers) (number : Nat) (engine : Engine) : Move → Prop
  | look : Brings answers number engine (.look number)
  | cancel : Brings answers number engine (.cancel number)
  | expire : Brings answers number engine (.expire number)
  | collect : Brings answers number engine (.collect number)
  | pods {job : String} (awaited : (engine.stageOf number).awaits = some (.pods job)) :
      Brings answers number engine (.pods number (answers.pods job))
  | events {job : String} {pod : Pod} (awaited : (engine.stageOf number).awaits = some (.events job pod)) :
      Brings answers number engine (.events number (answers.events pod))
  | deleted {job : String} (awaited : (engine.stageOf number).awaits = some (.deletion job)) :
      Brings answers number engine (.deleted number (answers.deletion job))

theorem ending_stay :
    (answers.ending plan table stage).after (stage.callTo stage) [] = answers.ending plan table stage := by
  rw [Stage.callTo_self, Ending.after_nil]

/-- A run that waits, or comes to the end of its wait, is yet to fix its batch from the table. -/
theorem ending_inspect {deadline : Nat} (waits : stage.deadline? plan now = some deadline) :
    (answers.ending plan table (Run.inspect plan now deadline table)).after
        (stage.callTo (Run.inspect plan now deadline table)) [] = answers.conclude plan table := by
  rw [Run.inspect, Run.callTo_of_deadline? waits]
  split
  · exact ending_fixBatch
  · rfl

/-- A look leads to no other end than the one that is told in advance. -/
theorem ending_look :
    (answers.ending plan table (Run.look plan now table stage)).after
        (stage.callTo (Run.look plan now table stage)) [] = answers.ending plan table stage := by
  cases stage with
  | fresh =>
    rw [Run.look]
    split
    · rfl
    · exact ending_inspect rfl
  | sleeping deadline wake =>
    rw [Run.look]
    split
    · have waits : (Stage.sleeping deadline wake).deadline? plan now = some deadline := rfl
      exact ending_inspect waits
    · rfl
  | _ => exact ending_stay

/-- A run that does not wait takes no notice of being told to stop. -/
theorem ending_cancel (awake : ∀ deadline wake, stage ≠ .sleeping deadline wake) :
    (answers.ending plan table (Run.cancel plan stage)).after (stage.callTo (Run.cancel plan stage)) [] =
      answers.ending plan table stage := by
  cases stage with
  | sleeping deadline wake => exact absurd rfl (awake deadline wake)
  | _ => exact ending_stay

/-- To resolve the open jobs is the next step towards that end. -/
theorem ending_resolve :
    (answers.ending plan (Run.resolve table stage).1 (Run.resolve table stage).2).after
        (stage.callTo (Run.resolve table stage).2) [] = answers.ending plan table stage := by
  cases stage with
  | resolving => exact ending_deleteNext _
  | _ => exact ending_stay

/-- When a run collects its batch, it is at that end, with the update it puts up. -/
theorem ending_collect :
    (answers.ending plan (Run.collect plan table stage).1 (Run.collect plan table stage).2.2).after
        (stage.callTo (Run.collect plan table stage).2.2) (Run.collect plan table stage).2.1.toList =
      answers.ending plan table stage := by
  cases stage with
  | collecting batch =>
    rw [ending, cleanUp, Run.collect]
    split <;> rfl
  | _ => exact ending_stay

/-- With the answer of the client, the listing of pods leads towards that end. -/
theorem ending_onPods {job : String} (awaited : stage.awaits = some (.pods job)) :
    (answers.ending plan table (Run.onPods plan (answers.pods job) stage)).after
        (stage.callTo (Run.onPods plan (answers.pods job) stage)) [] = answers.ending plan table stage := by
  cases stage with
  | listingPods batch open' rest resolved =>
    cases awaited
    rw [ending, examine, lookInto, Run.onPods.eq_def]
    dsimp only
    rcases answers.pods open'.1 with failure | _ | ⟨pod, _ | ⟨_, _⟩⟩
    · rfl
    · rfl
    · dsimp only
      split
      · rw [Stage.callTo, Run.call_listNext, ite_self, Ending.after_nil, ending_listNext]
        rfl
      · rfl
    · rfl
  | _ => cases awaited

/-- So does the listing of events. -/
theorem ending_onEvents {job : String} {pod : Pod} (awaited : stage.awaits = some (.events job pod)) :
    (answers.ending plan table (Run.onEvents plan (answers.events pod) stage)).after
        (stage.callTo (Run.onEvents plan (answers.events pod) stage)) [] = answers.ending plan table stage := by
  cases stage with
  | listingEvents batch open' pod rest resolved =>
    cases awaited
    rw [ending, hear, Run.onEvents.eq_def]
    dsimp only
    rcases answers.events pod with failure | events
    · rfl
    · rw [Stage.callTo, Run.call_listNext, ite_self, Ending.after_nil, ending_listNext]
      rfl
  | _ => cases awaited

/-- So does a deletion, whether it goes well or not. -/
theorem ending_onDeleted {job : String} (awaited : stage.awaits = some (.deletion job)) :
    (answers.ending plan (Run.onDeleted plan (answers.deletion job) table stage).1
        (Run.onDeleted plan (answers.deletion job) table stage).2).after
        (stage.answerTo (answers.deletion job) (Run.onDeleted plan (answers.deletion job) table stage).2) [] =
      answers.ending plan table stage := by
  cases stage with
  | deleting batch job' rest =>
    cases awaited
    rw [ending, cleanUp, Run.onDeleted.eq_def]
    dsimp only
    rcases answers.deletion _ with failure | _
    · rfl
    · rw [← ending_deleteNext]
      rfl
  | _ => cases awaited

/-- A move of a run leads to the ending that the run has been heading for, unless the run is told to stop while it
    waits. -/
theorem ending_own {engine : Engine} {run : ActiveRun} {move : Move}
    (found : engine.run? run.number = some run) (brings : answers.Brings run.number engine move)
    (awake : move = .cancel run.number → ∀ deadline wake, run.stage ≠ .sleeping deadline wake) :
    (answers.ending (engine.plan run.cacheKey) (engine.nextTable run move) (engine.nextStage run move)).after
        (move.passes run.stage (engine.nextStage run move)) (engine.nextUpdates run move) =
      answers.ending (engine.plan run.cacheKey) engine.table run.stage := by
  cases brings with
  | look => exact ending_look
  | cancel => exact ending_cancel (awake rfl)
  | expire => exact ending_resolve
  | collect => exact ending_collect
  | pods awaited =>
    rw [Engine.stageOf_of_run? found] at awaited
    exact ending_onPods awaited
  | events awaited =>
    rw [Engine.stageOf_of_run? found] at awaited
    exact ending_onEvents awaited
  | deleted awaited =>
    rw [Engine.stageOf_of_run? found] at awaited
    exact ending_onDeleted awaited

end Answers

end NodeImages.Work
