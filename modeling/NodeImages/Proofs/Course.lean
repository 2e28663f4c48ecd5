import Mathlib.Data.List.Induction
import NodeImages.Proofs.Stage
import NodeImages.Work.Engine

/-!
# Courses of an engine

A course of an engine is a row of moves, made one after the other by a new engine: `Engine.after` is the engine
that it leads to, and `Engine.notes` all that can be noticed on the way. As the moves may come in any order and
bring any answers, what holds of every course holds of every interleaving of the parts of the engine.

`Effect` says once what a move makes of the status table and of the runs, and `act_effect` that every move of
the engine itself has one of these effects. What a course keeps is shown effect by effect.
-/

namespace NodeImages.Work

open Cluster

/-! ## Courses -/

namespace Engine

/-- An engine that has not moved yet. -/
def new (settings : Settings) (work reports : QueueConfig) : Engine where
  settings
  work := { config := work }
  reports := { config := reports }

/-- The engine after a row of moves. -/
def after (engine : Engine) (moves : List Move) : Engine :=
  moves.foldl (fun engine move => (engine.act move).1) engine

/-- All that can be noticed of a row of moves. -/
def notes (engine : Engine) : List Move → List Note
  | [] => []
  | move :: rest => (engine.act move).2 ++ (engine.act move).1.notes rest

variable {engine : Engine}

@[simp] theorem after_nil : engine.after [] = engine := rfl

@[simp] theorem after_cons (move : Move) (rest : List Move) :
    engine.after (move :: rest) = (engine.act move).1.after rest := rfl

/-- A course goes on from where its beginning has led. -/
theorem after_append (early late : List Move) :
    engine.after (early ++ late) = (engine.after early).after late := List.foldl_append

theorem after_concat (moves : List Move) (move : Move) :
    engine.after (moves ++ [move]) = ((engine.after moves).act move).1 := after_append _ _

@[simp] theorem notes_nil : engine.notes [] = [] := rfl

/-- The notes of a course are those of its beginning and those of the rest. -/
theorem notes_append (early late : List Move) :
    engine.notes (early ++ late) = engine.notes early ++ (engine.after early).notes late := by
  induction early generalizing engine with
  | nil => rfl
  | cons move rest ih => rw [List.cons_append, notes, ih, notes, List.append_assoc, after_cons]

theorem notes_concat (moves : List Move) (move : Move) :
    engine.notes (moves ++ [move]) = engine.notes moves ++ ((engine.after moves).act move).2 := by
  rw [notes_append, notes, notes_nil, List.append_nil]

/-! ## Deletions -/

/-- The stage of a run. A run that is not there has ended. -/
def stageOf (engine : Engine) (number : Nat) : Stage :=
  ((engine.run? number).map ActiveRun.stage).getD (.ended (.ok ()))

/-- What passes about the deletion of jobs in a move: a run that comes to a job has it deleted, and goes on to
    the next one when it has the answer. -/
def deletionsOf (engine : Engine) (move : Move) : List Deletion :=
  match move with
  | .look number | .cancel number | .pods number _ | .events number _ | .expire number
  | .collect number =>
    (engine.stageOf number).callTo ((engine.act move).1.stageOf number)
  | .deleted number answer =>
    (engine.stageOf number).answerTo answer ((engine.act move).1.stageOf number)
  | _ => []

/-- All that passes about the deletion of jobs in a row of moves. -/
def deletions (engine : Engine) : List Move → List Deletion
  | [] => []
  | move :: rest => engine.deletionsOf move ++ (engine.act move).1.deletions rest

/-- What passes about deletions in a course passes in its beginning or in the rest. -/
theorem deletions_append (early late : List Move) :
    engine.deletions (early ++ late) =
      engine.deletions early ++ (engine.after early).deletions late := by
  induction early generalizing engine with
  | nil => rfl
  | cons move rest ih =>
    rw [List.cons_append, deletions, ih, deletions, List.append_assoc, after_cons]

theorem deletions_concat (moves : List Move) (move : Move) :
    engine.deletions (moves ++ [move]) =
      engine.deletions moves ++ (engine.after moves).deletionsOf move := by
  rw [deletions_append, deletions, deletions, List.append_nil]

end Engine

/-! ## Moments of a course -/

/-- Something is so at a move of a row, given the moves before. -/
def Occurs (moves : List Move) (event : List Move → Move → Prop) : Prop :=
  ∃ early move late, moves = early ++ move :: late ∧ event early move

namespace Occurs

variable {moves : List Move} {move : Move} {event : List Move → Move → Prop}

/-- What occurs in a course occurs in every longer one. -/
theorem concat (h : Occurs moves event) (move : Move) : Occurs (moves ++ [move]) event := by
  obtain ⟨early, first, late, rfl, h⟩ := h
  exact ⟨early, first, late ++ [move], by rw [List.append_assoc, List.cons_append], h⟩

/-- A move that has just been made is one that occurs. -/
theorem last (h : event moves move) : Occurs (moves ++ [move]) event := ⟨moves, move, [], rfl, h⟩

end Occurs

/-! ## Notes -/

namespace Note

/-- The entry that a note is about. -/
def entry? : Note → Option (JobId × Result)
  | recorded job result => some (job, result)
  | _ => none

/-- The update that a note is about. -/
def update? : Note → Option Update
  | emitted _ update => some update
  | _ => none

end Note

/-- The entries that were recorded, with their results at that time. -/
def recordings (notes : List Note) : List (JobId × Result) := notes.filterMap Note.entry?

/-- The updates that were put up for reporting. -/
def updates (notes : List Note) : List Update := notes.filterMap Note.update?

/-- The jobs of an update. -/
def Update.jobs (update : Update) : List JobId := update.results.map Prod.fst

/-- No two recorded entries have one name: the cluster hands out the name of a job once, and never that of a
    synthetic job. -/
def DistinctNames (notes : List Note) : Prop := ((recordings notes).map (·.1.name)).Nodup

instance (notes : List Note) : Decidable (DistinctNames notes) :=
  inferInstanceAs (Decidable (List.Nodup _))

variable {notes late : List Note}

@[simp] theorem recordings_append : recordings (notes ++ late) = recordings notes ++ recordings late :=
  List.filterMap_append

@[simp] theorem updates_append : updates (notes ++ late) = updates notes ++ updates late :=
  List.filterMap_append

theorem mem_recordings {job : JobId} {result : Result} :
    (job, result) ∈ recordings notes ↔ .recorded job result ∈ notes := by
  rw [recordings, List.mem_filterMap]
  constructor
  · rintro ⟨note, hmem, h⟩
    cases note with
    | recorded =>
      obtain ⟨rfl, rfl⟩ := Prod.mk.inj (Option.some.inj h)
      exact hmem
    | _ => exact absurd h (Option.some_ne_none _).symm
  · exact fun h => ⟨_, h, rfl⟩

/-- The updates of a course are those that some run has put up. -/
theorem mem_updates {update : Update} :
    update ∈ updates notes ↔ ∃ number, .emitted number update ∈ notes := by
  rw [updates, List.mem_filterMap]
  constructor
  · rintro ⟨note, hmem, h⟩
    cases note with
    | emitted number =>
      obtain rfl := Option.some.inj h
      exact ⟨number, hmem⟩
    | _ => exact absurd h (Option.some_ne_none _).symm
  · exact fun ⟨_, h⟩ => ⟨_, h, rfl⟩

namespace DistinctNames

/-- Jobs whose names are distinct are distinct. -/
theorem nodup (h : DistinctNames notes) : ((recordings notes).map Prod.fst).Nodup := by
  rw [DistinctNames, ← Function.comp_def, ← List.map_map] at h
  exact h.of_map

/-- Names that are distinct in a course are so in its beginning. -/
theorem early (h : DistinctNames (notes ++ late)) : DistinctNames notes := by
  rw [DistinctNames, recordings_append, List.map_append] at h
  exact h.of_append_left

/-- A job is recorded once. -/
theorem unique (h : DistinctNames notes) {job : JobId} {result result' : Result}
    (hmem : (job, result) ∈ recordings notes) (hmem' : (job, result') ∈ recordings notes) :
    result = result' :=
  (Prod.mk.inj (List.inj_on_of_nodup_map h.nodup hmem hmem' rfl)).2

/-- A job that is recorded later has not been recorded before. -/
theorem not_mem (h : DistinctNames (notes ++ late)) {job : JobId} {result result' : Result}
    (hlate : (job, result) ∈ recordings late) : (job, result') ∉ recordings notes := by
  intro hmem
  have := h.nodup
  rw [recordings_append, List.map_append] at this
  exact List.disjoint_of_nodup_append this (List.mem_map.2 ⟨_, hmem, rfl⟩)
    (List.mem_map.2 ⟨_, hlate, rfl⟩)

end DistinctNames

/-! ## Moves -/

/-- Whether a move is one of the engine and its surroundings. The others reach into the status table from
    outside. -/
def Move.isInner : Move → Bool
  | .insert _ _ | .resolve _ _ _ _ => false
  | _ => true

/-- Whether all runs that a move may start are guarded. -/
def Move.isGuarded : Move → Bool
  | .startUnguarded _ => false
  | _ => true

/-- The run that a move is of, if it is the move of a run. -/
def Move.run? : Move → Option Nat
  | .look number | .cancel number | .pods number _ | .events number _ | .expire number
  | .deleted number _ | .collect number => some number
  | _ => none

/-- The stage that a run comes to in a move of its own. -/
def Engine.nextStage (engine : Engine) (run : ActiveRun) (move : Move) : Stage :=
  let plan := engine.plan run.cacheKey
  match move with
  | .look _ => Run.look plan engine.now engine.table run.stage
  | .cancel _ => Run.cancel plan run.stage
  | .pods _ answer => Run.onPods plan answer run.stage
  | .events _ answer => Run.onEvents plan answer run.stage
  | .expire _ => (Run.resolve engine.table run.stage).2
  | .deleted _ answer => (Run.onDeleted plan answer engine.table run.stage).2
  | .collect _ => (Run.collect plan engine.table run.stage).2.2
  | _ => run.stage

/-- The pod that a move tells of. -/
def Move.pod? : Move → Option Pod
  | .settle pod | .observe (.listed pod) | .observe (.changed pod) => some pod
  | _ => none

/-- An engine that has the runs of another, under the same bars. -/
structure Engine.SameRuns (engine engine' : Engine) : Prop where
  runs : engine'.runs = engine.runs := by rfl
  barred : engine'.barred = engine.barred := by rfl
  nextRun : engine'.nextRun = engine.nextRun := by rfl
  settings : engine'.settings = engine.settings := by rfl

theorem Engine.SameRuns.trans {a b c : Engine} (h : a.SameRuns b) (h' : b.SameRuns c) :
    a.SameRuns c :=
  ⟨h'.runs.trans h.runs, h'.barred.trans h.barred, h'.nextRun.trans h.nextRun,
    h'.settings.trans h.settings⟩

/-- What a move makes of the status table and of the runs, and what passes about the deletion of jobs. -/
inductive Effect (engine : Engine) (move : Move) (engine' : Engine) (notes : List Note)
    (deletions : List Deletion) : Prop
  /-- Nothing. -/
  | rest (table : engine'.table = engine.table) (same : engine.SameRuns engine')
      (notes : notes = [] ∨ ∃ failure, notes = [.refused failure]) (deletions : deletions = [])
  /-- An entry is recorded: of a job that was created, or of an image that is there already. -/
  | record (job : JobId) (result : Result)
      (kind : result.reason = "" ∧ result.message = "" ∧
        ((∃ name, job = .real name ∧ move = .job (.ok name)) ∧ result.status = .jobCreated ∨
          (∃ name, job = .synthetic name) ∧ move = .presence (.ok true) ∧
            result.status = .alreadyPulled))
      (table : engine'.table = engine.table.put job result) (same : engine.SameRuns engine')
      (notes : notes = [.recorded job result]) (deletions : deletions = [])
  /-- The phase of a pod is noted. -/
  | settle (pod : Pod) (told : move.pod? = some pod)
      (table : engine'.table = engine.table.settlePod pod)
      (same : engine.SameRuns engine') (notes : notes = []) (deletions : deletions = [])
  /-- A run is started, under a bar unless another one has it already. -/
  | start (cacheKey : String) (guarded : Bool)
      (kind : guarded = true ∧ engine.isBarred cacheKey = false ∨
        guarded = false ∧ move = .startUnguarded cacheKey)
      (table : engine'.table = engine.table)
      (same : (engine.addRun cacheKey guarded).1.SameRuns engine')
      (notes : notes = [.started engine.nextRun cacheKey]) (deletions : deletions = [])
  /-- A run takes a step, in a move of its own. -/
  | step (run : ActiveRun) (stage : Stage)
      (mem : engine.run? run.number = some run)
      (step : Run.Step (engine.plan run.cacheKey) engine.now engine.table run.stage deletions
        engine'.table stage)
      (same : (engine.stand run stage).1.SameRuns engine')
      (notes : notes = (engine.stand run stage).2)
      (own : move.run? = some run.number) (next : stage = engine.nextStage run move)
  /-- A batch leaves the table and is put up for reporting. -/
  | collect (run : ActiveRun) (batch : List JobId)
      (mem : engine.run? run.number = some run) (stage : run.stage = .collecting batch)
      (results : engine.table.results batch ≠ []) (table : engine'.table = engine.table.without batch)
      (same : (engine.stand run (.ended (.ok ()))).1.SameRuns engine')
      (notes : notes = [.emitted run.number ⟨run.cacheKey, engine.table.results batch⟩,
        .ended run.number (.ok ())]) (deletions : deletions = [])
      (own : move = .collect run.number)

namespace Engine

variable {engine : Engine} {item : Option Item}

/-- The work on an item may end without a run being touched. -/
theorem sameRuns_finish : engine.SameRuns (engine.finish item) := by
  cases item <;> exact {}

@[simp] theorem table_finish : (engine.finish item).table = engine.table := by
  cases item <;> rfl

theorem sameRuns_giveBack : engine.SameRuns (engine.giveBack item) := by
  cases item <;> exact {}

@[simp] theorem table_giveBack : (engine.giveBack item).table = engine.table := by
  cases item <;> rfl

variable {run : ActiveRun} {stage : Stage}

@[simp] theorem table_stand : (engine.stand run stage).1.table = engine.table := by
  cases stage <;> rfl

/-- What can be noticed of a run that moves on does not depend on the engine. -/
theorem notes_stand (engine engine' : Engine) :
    (engine.stand run stage).2 = (engine'.stand run stage).2 := by
  cases stage <;> rfl

theorem recordings_stand : recordings (engine.stand run stage).2 = [] := by
  cases stage <;> rfl

/-- A run that takes up a new stage puts up no update by that. -/
theorem updates_stand : updates (engine.stand run stage).2 = [] := by
  cases stage <;> rfl

/-- Of an engine, only its runs and bars have a part in what becomes of them when a run moves on. -/
theorem SameRuns.stand {engine' : Engine} (same : engine.SameRuns engine') :
    (engine.stand run stage).1.SameRuns (engine'.stand run stage).1 := by
  obtain ⟨runs, barred, nextRun, settings⟩ := same
  cases stage <;> simp only [Engine.stand, runs, barred] <;> exact ⟨rfl, rfl, nextRun, settings⟩

/-- The runs have numbers of their own. -/
structure Numbered (engine : Engine) : Prop where
  nodup : (engine.runs.map ActiveRun.number).Nodup
  lt : ∀ run ∈ engine.runs, run.number < engine.nextRun

theorem mem_of_run? {number : Nat} (h : engine.run? number = some run) :
    run ∈ engine.runs ∧ run.number = number :=
  ⟨List.mem_of_find?_eq_some h, by simpa using List.find?_some h⟩

/-- A run is known by its number. -/
theorem Numbered.unique (numbered : engine.Numbered) {other : ActiveRun} (h : run ∈ engine.runs)
    (hother : other ∈ engine.runs) (same : other.number = run.number) : other = run :=
  List.inj_on_of_nodup_map numbered.nodup hother h same

/-- The stage of a run that is under way. -/
theorem stageOf_of_run? {number : Nat} (h : engine.run? number = some run) :
    engine.stageOf number = run.stage := by
  rw [stageOf, h]
  rfl

/-- A run ends when it moves on, or it takes up its new stage. -/
theorem stand_cases (engine : Engine) (run : ActiveRun) (stage : Stage) :
    (∃ outcome, stage = .ended outcome) ∨
    engine.stand run stage = ({ engine with
      runs := engine.runs.map fun r => if r.number = run.number then { r with stage } else r }, []) := by
  cases stage with
  | ended outcome => exact .inl ⟨outcome, rfl⟩
  | _ => exact .inr rfl

/-- What does not depend on stages stays as it is when a run takes up a new one. -/
theorem map_restage {β : Type} (f : ActiveRun → β) (h : ∀ r : ActiveRun, f { r with stage } = f r) :
    (engine.runs.map fun r => if r.number = run.number then { r with stage } else r).map f =
      engine.runs.map f := by
  rw [List.map_map]
  refine List.map_congr_left fun r _ => ?_
  rw [Function.comp_apply]
  split
  · exact h r
  · rfl

/-- A run that takes up a new stage is found where it was found before. -/
theorem run?_restage (engine : Engine) (run : ActiveRun) (stage : Stage) (number : Nat) :
    ({ engine with
      runs := engine.runs.map fun r => if r.number = run.number then { r with stage } else r } :
        Engine).run? number =
      (engine.run? number).map fun r => if r.number = run.number then { r with stage } else r := by
  have hsame : ((·.number == number) ∘ fun r : ActiveRun =>
      if r.number = run.number then { r with stage } else r) = (·.number == number) := by
    funext r
    rw [Function.comp_apply]
    split <;> rfl
  rw [run?, run?, List.find?_map, hsame]

/-- A run that takes up a new stage and has not ended is found at that stage. -/
theorem run?_stand (h : engine.run? run.number = some run) (going : ∀ outcome, stage ≠ .ended outcome) :
    (engine.stand run stage).1.run? run.number = some { run with stage } := by
  have hstand := (stand_cases engine run stage).resolve_left fun ⟨outcome, h⟩ => going outcome h
  rw [hstand, run?_restage, h, Option.map_some, if_pos rfl]

/-- A run that has ended is not found any more. -/
theorem run?_stand_of_ended (outcome : Outcome Unit) :
    (engine.stand run (.ended outcome)).1.run? run.number = none :=
  List.find?_eq_none.2 fun r hr => by simpa using (List.mem_filter.1 hr).2

/-- A run that moves on waits for the call that goes with its new stage. -/
theorem call_stageOf_stand (stage : Stage) (h : engine.run? run.number = some run) :
    ((engine.stand run stage).1.stageOf run.number).call = stage.call := by
  by_cases hended : ∃ outcome, stage = .ended outcome
  · obtain ⟨outcome, rfl⟩ := hended
    rw [stageOf, run?_stand_of_ended]
    rfl
  · rw [stageOf_of_run? (run?_stand h fun outcome heq => hended ⟨outcome, heq⟩)]

/-- When a run moves on, the others stay where they are. -/
theorem mem_runs_stand (numbered : engine.Numbered) {other : ActiveRun} (hrun : run ∈ engine.runs)
    (h : other ∈ (engine.stand run stage).1.runs) :
    (other ∈ engine.runs ∧ other.number ≠ run.number) ∨ other = { run with stage } := by
  rcases stand_cases engine run stage with ⟨outcome, rfl⟩ | hstand
  · exact .inl (by simpa [stand] using h)
  · rw [hstand] at h
    obtain ⟨r, hr, rfl⟩ := List.mem_map.1 h
    split
    · rename_i hsame
      rw [numbered.unique hrun hr hsame]
      exact .inr rfl
    · rename_i hne
      exact .inl ⟨hr, hne⟩

/-- The numbers stay apart when a run takes up a new stage. -/
theorem Numbered.stand (numbered : engine.Numbered) (hrun : run ∈ engine.runs) (stage : Stage) :
    (engine.stand run stage).1.Numbered := by
  refine ⟨?_, fun other hother => ?_⟩
  · rcases stand_cases engine run stage with ⟨outcome, rfl⟩ | hstand
    · exact numbered.nodup.sublist (List.filter_sublist.map _)
    · rw [hstand, map_restage ActiveRun.number fun _ => rfl]
      exact numbered.nodup
  · have hnext : (engine.stand run stage).1.nextRun = engine.nextRun := by
      cases stage <;> rfl
    rw [hnext]
    rcases mem_runs_stand numbered hrun hother with ⟨h, _⟩ | rfl
    · exact numbered.lt _ h
    · exact numbered.lt run hrun

/-- The numbers depend on the runs alone. -/
theorem Numbered.of_sameRuns (numbered : engine.Numbered) {engine' : Engine}
    (same : engine.SameRuns engine') : engine'.Numbered :=
  ⟨same.runs ▸ numbered.nodup, by rw [same.runs, same.nextRun]; exact numbered.lt⟩

/-- A new run has a number of its own. -/
theorem Numbered.addRun (numbered : engine.Numbered) (cacheKey : String) (guarded : Bool) :
    (engine.addRun cacheKey guarded).1.Numbered := by
  refine ⟨?_, fun other hother => ?_⟩
  · rw [Engine.addRun, List.map_append, List.map_singleton, ← List.concat_eq_append]
    refine numbered.nodup.concat fun hmem => ?_
    obtain ⟨run, hrun, hnumber⟩ := List.mem_map.1 hmem
    exact absurd (hnumber ▸ numbered.lt run hrun) (Nat.lt_irrefl _)
  · rcases List.mem_append.1 hother with h | h
    · exact Nat.lt_succ_of_lt (numbered.lt other h)
    · rw [List.mem_singleton.1 h]
      exact Nat.lt_succ_self _

end Engine

namespace Effect

variable {engine : Engine} {move : Move} {item : Option Item}

theorem idle (engine : Engine) : Effect engine move engine [] [] :=
  .rest rfl {} (.inl rfl) rfl

/-- The dispatcher records an entry, or the table and the runs stay as they are. -/
theorem of_handle {dispatch : Dispatch}
    (created : ∀ request name, dispatch = .created request name → move = .job (.ok name))
    (needless : ∀ request, dispatch = .needless request → move = .presence (.ok true)) :
    Effect engine move (engine.handle item dispatch).1 (engine.handle item dispatch).2 [] := by
  have same : engine.SameRuns (engine.finish item) := Engine.sameRuns_finish
  cases dispatch with
  | created request name =>
    refine .record (.real name) ⟨request, .jobCreated, "", ""⟩
      ⟨rfl, rfl, .inl ⟨⟨_, rfl, created _ _ rfl⟩, rfl⟩⟩ ?_ ?_ rfl rfl
    · rw [Engine.handle, Engine.record, Engine.table_finish]
    · exact ⟨same.runs, same.barred, same.nextRun, same.settings⟩
  | needless request =>
    refine .record (.fresh (engine.finish item).nextSynthetic) ⟨request, .alreadyPulled, "", ""⟩
      ⟨rfl, rfl, .inr ⟨⟨_, rfl⟩, needless _ rfl, rfl⟩⟩ ?_ ?_ rfl rfl
    · rw [Engine.handle, Engine.record, Engine.table_finish]
    · exact ⟨same.runs, same.barred, same.nextRun, same.settings⟩
  | failed failure => exact .rest Engine.table_giveBack Engine.sameRuns_giveBack (.inr ⟨_, rfl⟩) rfl
  | _ => exact .rest rfl {} (.inl rfl) rfl

/-- Nothing is recorded at the first point of a dispatch. -/
theorem of_first (policy : PullPolicy) (request : Request) :
    Effect engine move (engine.handle item (.first policy request)).1
      (engine.handle item (.first policy request)).2 [] := by
  rw [Dispatch.first]
  split <;> exact .of_handle (fun _ _ h => nomatch h) (fun _ h => nomatch h)

/-- The answer about an image leads to an entry, to the creation of a job, or to a failure. -/
theorem of_presence (answer : Outcome Bool) (request : Request) :
    Effect engine (.presence answer)
      (engine.handle item ((Dispatch.asking request).onPresence answer)).1
      (engine.handle item ((Dispatch.asking request).onPresence answer)).2 [] := by
  rcases answer with _ | _ | _ <;>
    exact .of_handle (fun _ _ h => nomatch h) (fun _ h => by first | rfl | nomatch h)

/-- The answer to the creation of a job leads to an entry or to a failure. -/
theorem of_job (answer : Outcome String) (request : Request) :
    Effect engine (.job answer)
      (engine.handle item ((Dispatch.creating request).onJob answer)).1
      (engine.handle item ((Dispatch.creating request).onJob answer)).2 [] := by
  cases answer with
  | error failure => exact .of_handle (fun _ _ h => nomatch h) (fun _ h => nomatch h)
  | ok name =>
    refine .of_handle (fun _ _ h => ?_) (fun _ h => nomatch h)
    rw [Dispatch.onJob] at h
    cases h
    rfl

/-- A guarded run is added for an image cache that is not barred, an unguarded one for any. -/
theorem of_addRun {cacheKey : String} {guarded : Bool}
    (kind : guarded = true ∧ engine.isBarred cacheKey = false ∨
      guarded = false ∧ move = .startUnguarded cacheKey) :
    Effect engine move (engine.addRun cacheKey guarded).1 (engine.addRun cacheKey guarded).2 [] :=
  .start cacheKey guarded kind rfl {} rfl rfl

/-- A run that is asked for is added, or nothing happens as its image cache is barred. -/
theorem of_startRun (cacheKey : String) :
    Effect engine move (engine.startRun cacheKey).1 (engine.startRun cacheKey).2 [] := by
  rw [Engine.startRun]
  split
  · exact .idle _
  · rename_i h
    exact of_addRun (.inl ⟨rfl, by simpa using h⟩)

/-- The work queue has no part in the table and the runs. -/
theorem of_handleFlush (item : Item) :
    Effect engine move (engine.handleFlush item).1 (engine.handleFlush item).2 [] := by
  rw [Engine.handleFlush]
  dsimp only
  split
  · exact .rest rfl {} (.inl rfl) rfl
  · rename_i h
    rw [Bool.or_eq_true, not_or, Bool.not_eq_true, Bool.not_eq_true] at h
    rw [Engine.startRun, if_neg (by rw [h.2]; exact Bool.false_ne_true)]
    exact .start _ true (.inl ⟨rfl, h.2⟩) rfl {} rfl rfl

/-- An item starts a run, begins a dispatch, or is held back. -/
theorem of_handleItem (item : Item) :
    Effect engine move (engine.handleItem item).1 (engine.handleItem item).2 [] := by
  cases item with
  | flush cache => exact of_handleFlush _
  | image request =>
    rw [Engine.handleItem]
    split
    · dsimp only
      exact .rest Engine.table_finish Engine.sameRuns_finish (.inl rfl) rfl
    · exact of_first _ _

/-- A run that is there takes a step, with the deletions that go with its stages. -/
theorem of_step {run : ActiveRun} {table : Table} {stage : Stage} {deletions : List Deletion}
    (mem : engine.run? run.number = some run)
    (step : Run.Step (engine.plan run.cacheKey) engine.now engine.table run.stage deletions table
      stage)
    (own : move.run? = some run.number) (next : stage = engine.nextStage run move) :
    Effect engine move ({ engine with table }.stand run stage).1 (engine.stand run stage).2 deletions :=
  .step run stage mem (by rw [Engine.table_stand]; exact step) (Engine.SameRuns.stand {}) rfl own next

/-- A run that moves on makes a step. -/
theorem of_advance {number : Nat} {next : RunPlan → Stage → Stage} (own : move.run? = some number)
    (hnext : ∀ run, next (engine.plan run.cacheKey) run.stage = engine.nextStage run move)
    (h : ∀ plan stage, Run.Step plan engine.now engine.table stage
      (stage.callTo (next plan stage)) engine.table (next plan stage)) :
    Effect engine move (engine.advance number next).1 (engine.advance number next).2
      ((engine.stageOf number).callTo ((engine.advance number next).1.stageOf number)) := by
  rw [Engine.advance]
  split
  · rename_i hrun
    rw [Engine.stageOf, hrun]
    exact .idle _
  · rename_i run hrun
    obtain rfl := (Engine.mem_of_run? hrun).2
    rw [Engine.stageOf_of_run? hrun, Stage.callTo_congr _ (Engine.call_stageOf_stand _ hrun)]
    exact .of_step hrun (h _ _) own (hnext run)

/-- So does one that changes the table at the same time. -/
theorem of_advanceTable {number : Nat} {next : RunPlan → Table → Stage → Table × Stage}
    {between : Stage → Stage → List Deletion} (own : move.run? = some number)
    (hnext : ∀ run, (next (engine.plan run.cacheKey) engine.table run.stage).2 =
      engine.nextStage run move)
    (congr : ∀ stage a b, a.call = b.call → between stage a = between stage b)
    (ended : between (.ended (.ok ())) (.ended (.ok ())) = [])
    (h : ∀ plan stage, Run.Step plan engine.now engine.table stage
      (between stage (next plan engine.table stage).2) (next plan engine.table stage).1
      (next plan engine.table stage).2) :
    Effect engine move (engine.advanceTable number next).1 (engine.advanceTable number next).2
      (between (engine.stageOf number) ((engine.advanceTable number next).1.stageOf number)) := by
  rw [Engine.advanceTable]
  split
  · rename_i hrun
    rw [Engine.stageOf, hrun]
    dsimp only [Option.map_none, Option.getD_none]
    rw [ended]
    exact .idle _
  · rename_i run hrun
    obtain rfl := (Engine.mem_of_run? hrun).2
    -- The run is found whatever the table is.
    have hrun' : { engine with table := (next (engine.plan run.cacheKey) engine.table run.stage).1 }.run?
        run.number = some run := hrun
    dsimp only
    rw [Engine.stageOf_of_run? hrun, congr _ _ _ (Engine.call_stageOf_stand _ hrun'),
      Engine.notes_stand _ engine]
    exact .of_step hrun (h _ _) own (hnext run)

/-- News of a pod touch nothing but the table. -/
theorem of_see (memory : Memory) (pod : Pod) (engine' : Engine) (told : move.pod? = some pod)
    (table : engine'.table = (memory.see pod engine.table).2) (same : engine.SameRuns engine') :
    Effect engine move engine' [] [] := by
  rw [Memory.see] at table
  dsimp only at table
  split at table
  · exact .settle pod told table same rfl rfl
  · exact .rest table same (.inl rfl) rfl

/-- No event of the watch touches anything else. -/
theorem of_observe (event : WatchEvent) :
    Effect engine (.observe event) (engine.act (.observe event)).1
      (engine.act (.observe event)).2 [] := by
  cases event with
  | listed pod => exact of_see (engine.memory.tick pod) pod _ rfl rfl {}
  | changed pod => exact of_see engine.memory pod _ rfl rfl {}
  | _ => exact .rest rfl {} (.inl rfl) rfl

/-- A run that collects its batch takes it out of the table and puts it up, or fails as there is none. -/
theorem of_collect (number : Nat) :
    Effect engine (.collect number) (engine.act (.collect number)).1 (engine.act (.collect number)).2
      (engine.deletionsOf (.collect number)) := by
  rw [Engine.deletionsOf, Engine.act]
  split
  · rename_i hrun
    rw [Engine.stageOf, hrun]
    exact .idle _
  · rename_i run hrun
    obtain rfl := (Engine.mem_of_run? hrun).2
    obtain ⟨stage, hcollect, hstep⟩ | ⟨batch, hstage, hresults, hcollect⟩ :=
      Run.collect_cases (engine.plan run.cacheKey) engine.now engine.table run.stage
    · rw [hcollect]
      dsimp only
      rw [Engine.stageOf_of_run? hrun, Stage.callTo_congr _ (Engine.call_stageOf_stand _ hrun)]
      exact .of_step hrun hstep rfl (by rw [Engine.nextStage, hcollect])
    · rw [hcollect]
      have hrun' : { engine with
          table := engine.table.without batch
          reports := engine.reports.add
            (.status ⟨(engine.plan run.cacheKey).cacheKey, engine.table.results batch⟩) }.run?
          run.number = some run := hrun
      dsimp only
      rw [Engine.stageOf_of_run? hrun, hstage,
        Stage.callTo_congr _ (Engine.call_stageOf_stand _ hrun')]
      exact .collect run batch hrun hstage hresults Engine.table_stand (Engine.SameRuns.stand {}) rfl
        rfl rfl

/-- The work queue has no part in an effect. -/
theorem of_work {engine' : Engine} {work : Queue Item} {notes : List Note}
    {deletions : List Deletion} (h : Effect { engine with work } move engine' notes deletions) :
    Effect engine move engine' notes deletions := by
  have base : engine.SameRuns { engine with work } := {}
  cases h with
  | rest table same notes deletions => exact .rest table (base.trans same) notes deletions
  | record job result kind table same notes deletions =>
    exact .record job result kind table (base.trans same) notes deletions
  | settle pod told table same notes deletions =>
    exact .settle pod told table (base.trans same) notes deletions
  | start cacheKey guarded kind table same notes deletions =>
    exact .start cacheKey guarded kind table (.trans {} same) notes deletions
  | step run stage mem step same notes own next =>
    exact .step run stage mem step (base.stand.trans same) (notes.trans (Engine.notes_stand _ _)) own
      next
  | collect run batch mem stage results table same notes deletions own =>
    exact .collect run batch mem stage results table (base.stand.trans same) notes deletions own

variable {engine' : Engine} {notes : List Note} {deletions : List Deletion}

/-- A run after a move was there before, has just been started, or has taken a step. -/
theorem mem_runs (effect : Effect engine move engine' notes deletions) (numbered : engine.Numbered)
    {other : ActiveRun} (h : other ∈ engine'.runs) :
    other ∈ engine.runs ∨
    (∃ cacheKey guarded, other = ⟨engine.nextRun, cacheKey, guarded, .fresh⟩) ∨
    ∃ run ∈ engine.runs, ∃ stage, other = { run with stage } ∧
      Run.Step (engine.plan run.cacheKey) engine.now engine.table run.stage deletions engine'.table
        stage := by
  cases effect with
  | rest _ same | record _ _ _ _ same | settle _ _ _ same => exact .inl (same.runs ▸ h)
  | start cacheKey guarded _ _ same =>
    rw [same.runs] at h
    rcases List.mem_append.1 h with h | h
    · exact .inl h
    · exact .inr (.inl ⟨cacheKey, guarded, List.mem_singleton.1 h⟩)
  | step run stage mem step same =>
    have hrun := (Engine.mem_of_run? mem).1
    rcases Engine.mem_runs_stand numbered hrun (same.runs ▸ h) with ⟨h, _⟩ | rfl
    · exact .inl h
    · exact .inr (.inr ⟨run, hrun, stage, rfl, step⟩)
  | collect run batch mem stage _ _ same =>
    rw [same.runs] at h
    exact .inl (List.mem_filter.1 h).1

/-- The numbers of the runs stay apart in every move. -/
theorem numbered (effect : Effect engine move engine' notes deletions)
    (numbered : engine.Numbered) : engine'.Numbered := by
  cases effect with
  | rest _ same | record _ _ _ _ same | settle _ _ _ same => exact numbered.of_sameRuns same
  | start cacheKey guarded _ _ same => exact (numbered.addRun cacheKey guarded).of_sameRuns same
  | step run stage mem step same =>
    exact (numbered.stand (Engine.mem_of_run? mem).1 _).of_sameRuns same
  | collect run batch mem stage _ _ same =>
    exact (numbered.stand (Engine.mem_of_run? mem).1 _).of_sameRuns same

/-- Numbers are given out in ascending order. -/
theorem nextRun_le (effect : Effect engine move engine' notes deletions) :
    engine.nextRun ≤ engine'.nextRun := by
  have stand {run : ActiveRun} {stage : Stage} (same : (engine.stand run stage).1.SameRuns engine') :
      engine.nextRun ≤ engine'.nextRun := by
    rw [same.nextRun]
    cases stage <;> exact Nat.le_refl _
  cases effect with
  | rest _ same | record _ _ _ _ same | settle _ _ _ same => exact Nat.le_of_eq same.nextRun.symm
  | start cacheKey guarded _ _ same =>
    rw [same.nextRun]
    exact Nat.le_succ _
  | step _ _ _ _ same | collect _ _ _ _ _ _ same => exact stand same

/-- What the engine is set to stays the same. -/
theorem settings_eq (effect : Effect engine move engine' notes deletions) :
    engine'.settings = engine.settings := by
  have stand {run : ActiveRun} {stage : Stage} (same : (engine.stand run stage).1.SameRuns engine') :
      engine'.settings = engine.settings := by
    rw [same.settings]
    cases stage <;> rfl
  cases effect with
  | rest _ same | record _ _ _ _ same | settle _ _ _ same | start _ _ _ _ same => exact same.settings
  | step _ _ _ _ same | collect _ _ _ _ _ _ same => exact stand same

/-- A run that is started is the next one. -/
theorem runs_of_started (effect : Effect engine move engine' notes deletions) {number : Nat}
    {cacheKey : String} (h : .started number cacheKey ∈ notes) :
    number = engine.nextRun ∧ engine'.nextRun = engine.nextRun + 1 ∧ engine'.table = engine.table ∧
      ∃ guarded, engine'.runs = engine.runs ++ [⟨number, cacheKey, guarded, .fresh⟩] := by
  cases effect with
  | rest _ _ hnotes =>
    rcases hnotes with hnotes | ⟨_, hnotes⟩ <;> simp [hnotes] at h
  | record _ _ _ _ _ hnotes | settle _ _ _ _ hnotes | collect _ _ _ _ _ _ _ hnotes =>
    simp [hnotes] at h
  | start key guarded _ table same hnotes =>
    rw [hnotes, List.mem_singleton] at h
    cases h
    exact ⟨rfl, same.nextRun, table, guarded, same.runs⟩
  | step run stage _ _ _ hnotes =>
    rcases Engine.stand_cases engine run stage with ⟨outcome, rfl⟩ | hstand
    · simp [hnotes, Engine.stand] at h
    · simp [hnotes, hstand] at h

end Effect

/-- Every move that does not reach into the table from outside has one of the effects. -/
theorem act_effect {engine : Engine} {move : Move} (inner : move.isInner = true) :
    Effect engine move (engine.act move).1 (engine.act move).2 (engine.deletionsOf move) := by
  cases move with
  | add | addAfter | fire | tick | stop | close =>
    exact .rest rfl {} (.inl rfl) rfl
  | take =>
    rw [Engine.act]
    split
    · exact .idle _
    · split
      · exact Effect.of_work (Effect.of_handleItem _)
      · exact .idle _
  | dispatch request =>
    rw [Engine.act]
    split
    · exact .idle _
    · exact .of_first _ _
  | presence answer =>
    rw [Engine.act]
    split
    · exact .of_presence _ _
    · exact .idle _
  | job answer =>
    rw [Engine.act]
    split
    · exact .of_job _ _
    · exact .idle _
  | observe event => exact .of_observe event
  | settle pod => exact .settle pod rfl rfl {} rfl rfl
  | insert => exact absurd inner Bool.false_ne_true
  | resolve => exact absurd inner Bool.false_ne_true
  | start cacheKey => exact .of_startRun _
  | startUnguarded cacheKey => exact .of_addRun (.inr ⟨rfl, rfl⟩)
  | look number => exact .of_advance rfl (fun _ => rfl) fun _ _ => Run.look_step
  | cancel number =>
    by_cases h : engine.stopping = true
    · rw [Engine.deletionsOf, Engine.act, if_pos h]
      exact .of_advance rfl (fun _ => rfl) fun _ _ => Run.cancel_step
    · rw [Engine.deletionsOf, Engine.act, if_neg h, Stage.callTo_self]
      exact .idle _
  | pods number answer => exact .of_advance rfl (fun _ => rfl) fun _ _ => Run.onPods_step _
  | events number answer => exact .of_advance rfl (fun _ => rfl) fun _ _ => Run.onEvents_step _
  | expire number =>
    exact .of_advanceTable rfl (fun _ => rfl) (fun stage _ _ => stage.callTo_congr) rfl
      fun _ _ => Run.resolve_step
  | deleted number answer =>
    exact .of_advanceTable rfl (fun _ => rfl) (fun stage _ _ => stage.answerTo_congr answer) rfl
      fun _ _ => Run.onDeleted_step _
  | collect number => exact .of_collect number
  | takeReport =>
    rw [Engine.act]
    split <;> exact .rest rfl {} (.inl rfl) rfl

/-! ## A course with two runs -/

/-- An engine whose runs do not wait for open jobs. -/
def Engine.hasty : Engine := .new { deadlineMs := 0 } {} {}

/-- A course in which a batch is reported by the second of two runs. The first one is overtaken by the watch
    while it looks into an open job, and it ends when the job cannot be deleted; meanwhile other work joins the
    batch. -/
def resumption : List Move :=
  let removal : Request :=
    { image := "x:1", node := .named "a", runtimeVersion := "", kind := .purge, cache := .named "w" }
  let pod : Pod :=
    { metadata := { labels := some (.ofList [(Pod.jobLabel, "j")]) }, phase := some Pod.succeededPhase }
  [.add (.image removal), .add (.flush removal.cache), .take, .job (.ok "j"), .take,
    .look 0, .settle pod, .pods 0 (.ok [pod]), .expire 0, .deleted 0 (.error .missing),
    .dispatch { removal with kind := .create }, .presence (.ok true),
    .start removal.cacheKey, .look 1, .deleted 1 (.ok ()), .collect 1]

end NodeImages.Work
