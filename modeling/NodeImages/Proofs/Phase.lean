import NodeImages.Proofs.Turn
import NodeImages.Proofs.Writes

/-!
# How far a run has come

From its start on, a run goes through three phases (`Phase`): it waits; it looks into the open jobs of its
batch; and it deletes jobs until it reports the batch. What it has written to the table until then depends on
the phase only: nothing in the first two, and in the last one the failures of the open jobs and the marks of
the jobs that have been deleted (`Cleaning`).

* `Engine.Spares`: a run has not written anything in a row of moves, and no job has been deleted;
* `Phase.stay`, `Phase.step`: where a run is after one more move.

The engine is any at all, and so are the moves of others.
-/

namespace NodeImages.Work

open Cluster

/-! ## Rows of moves -/

namespace Engine

/-- A row of moves has a property at each of its moves, given the engine that makes the move. -/
def Along (property : Engine → Move → Prop) : Engine → List Move → Prop
  | _, [] => True
  | engine, move :: rest => property engine move ∧ (engine.act move).1.Along property rest

/-- What comes up in the moves of a run, in a row of moves. -/
def ofRun {α : Type} (f : Engine → Move → List α) (number : Nat) : Engine → List Move → List α
  | _, [] => []
  | engine, move :: rest =>
    (if move.run? = some number then f engine move else []) ++ ofRun f number (engine.act move).1 rest

variable {engine : Engine} {property : Engine → Move → Prop}

theorem along_append {early late : List Move} :
    engine.Along property (early ++ late) ↔
      engine.Along property early ∧ (engine.after early).Along property late := by
  induction early generalizing engine with
  | nil => exact (and_iff_right trivial).symm
  | cons move rest ih => rw [List.cons_append, Along, ih, Along, after_cons, and_assoc]

theorem along_concat {moves : List Move} {move : Move} :
    engine.Along property (moves ++ [move]) ↔
      engine.Along property moves ∧ property (engine.after moves) move := by
  rw [along_append, Along, Along, and_true]

theorem Along.mono {property' : Engine → Move → Prop} {moves : List Move}
    (along : engine.Along property moves)
    (h : ∀ engine move, property engine move → property' engine move) : engine.Along property' moves := by
  induction moves generalizing engine with
  | nil => trivial
  | cons move rest ih => exact ⟨h _ _ along.1, ih along.2⟩

variable {α : Type} {f : Engine → Move → List α} {number : Nat}

theorem ofRun_eq_nil {moves : List Move}
    (along : engine.Along (fun engine move => move.run? = some number → f engine move = []) moves) :
    engine.ofRun f number moves = [] := by
  induction moves generalizing engine with
  | nil => rfl
  | cons move rest ih =>
    rw [ofRun, ih along.2, List.append_nil]
    split
    · rename_i own
      exact along.1 own
    · rfl

theorem ofRun_concat (moves : List Move) (move : Move) :
    engine.ofRun f number (moves ++ [move]) = engine.ofRun f number moves ++
      if move.run? = some number then f (engine.after moves) move else [] := by
  induction moves generalizing engine with
  | nil => rw [List.nil_append, ofRun, ofRun, ofRun, List.append_nil, List.nil_append, after_nil]
  | cons first rest ih => rw [List.cons_append, ofRun, ih, ofRun, List.append_assoc, after_cons]

theorem ofRun_concat_of_own {moves : List Move} {move : Move} (own : move.run? = some number) :
    engine.ofRun f number (moves ++ [move]) =
      engine.ofRun f number moves ++ f (engine.after moves) move := by
  rw [ofRun_concat, if_pos own]

theorem ofRun_concat_of_nil {moves : List Move} {move : Move}
    (h : move.run? = some number → f (engine.after moves) move = []) :
    engine.ofRun f number (moves ++ [move]) = engine.ofRun f number moves := by
  rw [ofRun_concat]
  split
  · rename_i own
    rw [h own, List.append_nil]
  · exact List.append_nil _

end Engine

variable {cacheKey : String}

/-! ## How far a run has come -/

namespace Engine

/-- The outcomes of open jobs that are applied in a move. -/
def outcomesOf (engine : Engine) (move : Move) : List (JobId × Result) :=
  match move.run? with
  | none => []
  | some number => (engine.stageOf number).outcomesTo ((engine.act move).1.stageOf number)

/-- In its own moves, a run applies no outcomes, leaves the table alone and has no job deleted. -/
def Spares (number : Nat) (engine : Engine) (moves : List Move) : Prop :=
  engine.Along (fun engine move => move.run? = some number →
    engine.outcomesOf move = [] ∧ (engine.act move).1.table = engine.table ∧
      engine.deletionsOf move = []) moves

/-- All moves but those of a run leave the table alone. -/
def Undisturbed (number : Nat) (engine : Engine) (moves : List Move) : Prop :=
  engine.Along (fun engine move => move.run? ≠ some number →
    (engine.act move).1.table = engine.table) moves

/-- The wait of a run ends in a move, and its batch is fixed. -/
structure EndsWait (number : Nat) (engine : Engine) (move : Move) : Prop where
  own : move.run? = some number
  waits : (engine.stageOf number).isFixed = false
  fixed : ((engine.act move).1.stageOf number).isFixed = true

/-- In a move of its own, a run takes no entry from the table and reports nothing; all that it writes to the
    table are the outcomes that it applies and the marks of jobs that have been deleted. -/
def KeepsBatch (number : Nat) (engine : Engine) (move : Move) : Prop :=
  move.run? = some number → (engine.act move).1.reports = engine.reports ∧
    engine.table.Written (engine.outcomesOf move) (engine.deletionsOf move) (engine.act move).1.table

variable {engine : Engine} {move : Move} {moves : List Move} {number : Nat}

/-- A run that is on its own is undisturbed. -/
theorem Undisturbed.of_own (own : ∀ move ∈ moves, move.run? = some number) :
    engine.Undisturbed number moves := by
  induction moves generalizing engine with
  | nil => trivial
  | cons move rest ih =>
    exact ⟨fun other => absurd (own move (List.mem_cons_self ..)) other,
      ih fun move h => own move (List.mem_cons_of_mem _ h)⟩

theorem outcomesOf_of_own (own : move.run? = some number) :
    engine.outcomesOf move =
      (engine.stageOf number).outcomesTo ((engine.act move).1.stageOf number) := by
  rw [outcomesOf, own]

theorem Spares.outcomes_eq_nil (spares : engine.Spares number moves) :
    engine.ofRun outcomesOf number moves = [] :=
  ofRun_eq_nil (spares.mono fun _ _ h own => (h own).1)

theorem Spares.deletions_eq_nil (spares : engine.Spares number moves) :
    engine.ofRun deletionsOf number moves = [] :=
  ofRun_eq_nil (spares.mono fun _ _ h own => (h own).2.2)

/-- When neither a run nor others touch the table, it stays as it is. -/
theorem Spares.table_eq (spares : engine.Spares number moves)
    (undisturbed : engine.Undisturbed number moves) : (engine.after moves).table = engine.table := by
  induction moves generalizing engine with
  | nil => rfl
  | cons move rest ih =>
    rw [after_cons, ih spares.2 undisturbed.2]
    by_cases own : move.run? = some number
    · exact (spares.1 own).2.1
    · exact undisturbed.1 own

end Engine

/-- What a run has written that has failed the open jobs of its batch, since it was started and since its wait
    was over. -/
structure Cleaning (start base : Engine) (number : Nat) (cacheKey : String) (moves late : List Move)
    (stage : Stage) : Prop where
  examined : base.table.Examined cacheKey (start.ofRun Engine.outcomesOf number moves) []
  empty : base.table.jobsFor cacheKey = [] → stage.undeleted = [] ∧ start.Spares number moves
  written : base.Undisturbed number late →
    base.table.Written (start.ofRun Engine.outcomesOf number moves)
      (start.ofRun Engine.deletionsOf number moves) (base.after late).table
  due : base.Undisturbed number late → ∀ name, name ∈ stage.undeleted ∨
      IsDeleted (start.ofRun Engine.deletionsOf number moves) (.real name) →
    .real name ∈ base.table.jobsFor cacheKey ∧ base.table.Unmarked name

/-- How far a run has come that was started, and what it has written until then. -/
inductive Phase (start : Engine) (number : Nat) (cacheKey : String) (moves : List Move) (stage : Stage) :
    Prop
  /-- It waits. -/
  | waiting (unfixed : stage.isFixed = false) (going : ∀ outcome, stage ≠ .ended outcome)
      (spares : start.Spares number moves)
  /-- Its wait is over, and it looks into the open jobs. -/
  | examining (early : List Move) (move : Move) (late : List Move) (split : moves = early ++ move :: late)
      (ends : (start.after early).EndsWait number move) (fixed : stage.isFixed = true)
      (unresolved : stage.isResolved = false)
      (batch : stage.batch = (start.after early).table.jobsFor cacheKey)
      (examined : (start.after early).table.Examined cacheKey stage.outcomes stage.unseen)
      (spares : start.Spares number moves)
  /-- It has failed the open jobs. -/
  | cleaning (early : List Move) (move : Move) (late : List Move) (split : moves = early ++ move :: late)
      (ends : (start.after early).EndsWait number move) (resolved : stage.isResolved = true)
      (batch : stage.batch = (start.after early).table.jobsFor cacheKey)
      (cleaning : Cleaning start (start.after early) number cacheKey moves (move :: late) stage)

section

variable {start base : Engine} {number : Nat} {moves late : List Move} {move : Move}
  {stage stage' : Stage} {plan : RunPlan} {now : Nat}

namespace Cleaning

theorem stay (cleaning : Cleaning start base number cacheKey moves late stage)
    (hafter : start.after moves = base.after late)
    (quiet : move.run? = some number → (start.after moves).outcomesOf move = [] ∧
      (start.after (moves ++ [move])).table = (start.after moves).table ∧
      (start.after moves).deletionsOf move = []) :
    Cleaning start base number cacheKey (moves ++ [move]) (late ++ [move]) stage := by
  have houtcomes := Engine.ofRun_concat_of_nil fun own => (quiet own).1
  have hdeletions := Engine.ofRun_concat_of_nil fun own => (quiet own).2.2
  refine ⟨houtcomes ▸ cleaning.examined, fun hempty => ?_, fun undisturbed => ?_,
    fun undisturbed => hdeletions ▸ cleaning.due (Engine.along_append.1 undisturbed).1⟩
  · obtain ⟨hundeleted, hspares⟩ := cleaning.empty hempty
    exact ⟨hundeleted, Engine.along_concat.2 ⟨hspares, by rwa [Engine.after_concat] at quiet⟩⟩
  · obtain ⟨undisturbed, hother⟩ := Engine.along_concat.1 undisturbed
    rw [houtcomes, hdeletions, Engine.after_concat, ← hafter, ← Engine.after_concat]
    rw [← hafter] at hother
    have htable : (start.after (moves ++ [move])).table = (start.after moves).table := by
      by_cases own : move.run? = some number
      · exact (quiet own).2.1
      · rw [Engine.after_concat, hother own]
    rw [htable, hafter]
    exact cleaning.written undisturbed

/-- A run that has failed the open jobs only marks jobs, those that it is yet to delete, one after the other. -/
theorem step (cleaning : Cleaning start base number cacheKey moves late stage)
    (resolved : stage.isResolved = true) (hafter : start.after moves = base.after late)
    (own : move.run? = some number) (houtcomes : (start.after moves).outcomesOf move = [])
    (step : Run.Step plan now (start.after moves).table stage ((start.after moves).deletionsOf move)
      (start.after (moves ++ [move])).table stage') :
    Cleaning start base number cacheKey (moves ++ [move]) (late ++ [move]) stage' := by
  have houtcomes' := Engine.ofRun_concat_of_nil fun _ : move.run? = some number => houtcomes
  have hdeletions : start.ofRun Engine.deletionsOf number (moves ++ [move]) =
      start.ofRun Engine.deletionsOf number moves ++ (start.after moves).deletionsOf move :=
    Engine.ofRun_concat_of_own own
  refine ⟨houtcomes' ▸ cleaning.examined, fun hempty => ?_, fun undisturbed => ?_,
    fun undisturbed name hname => ?_⟩
  · obtain ⟨hundeleted, hspares⟩ := cleaning.empty hempty
    obtain ⟨hundeleted', htable, hdeletions'⟩ := step.rest_of_undeleted resolved hundeleted
    rw [Engine.after_concat] at htable
    exact ⟨hundeleted', Engine.along_concat.2 ⟨hspares, fun _ => ⟨houtcomes, htable, hdeletions'⟩⟩⟩
  · have written := step.written (by
      rw [Stage.outcomes_of_isResolved resolved]
      exact fun _ h => absurd h List.not_mem_nil)
    rw [Stage.outcomesTo_of_resolved resolved, Engine.after_concat, hafter, ← Engine.after_concat]
      at written
    rw [houtcomes', hdeletions, hafter]
    exact (cleaning.written (Engine.along_append.1 undisturbed).1).trans written
  · refine cleaning.due (Engine.along_append.1 undisturbed).1 name ?_
    rw [hdeletions, isDeleted_append, or_left_comm] at hname
    rcases hname with h | h
    · exact .inr h
    · exact .inl (step.mem_undeleted resolved h)

/-- A batch of which no job is open when it is fixed. -/
theorem of_fix (spares : start.Spares number moves) (own : move.run? = some number)
    (houtcomes : (start.after moves).outcomesOf move = [])
    (hdeletions : (start.after moves).deletionsOf move =
      (Run.fixBatch plan (start.after moves).table).call)
    (htable : (start.after (moves ++ [move])).table = (start.after moves).table)
    (resolved : (Run.fixBatch plan (start.after moves).table).isResolved = true) :
    Cleaning start (start.after moves) number plan.cacheKey (moves ++ [move]) [move]
      (Run.fixBatch plan (start.after moves).table) := by
  rw [Engine.after_concat] at htable
  have houtcomes' : start.ofRun Engine.outcomesOf number (moves ++ [move]) = [] := by
    rw [Engine.ofRun_concat_of_own own, spares.outcomes_eq_nil, houtcomes, List.append_nil]
  have hdeletions' : start.ofRun Engine.deletionsOf number (moves ++ [move]) =
      (Run.fixBatch plan (start.after moves).table).call := by
    rw [Engine.ofRun_concat_of_own own, spares.deletions_eq_nil, hdeletions, List.nil_append]
  have hundeleted := Run.undeleted_fixBatch resolved
  have hnone : Run.openJobs (start.after moves).table
      ((start.after moves).table.jobsFor plan.cacheKey) = [] := by
    by_contra hopen
    rw [Run.fixBatch_eq, if_neg fun h => hopen (List.isEmpty_iff.1 h), Run.isResolved_listNext] at resolved
    exact Bool.false_ne_true resolved
  have examined := (start.after moves).table.examined_openJobs plan.cacheKey
  rw [hnone, List.map_nil] at examined
  refine ⟨houtcomes'.symm ▸ examined, fun hempty => ?_, fun _ => ?_, fun _ name hname => ?_⟩
  · rw [hempty, Table.jobsToDelete_nil] at hundeleted
    exact ⟨hundeleted, Engine.along_concat.2
      ⟨spares, fun _ => ⟨houtcomes, htable, hdeletions.trans (Stage.call_eq_nil hundeleted)⟩⟩⟩
  · rw [houtcomes', hdeletions', Engine.after_cons, Engine.after_nil, htable]
    exact .refl fun _ => not_isDeleted_call
  · rw [hdeletions'] at hname
    have hmem := hname.resolve_right not_isDeleted_call
    rw [hundeleted] at hmem
    exact Table.mem_jobsToDelete.1 hmem

/-- All open jobs have been looked into, and are failed. -/
theorem of_resolve {resolved : List (JobId × Result)} (spares : start.Spares number moves)
    (spares' : base.Spares number late) (hafter : start.after moves = base.after late)
    (examined : base.table.Examined cacheKey resolved []) (own : move.run? = some number)
    (houtcomes : (start.after moves).outcomesOf move = resolved)
    (hdeletions : (start.after moves).deletionsOf move = stage'.call)
    (htable : (start.after (moves ++ [move])).table = (start.after moves).table.resolveAll resolved)
    (hstage : stage' = Run.deleteNext (base.table.jobsFor cacheKey)
      (((start.after moves).table.resolveAll resolved).jobsToDelete (base.table.jobsFor cacheKey)))
    (written : (start.after moves).table.Written resolved stage'.call
      ((start.after moves).table.resolveAll resolved)) :
    Cleaning start base number cacheKey (moves ++ [move]) (late ++ [move]) stage' := by
  have houtcomes' : start.ofRun Engine.outcomesOf number (moves ++ [move]) = resolved := by
    rw [Engine.ofRun_concat_of_own own, spares.outcomes_eq_nil, houtcomes, List.nil_append]
  have hdeletions' : start.ofRun Engine.deletionsOf number (moves ++ [move]) = stage'.call := by
    rw [Engine.ofRun_concat_of_own own, spares.deletions_eq_nil, hdeletions, List.nil_append]
  have hundeleted : stage'.undeleted =
      ((start.after moves).table.resolveAll resolved).jobsToDelete (base.table.jobsFor cacheKey) := by
    rw [hstage, Run.undeleted_deleteNext]
  refine ⟨houtcomes'.symm ▸ examined, fun hempty => ?_, fun undisturbed => ?_,
    fun undisturbed name hname => ?_⟩
  · rw [hempty, Table.jobsToDelete_nil] at hundeleted
    obtain rfl := examined.outcomes_eq_nil hempty
    rw [Engine.after_concat] at htable
    exact ⟨hundeleted, Engine.along_concat.2
      ⟨spares, fun _ => ⟨houtcomes, htable, hdeletions.trans (Stage.call_eq_nil hundeleted)⟩⟩⟩
  · have hsame := spares'.table_eq (Engine.along_append.1 undisturbed).1
    rw [houtcomes', hdeletions', Engine.after_concat, ← hafter, ← Engine.after_concat, htable]
    rwa [← hsame, ← hafter]
  · have hsame := spares'.table_eq (Engine.along_append.1 undisturbed).1
    rw [← hafter] at hsame
    rw [hdeletions'] at hname
    have hmem := hname.resolve_right not_isDeleted_call
    rw [hundeleted] at hmem
    obtain ⟨hbatch, entry', hentry', hjob', hunmarked⟩ := Table.mem_jobsToDelete.1 hmem
    refine ⟨hbatch, ?_⟩
    obtain ⟨entry, hentry, hjob⟩ := Table.mem_jobs.1 (written.jobs ▸ Table.mem_jobs.2 ⟨entry', hentry', rfl⟩)
    rw [← hsame]
    refine ⟨entry, hentry, hjob.trans hjob', ?_⟩
    have hmarks := written.marks entry hentry entry' hentry' hjob.symm
    rw [hunmarked] at hmarks
    exact Bool.eq_false_iff.2 fun hmarked => Bool.false_ne_true (hmarks.2 (.inl hmarked))

end Cleaning

namespace Phase

theorem going (phase : Phase start number cacheKey moves stage) (outcome : Outcome Unit) :
    stage ≠ .ended outcome := by
  rintro rfl
  cases phase with
  | waiting _ going => exact going outcome rfl
  | examining _ _ _ _ _ fixed => exact Bool.false_ne_true fixed
  | cleaning _ _ _ _ _ resolved => exact Bool.false_ne_true resolved

/-- What a run has come to about an open job is that it has failed. -/
theorem closed (phase : Phase start number cacheKey moves stage) :
    ∀ outcome ∈ stage.outcomes, outcome.2.status = .failed := by
  cases phase with
  | waiting unfixed =>
    cases stage <;> first | exact fun _ h => absurd h List.not_mem_nil | cases unfixed
  | examining _ _ _ _ _ _ _ _ examined => exact fun outcome h => (examined.outcomes outcome h).1
  | cleaning _ _ _ _ _ resolved =>
    rw [Stage.outcomes_of_isResolved resolved]
    exact fun _ h => absurd h List.not_mem_nil

theorem spares (phase : Phase start number cacheKey moves stage) (unresolved : stage.isResolved = false) :
    start.Spares number moves := by
  cases phase with
  | waiting _ _ spares => exact spares
  | examining _ _ _ _ _ _ _ _ _ spares => exact spares
  | cleaning _ _ _ _ _ resolved =>
    rw [unresolved] at resolved
    exact absurd resolved Bool.false_ne_true

theorem cleaning_of_resolved (phase : Phase start number cacheKey moves stage)
    (resolved : stage.isResolved = true) :
    ∃ early move late, moves = early ++ move :: late ∧ (start.after early).EndsWait number move ∧
      stage.batch = (start.after early).table.jobsFor cacheKey ∧
      Cleaning start (start.after early) number cacheKey moves (move :: late) stage := by
  cases phase with
  | waiting unfixed =>
    rw [Stage.isFixed_of_isResolved resolved] at unfixed
    exact absurd unfixed.symm Bool.false_ne_true
  | examining _ _ _ _ _ _ unresolved =>
    rw [unresolved] at resolved
    exact absurd resolved Bool.false_ne_true
  | cleaning early move late split ends _ batch cleaning =>
    exact ⟨early, move, late, split, ends, batch, cleaning⟩

/-- A run stays where it is when it does nothing, or when it is not its move. -/
theorem stay (phase : Phase start number cacheKey moves stage)
    (quiet : move.run? = some number → (start.after moves).outcomesOf move = [] ∧
      ((start.after moves).act move).1.table = (start.after moves).table ∧
      (start.after moves).deletionsOf move = []) :
    Phase start number cacheKey (moves ++ [move]) stage := by
  cases phase with
  | waiting unfixed going spares =>
    exact .waiting unfixed going (Engine.along_concat.2 ⟨spares, quiet⟩)
  | examining early first late split ends fixed unresolved batch examined spares =>
    refine .examining early first (late ++ [move]) ?_ ends fixed unresolved batch examined
      (Engine.along_concat.2 ⟨spares, quiet⟩)
    rw [split, List.append_assoc, List.cons_append]
  | cleaning early first late split ends resolved batch cleaning =>
    refine .cleaning early first (late ++ [move]) ?_ ends resolved batch (cleaning.stay ?_ ?_)
    · rw [split, List.append_assoc, List.cons_append]
    · rw [split, Engine.after_append]
    · rwa [Engine.after_concat]

section

variable (own : move.run? = some number) (hstage : (start.after moves).stageOf number = stage)
  (hstage' : (start.after (moves ++ [move])).stageOf number = stage')
  (hstep : Run.Step plan now (start.after moves).table stage ((start.after moves).deletionsOf move)
    (start.after (moves ++ [move])).table stage')

include own hstage hstage'

theorem outcomesOf_eq : (start.after moves).outcomesOf move = stage.outcomesTo stage' := by
  rw [Engine.outcomesOf_of_own own, hstage, ← Engine.after_concat, hstage']

include hstep

/-- A run that does not come to resolve its batch has not written anything. -/
theorem spares_concat (spares : start.Spares number moves) (unresolved : stage.isResolved = false)
    (unresolved' : stage'.isResolved = false) : start.Spares number (moves ++ [move]) := by
  obtain ⟨htable, hdeletions⟩ := hstep.spares unresolved unresolved'
  rw [Engine.after_concat] at htable
  refine Engine.along_concat.2 ⟨spares, fun _ => ⟨?_, htable, hdeletions⟩⟩
  rw [outcomesOf_eq own hstage hstage', Stage.outcomesTo_of_unresolved unresolved']

/-- From its wait, a run goes on to wait, or it fixes its batch. -/
theorem step_of_waiting (going' : ∀ outcome, stage' ≠ .ended outcome) (unfixed : stage.isFixed = false)
    (spares : start.Spares number moves) : Phase start number plan.cacheKey (moves ++ [move]) stage' := by
  have unresolved : stage.isResolved = false := by
    cases stage <;> first | rfl | cases unfixed
  have spares' := spares_concat own hstage hstage' hstep spares unresolved
  by_cases unfixed' : stage'.isFixed = false
  · refine .waiting unfixed' going' (spares' ?_)
    cases stage' <;> first | rfl | cases unfixed'
  · rw [Bool.not_eq_false] at unfixed'
    have ends : (start.after moves).EndsWait number move :=
      ⟨own, hstage ▸ unfixed, by rw [← Engine.after_concat, hstage', unfixed']⟩
    -- Only a run whose wait is over fixes its batch.
    obtain ⟨rfl, hdeletions, htable⟩ := hstep.fixBatch_of_unfixed unfixed unfixed'
    have batch : (Run.fixBatch plan (start.after moves).table).batch = _ := Run.batch_fixBatch
    by_cases unresolved' : (Run.fixBatch plan (start.after moves).table).isResolved = false
    · refine .examining moves move [] rfl ends unfixed' unresolved' batch ?_ (spares' unresolved')
      rw [Run.outcomes_fixBatch, Run.unseen_fixBatch]
      exact (start.after moves).table.examined_openJobs plan.cacheKey
    · rw [Bool.not_eq_false] at unresolved'
      refine .cleaning moves move [] rfl ends unresolved' batch
        (.of_fix spares own ?_ hdeletions htable unresolved')
      rw [outcomesOf_eq own hstage hstage', Stage.outcomesTo, Stage.outcomes_of_not_isFixed unfixed,
        ite_self]

/-- A run that looks into open jobs goes on to do so, or it fails them all. -/
theorem step_of_examining (going' : ∀ outcome, stage' ≠ .ended outcome) {early : List Move}
    {first : Move} (split : moves = early ++ first :: late)
    (ends : (start.after early).EndsWait number first) (fixed : stage.isFixed = true)
    (unresolved : stage.isResolved = false)
    (batch : stage.batch = (start.after early).table.jobsFor plan.cacheKey)
    (examined : (start.after early).table.Examined plan.cacheKey stage.outcomes stage.unseen)
    (spares : start.Spares number moves) : Phase start number plan.cacheKey (moves ++ [move]) stage' := by
  have split' : moves ++ [move] = early ++ first :: (late ++ [move]) := by
    rw [split, List.append_assoc, List.cons_append]
  by_cases unresolved' : stage'.isResolved = false
  · have fixed' := hstep.fixed fixed going'
    refine .examining early first (late ++ [move]) split' ends fixed' unresolved' ?_
      (hstep.examined fixed fixed' unresolved' examined)
      (spares_concat own hstage hstage' hstep spares unresolved unresolved')
    rw [hstep.batch_eq fixed fixed', batch]
  · have houtcomes := outcomesOf_eq own hstage hstage'
    have written := hstep.written fun outcome h => (examined.outcomes outcome h).1
    rw [Bool.not_eq_false] at unresolved'
    obtain ⟨hunseen, rfl, hdeletions, htable⟩ := hstep.resolve_of_unresolved fixed unresolved unresolved'
    rw [Stage.outcomesTo, if_pos ⟨unresolved, unresolved'⟩] at houtcomes written
    rw [hunseen] at examined
    rw [hdeletions, htable] at written
    have hafter : start.after moves = (start.after early).after (first :: late) := by
      rw [split, Engine.after_append]
    have hspares := spares
    rw [Engine.Spares, split, Engine.along_append] at hspares
    refine .cleaning early first (late ++ [move]) split' ends unresolved' ?_
      (.of_resolve spares hspares.2 hafter examined own houtcomes hdeletions htable ?_ written)
    · rw [Run.batch_deleteNext, batch]
    · rw [batch]

/-- A run that has failed the open jobs goes on to delete jobs. -/
theorem step_of_cleaning (going' : ∀ outcome, stage' ≠ .ended outcome) {early : List Move}
    {first : Move} (split : moves = early ++ first :: late)
    (ends : (start.after early).EndsWait number first) (resolved : stage.isResolved = true)
    (batch : stage.batch = (start.after early).table.jobsFor plan.cacheKey)
    (cleaning : Cleaning start (start.after early) number plan.cacheKey moves (first :: late) stage) :
    Phase start number plan.cacheKey (moves ++ [move]) stage' := by
  have fixed := Stage.isFixed_of_isResolved resolved
  have fixed' := hstep.fixed fixed going'
  refine .cleaning early first (late ++ [move]) ?_ ends (hstep.resolved resolved fixed') ?_
    (cleaning.step resolved ?_ own ?_ hstep)
  · rw [split, List.append_assoc, List.cons_append]
  · rw [hstep.batch_eq fixed fixed', batch]
  · rw [split, Engine.after_append]
  · rw [outcomesOf_eq own hstage hstage', Stage.outcomesTo_of_resolved resolved]

/-- A run that goes on to another stage. -/
theorem step (phase : Phase start number plan.cacheKey moves stage)
    (going' : ∀ outcome, stage' ≠ .ended outcome) :
    Phase start number plan.cacheKey (moves ++ [move]) stage' := by
  cases phase with
  | waiting unfixed _ spares => exact step_of_waiting own hstage hstage' hstep going' unfixed spares
  | examining _ _ _ split ends fixed unresolved batch examined spares =>
    exact step_of_examining own hstage hstage' hstep going' split ends fixed unresolved batch examined
      spares
  | cleaning _ _ _ split ends resolved batch cleaning =>
    exact step_of_cleaning own hstage hstage' hstep going' split ends resolved batch cleaning

end

end Phase

end

end NodeImages.Work
