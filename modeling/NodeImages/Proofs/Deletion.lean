import NodeImages.Proofs.Exclusive
import NodeImages.Proofs.Ledger

/-!
# Deleting jobs

A run deletes the jobs of its batch one after the other, and marks each in the table as soon as the cluster has
answered. When it fails half way, the batch stays where it is, and a later run goes on with the jobs that are
not marked. This is safe so long as no two runs work on one batch, that is, when all runs are guarded.

* `Stage.Tracks`: the jobs that a run is yet to delete are those of its batch that are not marked;
* `Run.Step.tracks`, `Effect.orderly`: a step of a run keeps it so, and so does every move;
* `deleted_once_before_report`: what is deleted is the jobs that were created, each until it succeeds and never
  again, and all of a batch before it leaves the table.
-/

namespace NodeImages.Work

open Cluster

/-! ## Marks -/

/-- The entry of a job that is not marked as deleted. -/
def Table.Unmarked (table : Table) (name : String) : Prop :=
  ∃ entry ∈ table.entries, entry.job = .real name ∧ entry.deleted = false

/-- Once its batch is resolved, a run is yet to delete those jobs of the batch that are not marked, each
    once. -/
def Stage.Tracks (stage : Stage) (table : Table) : Prop :=
  stage.isResolved = true → stage.undeleted.Nodup ∧
    ∀ name, name ∈ stage.undeleted ↔ .real name ∈ stage.batch ∧ table.Unmarked name

variable {table table' : Table} {stage stage' : Stage} {name : String}

theorem Table.Unmarked.mem_jobs (h : table.Unmarked name) : .real name ∈ table.jobs :=
  let ⟨entry, hentry, hjob, _⟩ := h
  Table.mem_jobs.2 ⟨entry, hentry, hjob⟩

theorem Table.unmarked_iff {entry : Entry} (h : entry ∈ table.entries) (hjob : entry.job = .real name) :
    table.Unmarked name ↔ entry.deleted = false := by
  constructor
  · rintro ⟨other, hother, hjob', hdeleted⟩
    rwa [Table.unique h hother (hjob.trans hjob'.symm)]
  · exact fun hdeleted => ⟨entry, h, hjob, hdeleted⟩

theorem Table.unmarked_markDeleted {job : String} :
    (table.markDeleted (.real job)).Unmarked name ↔ table.Unmarked name ∧ name ≠ job := by
  constructor
  · rintro ⟨entry', hentry', hjob, hdeleted⟩
    obtain ⟨entry, hentry, hjob', -, hdeleted'⟩ := Table.mem_markDeleted hentry'
    rw [hdeleted', Bool.or_eq_false_iff, beq_eq_false_iff_ne] at hdeleted
    rw [hjob'] at hjob
    exact ⟨⟨entry, hentry, hjob, hdeleted.1⟩, fun h => hdeleted.2 (h ▸ hjob)⟩
  · rintro ⟨⟨entry, hentry, hjob, hdeleted⟩, hne⟩
    refine ⟨entry, Table.mem_modify.2 ⟨entry, hentry, if_neg fun h => hne ?_⟩, hjob, hdeleted⟩
    exact JobId.real.inj (hjob.symm.trans h)

namespace Stage.Tracks

theorem of_unresolved (h : stage.isResolved = false) : stage.Tracks table := fun h' => by
  rw [h] at h'
  exact absurd h' Bool.false_ne_true

/-- A run keeps track so long as nobody else marks jobs of its batch. -/
theorem congr (tracks : stage.Tracks table)
    (h : ∀ name, .real name ∈ stage.batch → (table'.Unmarked name ↔ table.Unmarked name)) :
    stage.Tracks table' := by
  intro hresolved
  obtain ⟨hnodup, hmem⟩ := tracks hresolved
  refine ⟨hnodup, fun name => ?_⟩
  rw [hmem, and_congr_right_iff]
  exact fun hbatch => (h name hbatch).symm

end Stage.Tracks

/-! ## Steps -/

namespace Run

theorem mem_undeleted_of_called (h : .called name ∈ stage.call) :
    stage.isResolved = true ∧ name ∈ stage.undeleted := by
  cases stage with
  | deleting batch job rest =>
    obtain rfl : name = job := by simpa [Stage.call] using h
    exact ⟨rfl, .head _⟩
  | _ => exact absurd h List.not_mem_nil

theorem answered_not_mem_call {answer : Outcome Unit} : .answered name answer ∉ stage.call := by
  cases stage <;> simp [Stage.call]

namespace Step

variable {plan : RunPlan} {now : Nat} {deletions : List Deletion} {job : JobId}

/-- A job is called for when it is the next one. -/
theorem called (step : Step plan now table stage deletions table' stage')
    (h : .called name ∈ deletions) : stage'.isResolved = true ∧ name ∈ stage'.undeleted := by
  cases step with
  | fix | resolve => exact mem_undeleted_of_called h
  | delete =>
    rcases List.mem_cons.1 h with h | h
    · cases h
    · exact mem_undeleted_of_called h
  | refuse =>
    cases List.mem_singleton.1 h
  | _ => exact absurd h List.not_mem_nil

/-- An answer is about the job that the run stands at. -/
theorem answered (step : Step plan now table stage deletions table' stage') {answer : Outcome Unit}
    (h : .answered name answer ∈ deletions) :
    .called name ∈ stage.call := by
  cases step with
  | fix | resolve => exact absurd h answered_not_mem_call
  | delete =>
    rcases List.mem_cons.1 h with h | h
    · cases h
      exact .head _
    · exact absurd h answered_not_mem_call
  | refuse =>
    cases List.mem_singleton.1 h
    exact .head _
  | _ => exact absurd h List.not_mem_nil

/-- What a run waits for after a step, it has just called for, or it has been waiting for already. -/
theorem mem_call (step : Step plan now table stage deletions table' stage') {call : Deletion}
    (h : call ∈ stage'.call) : call ∈ stage.call ∨ call ∈ deletions := by
  cases step with
  | idle => exact .inl h
  | fix | resolve => exact .inr h
  | delete => exact .inr (.tail _ h)
  | expire | hear =>
    rw [call_listNext] at h
    exact absurd h List.not_mem_nil
  | _ => exact absurd h List.not_mem_nil

/-- The batch is fixed from the table. -/
theorem mem_batch (step : Step plan now table stage deletions table' stage')
    (h : job ∈ stage'.batch) : job ∈ stage.batch ∨ job ∈ table.jobs := by
  cases step with
  | fix =>
    rw [batch_fixBatch, Table.mem_jobsFor] at h
    obtain ⟨entry, hentry, hjob, _⟩ := h
    exact .inr (Table.mem_jobs.2 ⟨entry, hentry, hjob⟩)
  | resolve | delete =>
    rw [batch_deleteNext] at h
    exact .inl h
  | expire | hear =>
    rw [batch_listNext] at h
    exact .inl h
  | idle | ask => exact .inl h
  | _ => exact absurd h List.not_mem_nil

/-- A step marks the job whose deletion has succeeded, and no other. -/
theorem mem_marks (step : Step plan now table stage deletions table' stage')
    (closed : ∀ outcome ∈ stage.outcomes, outcome.2.status = .failed) {entry' : Entry}
    (h : entry' ∈ table'.entries) :
    ∃ entry ∈ table.entries, entry'.job = entry.job ∧ (entry'.deleted = true ↔
      entry.deleted = true ∨
        ∃ name, entry.job = .real name ∧ .answered name (.ok ()) ∈ deletions) := by
  have unmarked (hnone : ∀ name, .answered name (.ok ()) ∉ deletions) (entry : Entry) :
      entry.deleted = true ↔ entry.deleted = true ∨
        ∃ name, entry.job = .real name ∧ .answered name (.ok ()) ∈ deletions :=
    (or_iff_left fun ⟨name, _, hmem⟩ => hnone name hmem).symm
  cases step with
  | @resolve batch resolved =>
    have hclosed : ∀ outcome ∈ resolved, outcome.2.status.isPending = false := fun outcome hmem => by
      rw [closed outcome hmem]
      rfl
    obtain ⟨entry, hentry, hjob, hdeleted, _⟩ := Table.mem_resolveAll hclosed h
    refine ⟨entry, hentry, hjob, ?_⟩
    rw [hdeleted]
    exact unmarked (fun _ => answered_not_mem_call) entry
  | @delete batch job rest =>
    obtain ⟨entry, hentry, hjob, -, hdeleted⟩ := Table.mem_markDeleted h
    refine ⟨entry, hentry, hjob, ?_⟩
    rw [hdeleted, Bool.or_eq_true, beq_iff_eq]
    refine or_congr_right ⟨fun h => ⟨job, h, .head _⟩, fun ⟨name, hname, hmem⟩ => ?_⟩
    rcases List.mem_cons.1 hmem with h | h
    · cases h
      exact hname
    · exact absurd h answered_not_mem_call
  | fix => exact ⟨entry', h, rfl, unmarked (fun _ => answered_not_mem_call) entry'⟩
  | refuse => exact ⟨entry', h, rfl, unmarked (fun _ hmem => by simp at hmem) entry'⟩
  | _ => exact ⟨entry', h, rfl, unmarked (fun _ => List.not_mem_nil) entry'⟩

/-- A run keeps track of the jobs that it is yet to delete. -/
theorem tracks (step : Step plan now table stage deletions table' stage')
    (nodup : stage.batch.Nodup) (tracks : stage.Tracks table) : stage'.Tracks table' := by
  cases step with
  | idle => exact tracks
  | fix =>
    intro hresolved
    rw [undeleted_fixBatch hresolved, batch_fixBatch]
    exact ⟨Table.nodup_jobsToDelete Table.nodup_jobsFor, fun _ => Table.mem_jobsToDelete⟩
  | resolve =>
    intro _
    rw [undeleted_deleteNext, batch_deleteNext]
    exact ⟨Table.nodup_jobsToDelete nodup, fun _ => Table.mem_jobsToDelete⟩
  | @delete batch job rest =>
    obtain ⟨hnodup, hmem⟩ := tracks rfl
    obtain ⟨hjob, hrest⟩ := List.nodup_cons.1 hnodup
    intro _
    rw [undeleted_deleteNext, batch_deleteNext]
    refine ⟨hrest, fun name => ?_⟩
    rw [Table.unmarked_markDeleted, ← and_assoc]
    constructor
    · exact fun h => ⟨(hmem name).1 (.tail _ h), fun heq => hjob (heq ▸ h)⟩
    · exact fun ⟨h, hne⟩ => (List.mem_cons.1 ((hmem name).2 h)).resolve_left hne
  | expire | hear => exact .of_unresolved (isResolved_listNext _)
  | _ => exact .of_unresolved rfl

end Step

end Run

/-! ## Moves -/

/-- What the runs have to do with the deletion of jobs, when no two of them work on one batch. -/
structure Orderly (engine : Engine) (notes : List Note) (deletions : List Deletion) : Prop where
  /-- A batch stays in the table so long as its run is under way. -/
  present : ∀ run ∈ engine.runs, ∀ job ∈ run.stage.batch, job ∈ engine.table.jobs
  tracks : ∀ run ∈ engine.runs, run.stage.Tracks engine.table
  /-- What a run waits for has been called for. -/
  asked : ∀ run ∈ engine.runs, ∀ call ∈ run.stage.call, call ∈ deletions
  /-- The marks are of those jobs whose deletion has succeeded. -/
  marks : ∀ name, .real name ∈ engine.table.jobs →
    (engine.table.Unmarked name ↔ .answered name (.ok ()) ∉ deletions)
  /-- Only jobs that were recorded are deleted. -/
  called : ∀ name, .called name ∈ deletions → ∃ result, (.real name, result) ∈ recordings notes
  /-- A deletion succeeds after it has been called for. -/
  answered : ∀ name, .answered name (.ok ()) ∈ deletions →
    [.called name, .answered name (.ok ())].Sublist deletions
  /-- When the deletion of a job has succeeded, it is not called for again. -/
  once : deletions.Pairwise fun earlier later =>
    ∀ name, earlier = .answered name (.ok ()) → later ≠ .called name

theorem Orderly.new (settings : Settings) (work reports : QueueConfig) :
    Orderly (.new settings work reports) [] [] where
  present _ h := absurd h List.not_mem_nil
  tracks _ h := absurd h List.not_mem_nil
  asked _ h := absurd h List.not_mem_nil
  marks _ h := absurd h List.not_mem_nil
  called _ h := absurd h List.not_mem_nil
  answered _ h := absurd h List.not_mem_nil
  once := .nil

/-- A job is in the batch of one run at most, if these are of different image caches. -/
theorem Ledger.unique_run {engine : Engine} {notes : List Note} (ledger : Ledger engine notes)
    (exclusive : engine.Exclusive) (distinct : DistinctNames notes) {run other : ActiveRun}
    (hrun : run ∈ engine.runs) (hother : other ∈ engine.runs) {job : JobId}
    (h : job ∈ run.stage.batch) (h' : job ∈ other.stage.batch) : other = run := by
  obtain ⟨request, hknown, hkey⟩ := (ledger.runs run hrun).batch job h
  obtain ⟨request', hknown', hkey'⟩ := (ledger.runs other hother).batch job h'
  refine exclusive.unique_cacheKey hrun hother ?_
  rw [← hkey, ← hkey', distinct.unique_request _ _ _ hknown hknown']

namespace Effect

variable {engine engine' : Engine} {move : Move} {notes late : List Note}
  {before deletions : List Deletion}

/-- What passes about deletions passes at a step of a run. -/
theorem step_of_mem (effect : Effect engine move engine' late deletions) {deletion : Deletion}
    (h : deletion ∈ deletions) :
    ∃ run ∈ engine.runs, ∃ stage, Run.Step (engine.plan run.cacheKey) engine.now engine.table
      run.stage deletions engine'.table stage := by
  cases effect with
  | step run stage mem step => exact ⟨run, (Engine.mem_of_run? mem).1, stage, step⟩
  | rest _ _ _ hnone | record _ _ _ _ _ _ hnone | settle _ _ _ _ _ hnone
  | start _ _ _ _ _ _ hnone | collect _ _ _ _ _ _ _ _ hnone =>
    rw [hnone] at h
    exact absurd h List.not_mem_nil

/-- A job of a batch is deleted by the run of the batch. -/
theorem answered (effect : Effect engine move engine' late deletions)
    (ledger : Ledger engine notes) (exclusive : engine.Exclusive) (distinct : DistinctNames notes)
    (orderly : Orderly engine notes before) {answer : Outcome Unit}
    (h : .answered name answer ∈ deletions) {run : ActiveRun} (hrun : run ∈ engine.runs)
    (hjob : .real name ∈ run.stage.batch) : .called name ∈ run.stage.call := by
  obtain ⟨other, hother, stage, step⟩ := effect.step_of_mem h
  have hcall := step.answered h
  obtain ⟨hresolved, hmem⟩ := Run.mem_undeleted_of_called hcall
  obtain ⟨hjob', -⟩ := ((orderly.tracks other hother hresolved).2 name).1 hmem
  rwa [← ledger.unique_run exclusive distinct hrun hother hjob hjob']

/-- A job that is in the table stays there, unless it leaves with the batch of a run that ends. -/
theorem mem_jobs (effect : Effect engine move engine' late deletions) (ledger : Ledger engine notes)
    (distinct : DistinctNames (notes ++ late)) {job : JobId} (h : job ∈ engine.table.jobs) :
    job ∈ engine'.table.jobs ∨
      ∃ run ∈ engine.runs, run ∉ engine'.runs ∧ job ∈ run.stage.batch := by
  cases effect with
  | rest table | start _ _ _ table => exact .inl (table ▸ h)
  | record other result _ table _ hnotes =>
    subst hnotes
    have hnew := not_mem_jobs_of_recorded ledger distinct (List.mem_singleton_self (other, result))
    rw [table, Table.jobs_put_of_new hnew]
    exact .inl (List.mem_append_left _ h)
  | settle pod _ table => exact .inl (by rwa [table, Table.jobs_settlePod])
  | step run stage _ step => exact .inl (by rwa [step.jobs])
  | collect run batch mem stage _ table same =>
    by_cases hbatch : job ∈ batch
    · refine .inr ⟨run, (Engine.mem_of_run? mem).1, fun hrun => ?_, by rwa [stage]⟩
      rw [same.runs] at hrun
      simp [Engine.stand] at hrun
    · exact .inl (by rw [table, Table.mem_jobs_without]; exact ⟨h, hbatch⟩)

/-- The mark of an entry after a move: none if the entry is new; otherwise the entry was marked before, or the
    deletion of its job has just succeeded. -/
theorem mem_marks (effect : Effect engine move engine' late deletions) (ledger : Ledger engine notes)
    (distinct : DistinctNames (notes ++ late)) {entry' : Entry}
    (h : entry' ∈ engine'.table.entries) :
    ((∃ result, (entry'.job, result) ∈ recordings late) ∧ entry'.deleted = false ∧ deletions = []) ∨
    ∃ entry ∈ engine.table.entries, entry'.job = entry.job ∧ (entry'.deleted = true ↔
      entry.deleted = true ∨
        ∃ name, entry.job = .real name ∧ .answered name (.ok ()) ∈ deletions) := by
  have kept {entry : Entry} (hnone : deletions = []) (hsame : entry'.deleted = entry.deleted) :
      entry'.deleted = true ↔ entry.deleted = true ∨
        ∃ name, entry.job = .real name ∧ .answered name (.ok ()) ∈ deletions := by
    rw [hsame, hnone]
    exact (or_iff_left fun ⟨_, _, hmem⟩ => absurd hmem List.not_mem_nil).symm
  cases effect with
  | rest table _ _ hnone | start _ _ _ table _ _ hnone =>
    exact .inr ⟨entry', table ▸ h, rfl, kept hnone rfl⟩
  | record job result _ table _ hnotes hnone =>
    subst hnotes
    have hnew := not_mem_jobs_of_recorded ledger distinct (List.mem_singleton_self (job, result))
    rw [table, Table.mem_put_of_new hnew] at h
    rcases h with h | rfl
    · exact .inr ⟨entry', h, rfl, kept hnone rfl⟩
    · exact .inl ⟨⟨result, mem_recordings.2 (List.mem_singleton_self _)⟩, rfl, hnone⟩
  | settle pod _ table _ _ hnone =>
    obtain ⟨entry, hentry, hjob, hdeleted, _⟩ := Table.mem_settlePod (table ▸ h)
    exact .inr ⟨entry, hentry, hjob, kept hnone hdeleted⟩
  | step run stage mem step =>
    have sound := ledger.runs run (Engine.mem_of_run? mem).1
    exact .inr (step.mem_marks (fun outcome houtcome => (sound.outcomes outcome houtcome).2) h)
  | collect run batch _ _ _ table _ _ hnone =>
    rw [table, Table.mem_without] at h
    exact .inr ⟨entry', h.1, rfl, kept hnone rfl⟩

/-- A job that is in the table before and after a move is unmarked after it if it was unmarked before and its
    deletion has not just succeeded. -/
theorem unmarked_iff (effect : Effect engine move engine' late deletions)
    (ledger : Ledger engine notes) (distinct : DistinctNames (notes ++ late))
    (h : .real name ∈ engine.table.jobs) (h' : .real name ∈ engine'.table.jobs) :
    engine'.table.Unmarked name ↔
      engine.table.Unmarked name ∧ .answered name (.ok ()) ∉ deletions := by
  obtain ⟨entry', hentry', hjob'⟩ := Table.mem_jobs.1 h'
  rcases effect.mem_marks ledger distinct hentry' with
    ⟨⟨result, hmem⟩, _⟩ | ⟨entry, hentry, hjob, hmark⟩
  · rw [hjob'] at hmem
    exact absurd h (not_mem_jobs_of_recorded ledger distinct hmem)
  · rw [hjob'] at hjob
    rw [Table.unmarked_iff hentry' hjob', Table.unmarked_iff hentry hjob.symm,
      ← Bool.not_eq_true, ← Bool.not_eq_true, hmark, not_or, ← hjob]
    refine and_congr_right fun _ => not_congr ⟨?_, fun hmem => ⟨name, rfl, hmem⟩⟩
    rintro ⟨_, ⟨⟩, hmem⟩
    exact hmem

section

variable (effect : Effect engine move engine' late deletions) (ledger : Ledger engine notes)
  (exclusive : engine.Exclusive) (distinct : DistinctNames (notes ++ late))
  (order : Orderly engine notes before)

include effect ledger exclusive distinct order

theorem present {run : ActiveRun} (hrun : run ∈ engine'.runs) {job : JobId}
    (hjob : job ∈ run.stage.batch) : job ∈ engine'.table.jobs := by
  rcases effect.mem_runs ledger.numbered hrun with
    hold | ⟨_, _, rfl⟩ | ⟨old, hold, stage, rfl, step⟩
  · rcases effect.mem_jobs ledger distinct (order.present run hold job hjob) with
      h | ⟨other, hother, hended, hjob'⟩
    · exact h
    · rw [← ledger.unique_run exclusive distinct.early hold hother hjob hjob'] at hrun
      exact absurd hrun hended
  · exact absurd hjob List.not_mem_nil
  · rw [step.jobs]
    rcases step.mem_batch hjob with h | h
    · exact order.present old hold job h
    · exact h

/-- What a run keeps track of is not touched by others. -/
theorem tracks {run : ActiveRun} (hrun : run ∈ engine'.runs) : run.stage.Tracks engine'.table := by
  -- A run that stays where it is keeps track, as nothing is heard about its own jobs.
  have stays (hold : run ∈ engine.runs)
      (h : ∀ name, .real name ∈ run.stage.batch → .answered name (.ok ()) ∉ deletions) :
      run.stage.Tracks engine'.table := by
    refine (order.tracks run hold).congr fun name hjob => ?_
    rw [effect.unmarked_iff ledger distinct (order.present run hold _ hjob)
      (effect.present ledger exclusive distinct order hrun hjob)]
    exact and_iff_left (h name hjob)
  have rests (hold : run ∈ engine.runs) (hnone : deletions = []) :
      run.stage.Tracks engine'.table :=
    stays hold fun _ _ => hnone ▸ List.not_mem_nil
  have effect' := effect
  cases effect with
  | rest _ same _ hnone | record _ _ _ _ same _ hnone | settle _ _ _ same _ hnone =>
    exact rests (same.runs ▸ hrun) hnone
  | start cacheKey guarded _ _ same _ hnone =>
    rw [same.runs] at hrun
    rcases List.mem_append.1 hrun with h | h
    · exact rests h hnone
    · rw [List.mem_singleton.1 h]
      exact .of_unresolved rfl
  | collect _ _ _ _ _ _ same _ hnone =>
    rw [same.runs] at hrun
    exact rests (List.mem_filter.1 hrun).1 hnone
  | step moved stage mem step same =>
    have hmoved := (Engine.mem_of_run? mem).1
    rw [same.runs] at hrun
    rcases Engine.mem_runs_stand ledger.numbered hmoved hrun with ⟨hold, hnumber⟩ | rfl
    · refine stays hold fun name hjob hanswered => hnumber ?_
      obtain ⟨hresolved, hmem⟩ := Run.mem_undeleted_of_called (step.answered hanswered)
      obtain ⟨hjob', -⟩ := ((order.tracks moved hmoved hresolved).2 name).1 hmem
      rw [ledger.unique_run exclusive distinct.early hold hmoved hjob hjob']
    · exact step.tracks (ledger.runs moved hmoved).nodup (order.tracks moved hmoved)

omit exclusive in
/-- The marks are of those jobs whose deletion has succeeded, and a new job has no mark. -/
theorem marks (h : .real name ∈ engine'.table.jobs) :
    engine'.table.Unmarked name ↔ .answered name (.ok ()) ∉ before ++ deletions := by
  rw [List.mem_append, not_or]
  by_cases hold : .real name ∈ engine.table.jobs
  · rw [effect.unmarked_iff ledger distinct hold h, order.marks name hold]
  · -- The entry is new, and nothing can have been heard of its job.
    obtain ⟨entry, hentry, hjob⟩ := Table.mem_jobs.1 h
    rcases effect.mem_marks ledger distinct hentry with
      ⟨⟨result, hmem⟩, hdeleted, hnone⟩ | ⟨old, hmem, hsame, _⟩
    · rw [Table.unmarked_iff hentry hjob, hnone]
      refine iff_of_true hdeleted ⟨fun hanswered => ?_, List.not_mem_nil⟩
      obtain ⟨_, hearly⟩ :=
        order.called name ((order.answered name hanswered).subset (List.mem_cons_self ..))
      rw [hjob] at hmem
      exact distinct.not_mem hmem hearly
    · exact absurd (Table.mem_jobs.2 ⟨old, hmem, hsame.symm.trans hjob⟩) hold

omit exclusive distinct in
/-- What is called for is a job of a batch that is not marked after the move. -/
theorem unmarked_of_called (h : .called name ∈ deletions) :
    engine'.table.Unmarked name ∧ ∃ result, (.real name, result) ∈ recordings notes := by
  obtain ⟨run, hrun, stage, step⟩ := effect.step_of_mem h
  have sound := ledger.runs run hrun
  obtain ⟨hresolved, hmem⟩ := step.called h
  obtain ⟨hjob, hunmarked⟩ :=
    ((step.tracks sound.nodup (order.tracks run hrun) hresolved).2 name).1 hmem
  obtain ⟨request, ⟨result, hrecorded, _⟩, _⟩ := (step.sound sound ledger.requested).batch _ hjob
  exact ⟨hunmarked, result, hrecorded⟩

/-- Every move keeps order. -/
theorem orderly : Orderly engine' (notes ++ late) (before ++ deletions) where
  present _ hrun _ hjob := effect.present ledger exclusive distinct order hrun hjob
  tracks _ hrun := effect.tracks ledger exclusive distinct order hrun
  asked run hrun call hcall := by
    rw [List.mem_append]
    rcases effect.mem_runs ledger.numbered hrun with
      hold | ⟨_, _, rfl⟩ | ⟨old, hold, stage, rfl, step⟩
    · exact .inl (order.asked run hold call hcall)
    · exact absurd hcall List.not_mem_nil
    · exact (step.mem_call hcall).imp_left (order.asked old hold call)
  marks _ h := effect.marks ledger distinct order h
  called name h := by
    rw [recordings_append]
    rcases List.mem_append.1 h with h | h
    · obtain ⟨result, hmem⟩ := order.called name h
      exact ⟨result, List.mem_append_left _ hmem⟩
    · obtain ⟨-, result, hmem⟩ :=
        effect.unmarked_of_called ledger order h
      exact ⟨result, List.mem_append_left _ hmem⟩
  answered name h := by
    rcases List.mem_append.1 h with h | h
    · exact (order.answered name h).trans (List.sublist_append_left _ _)
    · obtain ⟨run, hrun, stage, step⟩ := effect.step_of_mem h
      have hcalled := order.asked run hrun _ (step.answered h)
      exact (List.singleton_sublist.2 hcalled).append (List.singleton_sublist.2 h)
  once := by
    -- A job that is called for is unmarked, so its deletion has not succeeded so far.
    have key (earlier later : Deletion) (hearlier : earlier ∈ before ++ deletions)
        (hlater : later ∈ deletions) (name : String) (hanswered : earlier = .answered name (.ok ())) :
        later ≠ .called name := by
      rintro rfl
      obtain ⟨hunmarked, -⟩ := effect.unmarked_of_called ledger order hlater
      exact (effect.marks ledger distinct order hunmarked.mem_jobs).1 hunmarked
        (hanswered ▸ hearlier)
    refine List.pairwise_append.2 ⟨order.once, ?_, fun earlier hearlier later hlater =>
      key earlier later (List.mem_append_left _ hearlier) hlater⟩
    exact List.pairwise_of_forall_mem_list fun earlier hearlier later hlater =>
      key earlier later (List.mem_append_right _ hearlier) hlater

end

end Effect

/-! ## Courses -/

section

variable {settings : Settings} {work reports : QueueConfig} {moves : List Move}

theorem orderly_after (inner : ∀ move ∈ moves, move.isInner = true)
    (guarded : ∀ move ∈ moves, move.isGuarded = true)
    (distinct : DistinctNames ((Engine.new settings work reports).notes moves)) :
    Orderly ((Engine.new settings work reports).after moves)
      ((Engine.new settings work reports).notes moves)
      ((Engine.new settings work reports).deletions moves) := by
  induction moves using List.reverseRecOn with
  | nil => exact .new settings work reports
  | append_singleton moves move ih =>
    have inner' : ∀ move ∈ moves, move.isInner = true := fun move h => inner move (by simp [h])
    have guarded' : ∀ move ∈ moves, move.isGuarded = true := fun move h => guarded move (by simp [h])
    rw [Engine.notes_concat] at distinct ⊢
    rw [Engine.after_concat, Engine.deletions_concat]
    exact (act_effect (inner move (by simp))).orderly (ledger_after inner' distinct.early)
      (exclusive_after inner' guarded') distinct (ih inner' guarded' distinct.early)

end

/-- In a course in which all runs are guarded, the cluster is asked to delete jobs that were created, and none
    that are synthetic; when the deletion of a job has succeeded, it is not asked again; and when a batch is
    put up for reporting, the deletion of every job in it has been called for and has succeeded before. -/
theorem deleted_once_before_report (settings : Settings) (work reports : QueueConfig)
    (moves : List Move) (inner : ∀ move ∈ moves, move.isInner = true)
    (guarded : ∀ move ∈ moves, move.isGuarded = true)
    (distinct : DistinctNames ((Engine.new settings work reports).notes moves)) :
    let start := Engine.new settings work reports
    (∀ name, .called name ∈ start.deletions moves →
      (∃ result, .recorded (.real name) result ∈ start.notes moves) ∧
        ∀ result, .recorded (.synthetic name) result ∉ start.notes moves) ∧
    ((start.deletions moves).Pairwise fun earlier later =>
      ∀ name, earlier = .answered name (.ok ()) → later ≠ .called name) ∧
    ∀ early move late, moves = early ++ move :: late →
      ∀ update ∈ updates ((start.after early).act move).2,
      ∀ name result, (.real name, result) ∈ update.results →
        [.called name, .answered name (.ok ())].Sublist (start.deletions early) := by
  intro start
  have orderly : Orderly (start.after moves) (start.notes moves) (start.deletions moves) :=
    orderly_after inner guarded distinct
  refine ⟨fun name hcalled => ?_, orderly.once, ?_⟩
  · obtain ⟨result, hmem⟩ := orderly.called name hcalled
    refine ⟨⟨result, mem_recordings.1 hmem⟩, fun result' hmem' => ?_⟩
    -- A synthetic job of the same name would be another one.
    have := List.inj_on_of_nodup_map distinct hmem (mem_recordings.2 hmem') rfl
    cases congrArg Prod.fst this
  · rintro early move late rfl update hupdate name result hresult
    have inner' : ∀ move ∈ early, move.isInner = true := fun move h => inner move (by simp [h])
    have distinct' : DistinctNames (start.notes early) := by
      rw [Engine.notes_append] at distinct
      exact distinct.early
    have orderly : Orderly (start.after early) (start.notes early) (start.deletions early) :=
      orderly_after inner' (fun move h => guarded move (by simp [h])) distinct'
    have effect : Effect (start.after early) move _ _ _ := act_effect (inner move (by simp))
    obtain ⟨number, hemitted⟩ := mem_updates.1 hupdate
    obtain ⟨run, batch, hrun, -, hstage, rfl⟩ := effect.collecting_of_emitted hemitted
    obtain ⟨hbatch, entry, hentry, hjob, -⟩ := Table.mem_results.1 hresult
    have tracks := orderly.tracks run hrun
    rw [hstage] at tracks
    -- All jobs of the batch have been deleted, so none is unmarked.
    have hmarked : ¬ (start.after early).table.Unmarked name := fun hunmarked =>
      absurd (((tracks rfl).2 name).2 ⟨hbatch, hunmarked⟩) List.not_mem_nil
    rw [orderly.marks name (Table.mem_jobs.2 ⟨entry, hentry, hjob⟩), not_not] at hmarked
    exact orderly.answered name hmarked

/-- The first run is told that the job cannot be deleted, and the second one has it deleted. -/
theorem deleted_once_before_report_resumption :
    Engine.hasty.deletions resumption = [.called "j", .answered "j" (.error .missing), .called "j",
      .answered "j" (.ok ())] ∧
    resumption = resumption.take 15 ++ .collect 1 :: [] ∧
    [.called "j", .answered "j" (.ok ())].Sublist (Engine.hasty.deletions (resumption.take 15)) := by
  have hsplit : resumption = resumption.take 15 ++ .collect 1 :: [] := rfl
  have hupdates : (updates ((Engine.hasty.after (resumption.take 15)).act (.collect 1)).2).map
      Update.jobs = [[.real "j", .fresh 0]] := by decide +kernel
  obtain ⟨update, hupdate, hjobs⟩ := List.mem_map.1 (hupdates ▸ List.mem_singleton_self _)
  have hjob : JobId.real "j" ∈ update.jobs := hjobs ▸ List.mem_cons_self ..
  obtain ⟨⟨_, result⟩, hresult, rfl⟩ := List.mem_map.1 hjob
  obtain ⟨-, -, hreported⟩ := deleted_once_before_report { deadlineMs := 0 } {} {} resumption
    (by decide) (by decide) (by decide +kernel)
  exact ⟨by decide +kernel, hsplit, hreported _ _ _ hsplit update hupdate _ result hresult⟩

end NodeImages.Work
