import NodeImages.Proofs.Batch
import NodeImages.Proofs.Deletion

/-!
# What a run writes

A run writes to the table at two points only: when it has looked into all open jobs of its batch, it applies
what it has come to about them, all at once, and when a job has been deleted, it marks the job.

* `Table.Written`: how a table has been written to, shown of a step by `Run.Step.written`;
* `Table.Examined`: what a run knows of the open jobs of its image cache, kept by `Run.Step.examined`;
* `Run.Step.spares`: before its open jobs are resolved, a run does not write at all;
* `Table.LeftOver`: how a run leaves the table that cannot delete all jobs.
-/

namespace NodeImages.Work

open Cluster

/-! ## Writes -/

/-- The outcomes of open jobs that are applied when a run goes from one stage to another. -/
def Stage.outcomesTo (stage stage' : Stage) : List (JobId × Result) :=
  if stage.isResolved = false ∧ stage'.isResolved = true then stage.outcomes else []

/-- The cluster has deleted a job. -/
def IsDeleted (deletions : List Deletion) (job : JobId) : Prop :=
  ∃ name, job = .real name ∧ .answered name (.ok ()) ∈ deletions

/-- An entry is of a job that was created for an image cache and is still open. -/
def Entry.isOpenOf (entry : Entry) (cacheKey : String) : Bool :=
  entry.job.isReal && entry.cacheKey == cacheKey && entry.isPending

namespace Table

/-- How a table has been written to: outcomes have been applied to its open entries, and the jobs that were
    deleted have been marked. Nothing else has changed. -/
structure Written (outcomes : List (JobId × Result)) (deletions : List Deletion) (table table' : Table) :
    Prop where
  jobs : table'.jobs = table.jobs
  marks : ∀ entry ∈ table.entries, ∀ entry' ∈ table'.entries, entry'.job = entry.job →
    (entry'.deleted = true ↔ entry.deleted = true ∨ IsDeleted deletions entry.job)
  results : ∀ entry ∈ table.entries, ∀ entry' ∈ table'.entries, entry'.job = entry.job →
    (entry.isPending = true ∧ (entry.job, entry'.result) ∈ outcomes) ∨
      ((entry.isPending = true → entry.job ∉ outcomes.map Prod.fst) ∧ entry'.result = entry.result)

/-- What is known of the open jobs of an image cache: some have outcomes, all of which are failures for the same
    request, and the others are known as they are. -/
structure Examined (table : Table) (cacheKey : String) (outcomes unseen : List (JobId × Result)) :
    Prop where
  covers : ∀ entry ∈ table.entries, entry.isOpenOf cacheKey = true →
    entry.job ∈ (unseen ++ outcomes).map Prod.fst
  unseen : ∀ copy ∈ unseen, ∃ entry ∈ table.entries, entry.isOpenOf cacheKey = true ∧ copy = entry.row
  outcomes : ∀ outcome ∈ outcomes, outcome.2.status = .failed ∧
    ∃ entry ∈ table.entries, entry.isOpenOf cacheKey = true ∧ entry.job = outcome.1 ∧
      outcome.2.request = entry.result.request

/-- How a table is left by a run that has failed the open jobs of an image cache but could not delete all jobs:
    what was open is a failure, for the same request, and just the jobs that were deleted are newly marked. -/
structure LeftOver (cacheKey : String) (outcomes : List (JobId × Result)) (deletions : List Deletion)
    (table table' : Table) : Prop extends table.Written outcomes deletions table' where
  failed : ∀ entry ∈ table.entries, ∀ entry' ∈ table'.entries, entry'.job = entry.job →
    if entry.isOpenOf cacheKey then
      entry'.result.status = .failed ∧ entry'.result.request = entry.result.request
    else entry'.result = entry.result
  due : ∀ name, IsDeleted deletions (.real name) →
    .real name ∈ table.jobsFor cacheKey ∧ table.Unmarked name

end Table

variable {table table' table'' : Table} {cacheKey : String} {outcomes unseen : List (JobId × Result)}
  {deletions late : List Deletion} {entry : Entry} {job : JobId}

/-- A job has been deleted if it was deleted early or late. -/
theorem isDeleted_append :
    IsDeleted (deletions ++ late) job ↔ IsDeleted deletions job ∨ IsDeleted late job := by
  simp only [IsDeleted, List.mem_append, and_or_left, exists_or]

theorem not_isDeleted_call {stage : Stage} : ¬ IsDeleted stage.call job :=
  fun ⟨_, _, h⟩ => Run.answered_not_mem_call h

theorem Entry.isOpenOf_iff : entry.isOpenOf cacheKey = true ↔
    (∃ name, entry.job = .real name) ∧ entry.cacheKey = cacheKey ∧ entry.isPending = true := by
  rw [Entry.isOpenOf, Bool.and_eq_true, Bool.and_eq_true, beq_iff_eq, and_assoc]
  refine and_congr_left fun _ => ?_
  cases entry.job <;> simp [JobId.isReal]

namespace Table

theorem jobsToDelete_nil : table.jobsToDelete [] = [] := by
  rw [jobsToDelete, List.filterMap_nil, List.mergeSort_nil]

/-- The open jobs of an image cache are known with their results so far. -/
theorem mem_openJobs_jobsFor {name : String} {result : Result} :
    (name, result) ∈ Run.openJobs table (table.jobsFor cacheKey) ↔
      ∃ entry ∈ table.entries, entry.isOpenOf cacheKey = true ∧ Stage.copy (name, result) = entry.row := by
  simp only [Run.mem_openJobs, mem_jobsFor, Entry.isOpenOf_iff, Stage.copy, Entry.row, Prod.mk.injEq]
  constructor
  · rintro ⟨⟨other, hother, hjob', hkey⟩, entry, hentry, hjob, hopen, rfl⟩
    obtain rfl := unique hother hentry (hjob'.trans hjob.symm)
    exact ⟨other, hentry, ⟨⟨name, hjob⟩, hkey, hopen⟩, hjob.symm, rfl⟩
  · rintro ⟨entry, hentry, ⟨-, hkey, hopen⟩, hjob, rfl⟩
    exact ⟨⟨entry, hentry, hjob.symm, hkey⟩, entry, hentry, hjob.symm, hopen, rfl⟩

namespace Written

/-- A table is as it was when nothing has been written to it. -/
theorem refl (none : ∀ job, ¬ IsDeleted deletions job) : table.Written [] deletions table where
  jobs := rfl
  marks entry h entry' h' same := by
    rw [unique h' h same]
    exact (or_iff_left (none _)).symm
  results entry h entry' h' same := .inr ⟨fun _ => List.not_mem_nil, by rw [unique h' h same]⟩

/-- Jobs are marked after outcomes have been applied. -/
theorem trans (h : table.Written outcomes deletions table') (h' : table'.Written [] late table'') :
    table.Written outcomes (deletions ++ late) table'' where
  jobs := h'.jobs.trans h.jobs
  marks entry hentry entry'' hentry'' same := by
    obtain ⟨entry', hentry', hjob⟩ := mem_jobs.1 (h.jobs ▸ mem_jobs.2 ⟨entry, hentry, rfl⟩)
    rw [h'.marks entry' hentry' entry'' hentry'' (same.trans hjob.symm),
      h.marks entry hentry entry' hentry' hjob, hjob, or_assoc, isDeleted_append]
  results entry hentry entry'' hentry'' same := by
    obtain ⟨entry', hentry', hjob⟩ := mem_jobs.1 (h.jobs ▸ mem_jobs.2 ⟨entry, hentry, rfl⟩)
    rcases h'.results entry' hentry' entry'' hentry'' (same.trans hjob.symm) with ⟨_, hmem⟩ | ⟨_, heq⟩
    · exact absurd hmem List.not_mem_nil
    · rw [heq]
      exact h.results entry hentry entry' hentry' hjob

end Written

namespace Examined

/-- When no job is left to be looked into, the outcomes are those of the open jobs. -/
theorem mem_jobs_iff (examined : table.Examined cacheKey outcomes []) (h : entry ∈ table.entries) :
    entry.job ∈ outcomes.map Prod.fst ↔ entry.isOpenOf cacheKey = true := by
  constructor
  · intro hmem
    obtain ⟨outcome, houtcome, hjob⟩ := List.mem_map.1 hmem
    obtain ⟨-, other, hother, hopen, hjob', -⟩ := examined.outcomes outcome houtcome
    rwa [unique h hother (hjob.symm.trans hjob'.symm)]
  · exact examined.covers entry h

/-- There are no outcomes for an image cache without entries. -/
theorem outcomes_eq_nil (examined : table.Examined cacheKey outcomes unseen)
    (h : table.jobsFor cacheKey = []) : outcomes = [] := by
  refine List.eq_nil_iff_forall_not_mem.2 fun outcome houtcome => ?_
  obtain ⟨-, entry, hentry, hopen, -⟩ := examined.outcomes outcome houtcome
  have hjob := mem_jobsFor.2 ⟨entry, hentry, rfl, (Entry.isOpenOf_iff.1 hopen).2.1⟩
  rw [h] at hjob
  exact List.not_mem_nil hjob

/-- Written to with the outcomes of all open jobs, a table has them failed, and its other results unchanged. -/
theorem leftOver (examined : table.Examined cacheKey outcomes [])
    (written : table.Written outcomes deletions table')
    (due : ∀ name, IsDeleted deletions (.real name) →
      .real name ∈ table.jobsFor cacheKey ∧ table.Unmarked name) :
    table.LeftOver cacheKey outcomes deletions table' where
  toWritten := written
  failed entry h entry' h' same := by
    rcases written.results entry h entry' h' same with ⟨-, hmem⟩ | ⟨hnot, hresult⟩
    · obtain ⟨hfailed, other, hother, hopen, hjob, hrequest⟩ := examined.outcomes _ hmem
      obtain rfl := unique hother h hjob
      rw [if_pos hopen]
      exact ⟨hfailed, hrequest⟩
    · rw [if_neg, hresult]
      exact fun hopen => hnot (Entry.isOpenOf_iff.1 hopen).2.2 ((examined.mem_jobs_iff h).2 hopen)
  due := due

end Examined

/-- When the batch is fixed, all open jobs are known from the table. -/
theorem examined_openJobs (table : Table) (cacheKey : String) :
    table.Examined cacheKey [] ((Run.openJobs table (table.jobsFor cacheKey)).map Stage.copy) where
  covers entry h hopen := by
    obtain ⟨⟨name, hjob⟩, -⟩ := Entry.isOpenOf_iff.1 hopen
    rw [List.append_nil]
    have hcopy : Stage.copy (name, entry.result) = entry.row := Prod.ext hjob.symm rfl
    exact List.mem_map.2 ⟨entry.row, hcopy ▸ List.mem_map.2
      ⟨_, mem_openJobs_jobsFor.2 ⟨entry, h, hopen, hcopy⟩, rfl⟩, rfl⟩
  unseen copy h := by
    obtain ⟨⟨name, result⟩, hmem, rfl⟩ := List.mem_map.1 h
    exact mem_openJobs_jobsFor.1 hmem
  outcomes _ h := absurd h List.not_mem_nil

end Table

/-! ## Steps -/

namespace Stage

variable {stage stage' : Stage}

/-- Outcomes are applied once. -/
theorem outcomesTo_of_resolved (h : stage.isResolved = true) : stage.outcomesTo stage' = [] :=
  if_neg fun h' => Bool.false_ne_true (h'.1.symm.trans h)

/-- Outcomes are not applied on the way to a stage at which they are yet to be. -/
theorem outcomesTo_of_unresolved (h : stage'.isResolved = false) : stage.outcomesTo stage' = [] :=
  if_neg fun h' => Bool.false_ne_true (h.symm.trans h'.2)

theorem outcomesTo_self (stage : Stage) : stage.outcomesTo stage = [] :=
  if_neg fun h => Bool.false_ne_true (h.1.symm.trans h.2)

theorem outcomes_of_isResolved (h : stage.isResolved = true) : stage.outcomes = [] := by
  cases stage <;> first | rfl | cases h

/-- A run has no outcomes before its batch is fixed. -/
theorem outcomes_of_not_isFixed (h : stage.isFixed = false) : stage.outcomes = [] := by
  cases stage <;> first | rfl | cases h

theorem call_eq_nil (h : stage.undeleted = []) : stage.call = [] := by
  cases stage with
  | deleting => exact absurd h (List.cons_ne_nil _ _)
  | _ => rfl

/-- Open jobs are resolved only when the batch is fixed. -/
theorem isFixed_of_isResolved (h : stage.isResolved = true) : stage.isFixed = true := by
  cases stage <;> first | rfl | exact absurd h Bool.false_ne_true

theorem unresolved_of_unfixed (h : stage.isFixed = false) : stage.isResolved = false := by
  cases stage <;> first | rfl | exact absurd h.symm Bool.false_ne_true

end Stage

namespace Run

@[simp] theorem isResolved_deleteNext {batch : List JobId} (jobs : List String) :
    (deleteNext batch jobs).isResolved = true := by
  cases jobs <;> rfl

@[simp] theorem isFixed_listNext {batch : List JobId} {resolved : List (JobId × Result)}
    (jobs : List OpenJob) : (listNext batch resolved jobs).isFixed = true := by
  cases jobs <;> rfl

@[simp] theorem isFixed_fixBatch {plan : RunPlan} : (fixBatch plan table).isFixed = true := by
  rw [fixBatch_eq]
  split
  · exact Stage.isFixed_of_isResolved (isResolved_deleteNext _)
  · exact isFixed_listNext _

namespace Step

variable {plan : RunPlan} {now : Nat} {stage stage' : Stage} {entry' : Entry}

/-- A run that waits has not fixed its batch. -/
theorem unfixed_of_deadline? {deadline : Nat} (h : stage.deadline? plan now = some deadline) :
    stage.isFixed = false ∧ stage.outcomes = [] := by
  cases stage <;> first | exact ⟨rfl, rfl⟩ | exact absurd h (Option.some_ne_none _).symm

/-- Before its open jobs are resolved, a run neither writes to the table nor has a job deleted. -/
theorem spares (step : Step plan now table stage deletions table' stage')
    (unresolved : stage.isResolved = false) (unresolved' : stage'.isResolved = false) :
    table' = table ∧ deletions = [] := by
  cases step with
  | fix =>
    rw [fixBatch_eq] at unresolved' ⊢
    split at unresolved'
    · rw [isResolved_deleteNext] at unresolved'
      exact absurd unresolved'.symm Bool.false_ne_true
    · rename_i hopen
      rw [if_neg hopen]
      exact ⟨rfl, call_listNext _⟩
  | resolve | delete =>
    rw [isResolved_deleteNext] at unresolved'
    exact absurd unresolved'.symm Bool.false_ne_true
  | refuse => exact absurd unresolved.symm Bool.false_ne_true
  | _ => exact ⟨rfl, rfl⟩

/-- After a step every entry has the outcome that was applied to it, or its result from before. -/
theorem mem_results (step : Step plan now table stage deletions table' stage')
    (closed : ∀ outcome ∈ stage.outcomes, outcome.2.status = .failed) (h : entry' ∈ table'.entries) :
    ∃ entry ∈ table.entries, entry'.job = entry.job ∧
      ((entry.isPending = true ∧ (entry.job, entry'.result) ∈ stage.outcomesTo stage') ∨
        ((entry.isPending = true → entry.job ∉ (stage.outcomesTo stage').map Prod.fst) ∧
          entry'.result = entry.result)) := by
  have keeps (hnone : stage.outcomesTo stage' = []) {entry : Entry} (hresult : entry'.result = entry.result) :
      (entry.isPending = true ∧ (entry.job, entry'.result) ∈ stage.outcomesTo stage') ∨
        ((entry.isPending = true → entry.job ∉ (stage.outcomesTo stage').map Prod.fst) ∧
          entry'.result = entry.result) := by
    rw [hnone]
    exact .inr ⟨fun _ => List.not_mem_nil, hresult⟩
  cases step with
  | @resolve batch resolved =>
    have hclosed : ∀ outcome ∈ resolved, outcome.2.status.isPending = false := fun outcome hmem => by
      rw [closed outcome hmem]
      rfl
    obtain ⟨entry, hentry, hjob, -, hresult⟩ := Table.mem_resolveAll hclosed h
    rw [Stage.outcomesTo, if_pos ⟨rfl, isResolved_deleteNext _⟩]
    exact ⟨entry, hentry, hjob, hresult⟩
  | delete =>
    obtain ⟨entry, hentry, hjob, hresult, -⟩ := Table.mem_markDeleted h
    exact ⟨entry, hentry, hjob, keeps (Stage.outcomesTo_of_resolved rfl) hresult⟩
  | idle => exact ⟨entry', h, rfl, keeps (Stage.outcomesTo_self _) rfl⟩
  | fix hdeadline =>
    refine ⟨entry', h, rfl, keeps ?_ rfl⟩
    rw [Stage.outcomesTo, (unfixed_of_deadline? hdeadline).2, ite_self]
  | expire | hear =>
    exact ⟨entry', h, rfl, keeps (Stage.outcomesTo_of_unresolved (isResolved_listNext _)) rfl⟩
  | _ => exact ⟨entry', h, rfl, keeps (Stage.outcomesTo_of_unresolved rfl) rfl⟩

/-- In a step, a run applies its outcomes when it has come to the end of the open jobs, and marks the job that
    has been deleted. -/
theorem written (step : Step plan now table stage deletions table' stage')
    (closed : ∀ outcome ∈ stage.outcomes, outcome.2.status = .failed) :
    table.Written (stage.outcomesTo stage') deletions table' where
  jobs := step.jobs
  marks entry h entry' h' same := by
    obtain ⟨other, hother, hjob, hmarks⟩ := step.mem_marks closed h'
    rwa [Table.unique hother h (hjob.symm.trans same)] at hmarks
  results entry h entry' h' same := by
    obtain ⟨other, hother, hjob, hresult⟩ := step.mem_results closed h'
    rwa [Table.unique hother h (hjob.symm.trans same)] at hresult

/-- When no job is left to be deleted, a run does not touch the table any more. -/
theorem rest_of_undeleted (step : Step plan now table stage deletions table' stage')
    (resolved : stage.isResolved = true) (h : stage.undeleted = []) :
    stage'.undeleted = [] ∧ table' = table ∧ deletions = [] := by
  cases step with
  | idle => exact ⟨h, rfl, rfl⟩
  | fail => exact ⟨rfl, rfl, rfl⟩
  | wait _ hdeadline => exact ⟨rfl, rfl, rfl⟩
  | fix hdeadline =>
    exact absurd (Stage.isFixed_of_isResolved resolved)
      (by rw [(unfixed_of_deadline? hdeadline).1]; exact Bool.false_ne_true)
  | delete | refuse => exact absurd h (List.cons_ne_nil _ _)
  | _ => exact absurd resolved Bool.false_ne_true

/-- A job that is deleted was still to be deleted, and no new one joins those. -/
theorem mem_undeleted {name : String} (step : Step plan now table stage deletions table' stage')
    (resolved : stage.isResolved = true)
    (h : name ∈ stage'.undeleted ∨ IsDeleted deletions (.real name)) : name ∈ stage.undeleted := by
  cases step with
  | idle => exact h.resolve_right fun ⟨_, _, hmem⟩ => List.not_mem_nil hmem
  | wait | fail =>
    rcases h with h | ⟨_, _, hmem⟩
    · exact absurd h List.not_mem_nil
    · exact absurd hmem List.not_mem_nil
  | fix hdeadline =>
    exact absurd (Stage.isFixed_of_isResolved resolved)
      (by rw [(unfixed_of_deadline? hdeadline).1]; exact Bool.false_ne_true)
  | @delete batch job rest =>
    rw [undeleted_deleteNext] at h
    rcases h with h | ⟨other, hname, hmem⟩
    · exact .tail _ h
    · rcases List.mem_cons.1 hmem with heq | hcall
      · cases heq
        cases hname
        exact .head _
      · exact absurd hcall answered_not_mem_call
  | refuse =>
    rcases h with h | ⟨_, _, hmem⟩
    · exact absurd h List.not_mem_nil
    · cases List.mem_singleton.1 hmem
  | _ => exact absurd resolved Bool.false_ne_true

/-! Where a step leads to that does not end the run. -/

/-- The batch is fixed in one step, which leaves the table alone. -/
theorem fixBatch_of_unfixed (step : Step plan now table stage deletions table' stage')
    (unfixed : stage.isFixed = false) (fixed' : stage'.isFixed = true) :
    stage' = fixBatch plan table ∧ deletions = (fixBatch plan table).call ∧ table' = table := by
  cases step with
  | fix => exact ⟨rfl, rfl, rfl⟩
  | idle => rw [unfixed] at fixed'; exact absurd fixed' Bool.false_ne_true
  | wait | stick | fail => exact absurd fixed' Bool.false_ne_true
  | _ => exact absurd unfixed.symm Bool.false_ne_true

/-- The open jobs are resolved in one step, when all have been looked into. -/
theorem resolve_of_unresolved (step : Step plan now table stage deletions table' stage')
    (fixed : stage.isFixed = true) (unresolved : stage.isResolved = false)
    (resolved' : stage'.isResolved = true) :
    stage.unseen = [] ∧
      stage' = deleteNext stage.batch ((table.resolveAll stage.outcomes).jobsToDelete stage.batch) ∧
      deletions = stage'.call ∧ table' = table.resolveAll stage.outcomes := by
  cases step with
  | resolve => exact ⟨rfl, rfl, rfl, rfl⟩
  | idle => rw [unresolved] at resolved'; exact absurd resolved' Bool.false_ne_true
  | fix hdeadline =>
    rw [(unfixed_of_deadline? hdeadline).1] at fixed
    exact absurd fixed Bool.false_ne_true
  | expire | hear =>
    rw [isResolved_listNext] at resolved'
    exact absurd resolved' Bool.false_ne_true
  | delete | refuse => exact absurd unresolved.symm Bool.false_ne_true
  | _ => exact absurd resolved' Bool.false_ne_true

/-- A batch that has been fixed stays fixed until the run ends. -/
theorem fixed (step : Step plan now table stage deletions table' stage') (fixed : stage.isFixed = true)
    (going' : ∀ outcome, stage' ≠ .ended outcome) : stage'.isFixed = true := by
  cases step with
  | idle => exact fixed
  | wait _ hdeadline =>
    rw [(unfixed_of_deadline? hdeadline).1] at fixed
    exact absurd fixed Bool.false_ne_true
  | stick => exact absurd fixed Bool.false_ne_true
  | fix => exact isFixed_fixBatch
  | fail | refuse => exact absurd rfl (going' _)
  | ask => rfl
  | expire | hear => exact isFixed_listNext _
  | resolve | delete => exact Stage.isFixed_of_isResolved (isResolved_deleteNext _)

/-- Open jobs that have been resolved stay so. -/
theorem resolved (step : Step plan now table stage deletions table' stage')
    (resolved : stage.isResolved = true) (fixed' : stage'.isFixed = true) : stage'.isResolved = true := by
  cases step with
  | idle => exact resolved
  | delete => exact isResolved_deleteNext _
  | fix hdeadline =>
    exact absurd (Stage.isFixed_of_isResolved resolved)
      (by rw [(unfixed_of_deadline? hdeadline).1]; exact Bool.false_ne_true)
  | wait | fail | refuse => exact absurd fixed' Bool.false_ne_true
  | _ => exact absurd resolved Bool.false_ne_true

/-- Once the batch is fixed, it stays the same. -/
theorem batch_eq (step : Step plan now table stage deletions table' stage')
    (fixed : stage.isFixed = true) (fixed' : stage'.isFixed = true) : stage'.batch = stage.batch := by
  cases step with
  | idle | ask => rfl
  | fix hdeadline =>
    rw [(unfixed_of_deadline? hdeadline).1] at fixed
    exact absurd fixed Bool.false_ne_true
  | wait | stick | fail | refuse => exact absurd fixed' Bool.false_ne_true
  | expire | hear => exact batch_listNext _
  | resolve | delete => exact batch_deleteNext _

/-- While it looks into open jobs, a run knows all of them as they were when the wait was over. -/
theorem examined {base : Table} (step : Step plan now table stage deletions table' stage')
    (fixed : stage.isFixed = true) (fixed' : stage'.isFixed = true)
    (unresolved' : stage'.isResolved = false)
    (examined : base.Examined cacheKey stage.outcomes stage.unseen) :
    base.Examined cacheKey stage'.outcomes stage'.unseen := by
  -- The job at hand fails, and it is known from the table.
  have joins {job : OpenJob} {rest : List OpenJob} {resolved : List (JobId × Result)} (pod : Pod)
      (examined : base.Examined cacheKey resolved ((job :: rest).map Stage.copy)) :
      base.Examined cacheKey (resolved ++ [Stage.copy (job.1, Run.expire plan job.1 pod job.2)])
        (rest.map Stage.copy) := by
    refine ⟨fun entry hentry hopen => ?_, fun copy hcopy => ?_, fun outcome houtcome => ?_⟩
    · exact mem_expected_iff.2 (List.mem_cons.1 (examined.covers entry hentry hopen))
    · exact examined.unseen copy (List.mem_cons_of_mem _ hcopy)
    · rcases List.mem_append.1 houtcome with h | h
      · exact examined.outcomes outcome h
      · obtain ⟨entry, hentry, hopen, hcopy⟩ := examined.unseen (Stage.copy job) (List.mem_cons_self ..)
        obtain ⟨hjob, hresult⟩ := Prod.mk.inj hcopy
        rw [List.mem_singleton.1 h]
        exact ⟨(expire_eq _ _ _).2, entry, hentry, hopen, hjob.symm,
          (expire_eq _ _ _).1.trans (congrArg Result.request hresult)⟩
  cases step with
  | idle => exact examined
  | wait _ h =>
    rw [(unfixed_of_deadline? h).1] at fixed
    exact absurd fixed Bool.false_ne_true
  | fix h =>
    rw [(unfixed_of_deadline? h).1] at fixed
    exact absurd fixed Bool.false_ne_true
  | stick => exact absurd fixed Bool.false_ne_true
  | fail | refuse => exact absurd fixed' Bool.false_ne_true
  | expire pod =>
    rw [outcomes_listNext, unseen_listNext]
    exact joins pod examined
  | ask pod => exact joins pod examined
  | @hear batch job pod rest resolved events =>
    rw [outcomes_listNext, unseen_listNext]
    refine ⟨fun entry hentry hopen => ?_, examined.unseen, fun outcome houtcome => ?_⟩
    · have hmem := mem_expected_iff.1 (examined.covers entry hentry hopen)
      exact mem_expected_iff.2 hmem
    · rcases List.mem_append.1 houtcome with h | h
      · exact examined.outcomes outcome (List.mem_append_left _ h)
      · rw [List.mem_singleton.1 h]
        exact examined.outcomes (Stage.copy job) (List.mem_append_right _ (List.mem_cons_self ..))
  | resolve | delete =>
    rw [isResolved_deleteNext] at unresolved'
    exact absurd unresolved'.symm Bool.false_ne_true

end Step

end Run

end NodeImages.Work
