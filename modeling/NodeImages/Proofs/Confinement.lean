import NodeImages.Proofs.Batch
import NodeImages.Proofs.Calls
import NodeImages.Proofs.Turn

/-!
# What a run touches

All runs share one table. What a run makes of it in a move of its own, it makes of each entry for itself
(`Stage.revises`), and of none that is not in its batch. A batch is fixed from the entries of one image cache; so long
as no job comes in twice, with whatever image cache (`Engine.DistinctJobs`), its jobs stay jobs of that image cache,
and the batches of runs for different image caches have none in common.

* `entries_act_of_own`: the table after a move of a run;
* `Confined`, `confined_after`: what is in the table has come in, and so has what runs work with;
* `Confined.entries_of_other`: the entries of other image caches stay as they are;
* `calls_confined`: the calls of a run are about jobs of its image cache.
-/

namespace NodeImages.Work

open Cluster

/-! ## Entries -/

/-- The entry of a job gets a result, if it is still pending. -/
def Entry.resolve (entry : Entry) (resolution : JobId × Result) : Entry :=
  if entry.job = resolution.1 ∧ entry.isPending = true then { entry with result := resolution.2 }
  else entry

/-- An entry gets the first of several results that it may get. -/
def Entry.resolveAll (resolutions : List (JobId × Result)) (entry : Entry) : Entry :=
  resolutions.foldl Entry.resolve entry

/-- The entry of a job is marked as deleted. -/
def Entry.markDeleted (job : JobId) (entry : Entry) : Entry :=
  if entry.job = job then { entry with deleted := true } else entry

namespace Entry

variable {entry : Entry} {resolutions : List (JobId × Result)} {job : JobId}

@[simp] theorem job_resolve (entry : Entry) (resolution : JobId × Result) :
    (entry.resolve resolution).job = entry.job := by
  rw [resolve]
  split <;> rfl

@[simp] theorem job_resolveAll (resolutions : List (JobId × Result)) (entry : Entry) :
    (entry.resolveAll resolutions).job = entry.job := by
  induction resolutions generalizing entry with
  | nil => rfl
  | cons resolution rest ih =>
    rw [resolveAll, List.foldl_cons]
    exact (ih _).trans (job_resolve _ _)

@[simp] theorem job_markDeleted (job : JobId) (entry : Entry) : (entry.markDeleted job).job = entry.job := by
  rw [markDeleted]
  split <;> rfl

@[simp] theorem result_markDeleted (job : JobId) (entry : Entry) :
    (entry.markDeleted job).result = entry.result := by
  rw [markDeleted]
  split <;> rfl

/-- Resolutions of other jobs leave an entry as it is. -/
theorem resolveAll_of_not_mem (h : entry.job ∉ resolutions.map Prod.fst) :
    entry.resolveAll resolutions = entry := by
  induction resolutions with
  | nil => rfl
  | cons resolution rest ih =>
    obtain ⟨hfirst, hrest⟩ := not_or.1 (List.mem_cons.not.1 h)
    rw [resolveAll, List.foldl_cons, resolve, if_neg fun h => hfirst h.1]
    exact ih hrest

/-- An entry keeps its request, if the resolutions of its job are for that request. -/
theorem request_resolveAll
    (h : ∀ resolution ∈ resolutions, resolution.1 = entry.job → resolution.2.request = entry.result.request) :
    (entry.resolveAll resolutions).result.request = entry.result.request := by
  induction resolutions generalizing entry with
  | nil => rfl
  | cons resolution rest ih =>
    have hfirst : (entry.resolve resolution).result.request = entry.result.request := by
      rw [resolve]
      split
      · rename_i hsame
        exact h resolution (.head _) hsame.1.symm
      · rfl
    rw [resolveAll, List.foldl_cons]
    refine (ih fun other hother hjob => ?_).trans hfirst
    rw [job_resolve] at hjob
    exact (h other (.tail _ hother) hjob).trans hfirst.symm

end Entry

namespace Table

variable {table : Table}

theorem entries_resolve (job : JobId) (result : Result) :
    (table.resolve job fun _ => result).entries = table.entries.map (Entry.resolve · (job, result)) := by
  refine List.map_congr_left fun entry _ => ?_
  by_cases hjob : entry.job = job
  · subst hjob
    by_cases hopen : entry.isPending = true <;> simp [Entry.resolve, hopen]
  · simp [Entry.resolve, hjob]

/-- Entries are resolved one by one. -/
theorem entries_resolveAll (resolutions : List (JobId × Result)) :
    (table.resolveAll resolutions).entries = table.entries.map (Entry.resolveAll resolutions) := by
  induction resolutions generalizing table with
  | nil => exact (List.map_id _).symm
  | cons resolution rest ih =>
    rw [resolveAll, List.foldl_cons]
    refine ih.trans ?_
    rw [entries_resolve, List.map_map]
    rfl

theorem entries_markDeleted (job : JobId) :
    (table.markDeleted job).entries = table.entries.map (Entry.markDeleted job) := rfl

/-- What is in the table after an entry has been put in was there before, or is that entry. -/
theorem mem_put {job : JobId} {result : Result} {entry : Entry}
    (h : entry ∈ (table.put job result).entries) : entry = ⟨job, result, false⟩ ∨ entry ∈ table.entries := by
  rw [put] at h
  split at h
  · obtain ⟨old, hold, rfl⟩ := mem_modify.1 h
    by_cases hjob : old.job = job
    · exact .inl (by rw [if_pos hjob, hjob])
    · exact .inr (by rwa [if_neg hjob])
  · rcases List.mem_append.1 h with h | h
    · exact .inr h
    · exact .inl (List.mem_singleton.1 h)

theorem mem_put_self (table : Table) (job : JobId) (result : Result) :
    ⟨job, result, false⟩ ∈ (table.put job result).entries := by
  rw [put]
  split
  · rename_i h
    obtain ⟨old, hold, rfl⟩ := List.mem_map.1 h
    exact mem_modify.2 ⟨old, hold, if_pos rfl⟩
  · exact List.mem_append_right _ (List.mem_singleton_self _)

end Table

/-- What a run makes of an entry in a move of its own. -/
def Stage.revises (stage : Stage) (move : Move) (entry : Entry) : Option Entry :=
  match move, stage with
  | .expire _, .resolving _ resolved => some (entry.resolveAll resolved)
  | .deleted _ (.ok ()), .deleting _ job _ => some (entry.markDeleted (.real job))
  | .collect _, .collecting batch => if entry.job ∈ batch then none else some entry
  | _, _ => some entry

namespace Run

variable {plan : RunPlan} {table : Table} {stage : Stage}

theorem entries_resolve (number : Nat) :
    (resolve table stage).1.entries = table.entries.filterMap (stage.revises (.expire number)) := by
  cases stage with
  | resolving batch resolved =>
    exact (Table.entries_resolveAll resolved).trans (congrFun List.filterMap_eq_map _).symm
  | _ => exact List.filterMap_some.symm

theorem entries_onDeleted (number : Nat) (answer : Outcome Unit) :
    (onDeleted plan answer table stage).1.entries =
      table.entries.filterMap (stage.revises (.deleted number answer)) := by
  cases stage with
  | deleting batch job rest =>
    cases answer with
    | ok => exact (Table.entries_markDeleted _).trans (congrFun List.filterMap_eq_map _).symm
    | error => exact List.filterMap_some.symm
  | _ => cases answer <;> exact List.filterMap_some.symm

/-- If there is nothing to report, there is nothing to take out of the table. -/
theorem entries_collect (plan : RunPlan) (table : Table) (stage : Stage) (number : Nat) :
    (collect plan table stage).1.entries = table.entries.filterMap (stage.revises (.collect number)) := by
  cases stage with
  | collecting batch =>
    have hguard : Stage.revises (.collecting batch) (.collect number) =
        Option.guard fun entry => !batch.contains entry.job := by
      funext entry
      by_cases h : entry.job ∈ batch <;> simp [Stage.revises, Option.guard, h]
    rw [hguard, List.filterMap_eq_filter, collect]
    split
    · rename_i hempty
      refine (List.filter_eq_self.2 fun entry hentry => ?_).symm
      by_cases hjob : entry.job ∈ batch
      · have hmem := Table.mem_results.2 ⟨hjob, entry, hentry, rfl, rfl⟩
        rw [List.isEmpty_iff.1 hempty] at hmem
        exact absurd hmem List.not_mem_nil
      · simpa using hjob
    · rfl
  | _ => exact List.filterMap_some.symm

end Run

/-- In a move of its own, a run makes something of every entry for itself. -/
theorem Engine.entries_act_of_own {engine : Engine} {move : Move} {run : ActiveRun}
    (own : move.run? = some run.number) (found : engine.run? run.number = some run) :
    (engine.act move).1.table.entries = engine.table.entries.filterMap (run.stage.revises move) := by
  cases move with
  | look | pods | events =>
    obtain rfl := Option.some.inj own
    rw [act, advance, found]
    exact (congrArg _ table_stand).trans List.filterMap_some.symm
  | cancel =>
    obtain rfl := Option.some.inj own
    rw [act, advance, found]
    refine Eq.trans ?_ List.filterMap_some.symm
    split
    · exact congrArg _ table_stand
    · rfl
  | expire =>
    obtain rfl := Option.some.inj own
    rw [act, advanceTable, found]
    exact (congrArg _ table_stand).trans (Run.entries_resolve _)
  | deleted =>
    obtain rfl := Option.some.inj own
    rw [act, advanceTable, found]
    exact (congrArg _ table_stand).trans (Run.entries_onDeleted _ _)
  | collect =>
    obtain rfl := Option.some.inj own
    rw [act, found]
    have hentries := Run.entries_collect (engine.plan run.cacheKey) engine.table run.stage run.number
    dsimp only
    split <;>
    · rename_i hcollect
      rw [hcollect] at hentries
      exact (congrArg _ table_stand).trans hentries
  | _ => exact absurd own (Option.some_ne_none _).symm

/-! ## Batches -/

/-- What a run works with belongs to its batch. -/
structure Stage.Contained (stage : Stage) : Prop where
  expected : ∀ job ∈ stage.expected, job ∈ stage.batch
  undeleted : ∀ name ∈ stage.undeleted, .real name ∈ stage.batch

namespace Stage

variable {stage : Stage} {move : Move} {entry entry' : Entry}

/-- An entry that is revised keeps its job. -/
theorem job_of_revises (h : stage.revises move entry = some entry') : entry'.job = entry.job := by
  rw [revises.eq_def] at h
  split at h
  · rw [← Option.some.inj h, Entry.job_resolveAll]
  · rw [← Option.some.inj h, Entry.job_markDeleted]
  · split at h
    · exact absurd h.symm (Option.some_ne_none _)
    · rw [Option.some.inj h]
  · rw [Option.some.inj h]

/-- An entry keeps its request, if the outcomes for its job are for that request. -/
theorem request_of_revises (outcomes : ∀ outcome ∈ stage.outcomes, outcome.1 = entry.job →
    outcome.2.request = entry.result.request) (h : stage.revises move entry = some entry') :
    entry'.result.request = entry.result.request := by
  rw [revises.eq_def] at h
  split at h
  · rw [← Option.some.inj h]
    exact Entry.request_resolveAll outcomes
  · rw [← Option.some.inj h, Entry.result_markDeleted]
  · split at h
    · exact absurd h.symm (Option.some_ne_none _)
    · rw [Option.some.inj h]
  · rw [Option.some.inj h]

namespace Contained

/-- A stage without jobs that it expects or deletes stays within its batch. -/
theorem of_empty (expected : stage.expected = []) (undeleted : stage.undeleted = []) : stage.Contained :=
  ⟨by simp [expected], by simp [undeleted]⟩

/-- A run leaves alone the entries that are not in its batch. -/
theorem revises_of_not_mem (contained : stage.Contained) (h : entry.job ∉ stage.batch) :
    stage.revises move entry = some entry := by
  rw [revises.eq_def]
  split
  · rename_i batch resolved
    refine congrArg some (Entry.resolveAll_of_not_mem fun hmem => h (contained.expected _ ?_))
    exact hmem
  · rename_i batch job rest
    have hother : entry.job ≠ .real job := fun heq => h (heq ▸ contained.undeleted job (.head _))
    exact congrArg some (if_neg hother)
  · exact if_neg h
  · rfl

end Contained

end Stage

namespace Run

variable {plan : RunPlan} {now : Nat} {table table' : Table} {stage stage' : Stage} {batch : List JobId}
  {resolved : List (JobId × Result)} {deletions : List Deletion}

theorem undeleted_listNext (jobs : List OpenJob) : (listNext batch resolved jobs).undeleted = [] := by
  cases jobs <;> rfl

/-- A run that deletes jobs of its batch stays within it. -/
theorem contained_deleteNext {jobs : List String} (h : ∀ name ∈ jobs, .real name ∈ batch) :
    (deleteNext batch jobs).Contained := by
  refine ⟨fun job hjob => ?_, fun name hname => ?_⟩
  · rw [Stage.expected, unseen_deleteNext, outcomes_deleteNext] at hjob
    exact absurd hjob List.not_mem_nil
  · rw [undeleted_deleteNext] at hname
    rw [batch_deleteNext]
    exact h name hname

/-- So does one that looks into jobs of its batch. -/
theorem contained_listNext {jobs : List OpenJob}
    (h : ∀ job ∈ (jobs.map Stage.copy ++ resolved).map Prod.fst, job ∈ batch) :
    (listNext batch resolved jobs).Contained := by
  refine ⟨fun job hjob => ?_, fun name hname => ?_⟩
  · rw [Stage.expected, unseen_listNext, outcomes_listNext] at hjob
    rw [batch_listNext]
    exact h job hjob
  · rw [undeleted_listNext] at hname
    exact absurd hname List.not_mem_nil

/-- So does one that has just fixed it. -/
theorem contained_fixBatch (plan : RunPlan) (table : Table) : (fixBatch plan table).Contained := by
  rw [fixBatch_eq]
  split
  · exact contained_deleteNext fun name hname => (Table.mem_jobsToDelete.1 hname).1
  · refine contained_listNext fun job hjob => ?_
    rw [List.append_nil, List.map_map] at hjob
    obtain ⟨⟨name, result⟩, hopen, rfl⟩ := List.mem_map.1 hjob
    exact (mem_openJobs.1 hopen).1

/-- A step keeps what a run works with in its batch. -/
theorem Step.contained (step : Step plan now table stage deletions table' stage')
    (contained : stage.Contained) : stage'.Contained := by
  cases step with
  | idle => exact contained
  | wait | stick | fail | refuse => exact .of_empty rfl rfl
  | fix => exact contained_fixBatch plan table
  | expire =>
    refine contained_listNext fun job hjob => ?_
    have hmem := mem_expected_iff.1 hjob
    exact contained.expected job (List.mem_cons.2 hmem)
  | ask =>
    refine ⟨fun job hjob => ?_, fun _ h => absurd h List.not_mem_nil⟩
    have hmem := mem_expected_iff.1 hjob
    exact contained.expected job (List.mem_cons.2 hmem)
  | hear =>
    refine contained_listNext fun job hjob => ?_
    have hmem := mem_expected_iff.1 hjob
    exact contained.expected job (mem_expected_iff.2 hmem)
  | resolve => exact contained_deleteNext fun name hname => (Table.mem_jobsToDelete.1 hname).1
  | delete => exact contained_deleteNext fun name hname => contained.undeleted name (.tail _ hname)

end Run

/-! ## Jobs that come in -/

namespace Engine

variable {engine start : Engine} {moves : List Move} {move : Move} {job : JobId} {result : Result}

/-- The entries that come into the table with a move. -/
def arrivalsOf (engine : Engine) (move : Move) : List (JobId × Result) :=
  match move with
  | .insert job result => [(job, result)]
  | _ => recordings (engine.act move).2

/-- The entries that come into the table with a row of moves. -/
def arrivals (engine : Engine) : List Move → List (JobId × Result)
  | [] => []
  | move :: rest => engine.arrivalsOf move ++ (engine.act move).1.arrivals rest

/-- The jobs that are in the table or come in, with their requests. -/
def registered (engine : Engine) (moves : List Move) : List (JobId × Request) :=
  engine.table.entries.map (fun entry => (entry.job, entry.result.request)) ++
    (engine.arrivals moves).map fun row => (row.1, row.2.request)

/-- No job comes into the table twice. -/
def DistinctJobs (engine : Engine) (moves : List Move) : Prop :=
  ((engine.registered moves).map Prod.fst).Nodup

/-- Entries arrive in the beginning of a course or in the rest. -/
theorem arrivals_append (early late : List Move) :
    engine.arrivals (early ++ late) = engine.arrivals early ++ (engine.after early).arrivals late := by
  induction early generalizing engine with
  | nil => rfl
  | cons move rest ih => rw [List.cons_append, arrivals, ih, arrivals, List.append_assoc, after_cons]

theorem registered_append (early late : List Move) :
    engine.registered (early ++ late) = engine.registered early ++
      ((engine.after early).arrivals late).map fun row => (row.1, row.2.request) := by
  rw [registered, arrivals_append, List.map_append, ← List.append_assoc, registered]

theorem registered_concat (moves : List Move) (move : Move) :
    engine.registered (moves ++ [move]) = engine.registered moves ++
      ((engine.after moves).arrivalsOf move).map fun row => (row.1, row.2.request) := by
  rw [registered_append, arrivals, arrivals, List.append_nil]

/-- Jobs that come in once in a course do so in its beginning. -/
theorem DistinctJobs.early {early late : List Move} (distinct : start.DistinctJobs (early ++ late)) :
    start.DistinctJobs early := by
  rw [DistinctJobs, registered_append, List.map_append] at distinct
  exact distinct.of_append_left

/-- A job comes in with one request. -/
theorem DistinctJobs.unique (distinct : start.DistinctJobs moves) (job : JobId) (request request' : Request)
    (h : (job, request) ∈ start.registered moves) (h' : (job, request') ∈ start.registered moves) :
    request = request' :=
  (Prod.mk.inj (List.inj_on_of_nodup_map distinct h h' rfl)).2

end Engine

/-- If nobody reaches into the table, entries arrive by being recorded. -/
theorem Engine.arrivalsOf_of_inner {engine : Engine} {move : Move} (inner : move.isInner = true) :
    engine.arrivalsOf move = recordings (engine.act move).2 := by
  cases move with
  | insert => exact absurd inner Bool.false_ne_true
  | _ => rfl

/-- What is in the table after a row of moves has come in, and so has what runs work with. -/
structure Confined (start : Engine) (moves : List Move) : Prop where
  numbered : (start.after moves).Numbered
  entries : ∀ entry ∈ (start.after moves).table.entries,
    (entry.job, entry.result.request) ∈ start.registered moves
  runs : ∀ run ∈ (start.after moves).runs,
    run.stage.Sound (fun job request => (job, request) ∈ start.registered moves) run.cacheKey ∧
      run.stage.Contained

namespace Confined

variable {start : Engine} {moves : List Move} {move : Move}

/-- Where there are no runs, none is out of bounds. -/
theorem nil (idle : start.runs = []) : Confined start [] where
  numbered := ⟨by simp [idle], by simp [idle]⟩
  entries entry h := List.mem_append_left _ (List.mem_map.2 ⟨entry, h, rfl⟩)
  runs run h := by
    rw [Engine.after_nil, idle] at h
    exact absurd h List.not_mem_nil

/-- An entry after a move has come in with it, or was there before, for the same request. -/
theorem mem_entries (confined : Confined start moves) (distinct : start.DistinctJobs moves) {entry' : Entry}
    (h : entry' ∈ ((start.after moves).act move).1.table.entries) :
    (∃ result, (entry'.job, result) ∈ (start.after moves).arrivalsOf move ∧
      entry'.result.request = result.request) ∨
    ∃ entry ∈ (start.after moves).table.entries, entry'.job = entry.job ∧
      entry'.result.request = entry.result.request := by
  by_cases inner : move.isInner = true
  · rw [Engine.arrivalsOf_of_inner inner]
    have effect : Effect (start.after moves) move _ _ _ := act_effect inner
    cases effect with
    | rest table | start _ _ _ table => exact .inr ⟨entry', table ▸ h, rfl, rfl⟩
    | record job result _ table _ notes =>
      rw [notes]
      rcases Table.mem_put (table ▸ h) with rfl | h
      · exact .inl ⟨result, List.mem_singleton_self _, rfl⟩
      · exact .inr ⟨entry', h, rfl, rfl⟩
    | settle pod _ table =>
      obtain ⟨entry, hentry, hjob, -, hbecomes⟩ := Table.mem_settlePod (table ▸ h)
      exact .inr ⟨entry, hentry, hjob, hbecomes.request_eq⟩
    | step run stage mem step =>
      obtain ⟨entry, hentry, hjob, hbecomes⟩ :=
        step.mem_entries (confined.runs run (Engine.mem_of_run? mem).1).1 confined.entries distinct.unique h
      exact .inr ⟨entry, hentry, hjob, hbecomes.request_eq⟩
    | collect run batch _ _ _ table =>
      rw [table, Table.mem_without] at h
      exact .inr ⟨entry', h.1, rfl, rfl⟩
  · cases move with
    | insert job result =>
      rcases Table.mem_put h with rfl | h
      · exact .inl ⟨result, List.mem_singleton_self _, rfl⟩
      · exact .inr ⟨entry', h, rfl, rfl⟩
    | resolve job status reason message =>
      obtain ⟨entry, hentry, hjob, -, ⟨-, -, hresult⟩ | ⟨-, hresult⟩⟩ := Table.mem_resolve h
      · exact .inr ⟨entry, hentry, hjob, by rw [hresult]⟩
      · exact .inr ⟨entry, hentry, hjob, by rw [hresult]⟩
    | _ => exact absurd rfl inner

/-- A move of any kind keeps the runs within their batches. -/
theorem act (confined : Confined start moves) (distinct : start.DistinctJobs (moves ++ [move])) :
    Confined start (moves ++ [move]) := by
  have later {row : JobId × Request} (h : row ∈ start.registered moves) :
      row ∈ start.registered (moves ++ [move]) := by
    rw [Engine.registered_concat]
    exact List.mem_append_left _ h
  have entries : ∀ entry ∈ (start.after (moves ++ [move])).table.entries,
      (entry.job, entry.result.request) ∈ start.registered (moves ++ [move]) := by
    intro entry' h
    rw [Engine.after_concat] at h
    rcases confined.mem_entries distinct.early h with
      ⟨result, harrival, hrequest⟩ | ⟨entry, hentry, hjob, hrequest⟩
    · rw [Engine.registered_concat, hrequest]
      exact List.mem_append_right _ (List.mem_map.2 ⟨_, harrival, rfl⟩)
    · rw [hjob, hrequest]
      exact later (confined.entries entry hentry)
  by_cases inner : move.isInner = true
  · have effect : Effect (start.after moves) move _ _ _ := act_effect inner
    rw [← Engine.after_concat] at effect
    refine ⟨effect.numbered confined.numbered, entries, fun run hrun => ?_⟩
    rcases effect.mem_runs confined.numbered hrun with
      hold | ⟨cacheKey, guarded, rfl⟩ | ⟨old, hold, stage, rfl, step⟩
    · exact (confined.runs run hold).imp_left fun sound => sound.mono fun _ _ => later
    · exact ⟨.of_empty rfl rfl rfl, .of_empty rfl rfl⟩
    · obtain ⟨sound, contained⟩ := confined.runs old hold
      exact ⟨(step.sound sound confined.entries).mono fun _ _ => later, step.contained contained⟩
  · have same : (start.after moves).SameRuns _ :=
      (Engine.sameRuns_of_not_inner (Bool.not_eq_true _ ▸ inner)).1
    rw [← Engine.after_concat] at same
    refine ⟨confined.numbered.of_sameRuns same, entries, fun run hrun => ?_⟩
    exact (confined.runs run (same.runs ▸ hrun)).imp_left fun sound => sound.mono fun _ _ => later

end Confined

/-- Runs are kept within their batches at every moment. -/
theorem confined_after {start : Engine} {moves : List Move} (idle : start.runs = [])
    (distinct : start.DistinctJobs moves) : Confined start moves := by
  induction moves using List.reverseRecOn with
  | nil => exact .nil idle
  | append_singleton moves move ih => exact (ih distinct.early).act distinct

/-! ## Entries of other image caches -/

namespace Confined

variable {start : Engine} {moves : List Move} {move : Move} {run : ActiveRun} {entry entry' : Entry}

/-- The entries of a batch are of the image cache of the run. -/
theorem cacheKey_of_mem_batch (confined : Confined start moves) (distinct : start.DistinctJobs moves)
    (hrun : run ∈ (start.after moves).runs) (hentry : entry ∈ (start.after moves).table.entries)
    (hmem : entry.job ∈ run.stage.batch) : entry.cacheKey = run.cacheKey := by
  obtain ⟨request, hknown, hkey⟩ := (confined.runs run hrun).1.batch _ hmem
  rw [Entry.cacheKey, distinct.unique _ _ _ (confined.entries entry hentry) hknown, hkey]

/-- A run makes nothing of an entry of another image cache. -/
theorem revises_of_other (confined : Confined start moves) (distinct : start.DistinctJobs moves)
    (hrun : run ∈ (start.after moves).runs) (hentry : entry ∈ (start.after moves).table.entries)
    (other : entry.cacheKey ≠ run.cacheKey) : run.stage.revises move entry = some entry :=
  (confined.runs run hrun).2.revises_of_not_mem fun hmem =>
    other (confined.cacheKey_of_mem_batch distinct hrun hentry hmem)

/-- An entry stays one of its image cache, whatever a run makes of it. -/
theorem cacheKey_of_revises (confined : Confined start moves) (distinct : start.DistinctJobs moves)
    (hrun : run ∈ (start.after moves).runs) (hentry : entry ∈ (start.after moves).table.entries)
    (h : run.stage.revises move entry = some entry') : entry'.cacheKey = entry.cacheKey := by
  refine congrArg Request.cacheKey (Stage.request_of_revises (fun outcome houtcome hjob => ?_) h)
  have hknown := ((confined.runs run hrun).1.outcomes outcome houtcome).1
  exact distinct.unique entry.job _ _ (hjob ▸ hknown) (confined.entries entry hentry)

/-- In a move of its own, a run leaves the entries of other image caches as they are. -/
theorem entries_of_other (confined : Confined start moves) (distinct : start.DistinctJobs moves)
    (own : move.run? = some run.number) (found : (start.after moves).run? run.number = some run) :
    ((start.after moves).act move).1.table.entries.filter (·.cacheKey != run.cacheKey) =
      (start.after moves).table.entries.filter (·.cacheKey != run.cacheKey) := by
  have hrun := (Engine.mem_of_run? found).1
  rw [Engine.entries_act_of_own own found, List.filter_filterMap, ← List.filterMap_eq_filter]
  refine List.filterMap_congr fun entry hentry => ?_
  by_cases hkey : entry.cacheKey = run.cacheKey
  · -- Nothing that the run makes of an entry of its own image cache is an entry of another one.
    rw [Option.guard, if_neg (by simpa using hkey), Option.filter_eq_none_iff]
    intro entry' hrevises
    rw [confined.cacheKey_of_revises distinct hrun hentry hrevises, hkey]
    exact ne_true_of_eq_false (bne_self_eq_false _)
  · rw [confined.revises_of_other distinct hrun hentry hkey]
    rfl

end Confined

/-! ## Calls -/

/-- A job has had an entry for an image cache, and at no moment one for another image cache. -/
structure Belongs (start : Engine) (moves : List Move) (job : JobId) (cacheKey : String) : Prop where
  entered : ∃ early late, moves = early ++ late ∧
    ∃ entry ∈ (start.after early).table.entries, entry.job = job ∧ entry.cacheKey = cacheKey
  only : ∀ early late, moves = early ++ late →
    ∀ entry ∈ (start.after early).table.entries, entry.job = job → entry.cacheKey = cacheKey

/-- A run was given a pod as the only one of a job, when it had the pods of the job listed. -/
def Given (start : Engine) (moves : List Move) (number : Nat) (name : String) (pod : Pod) : Prop :=
  Occurs moves fun early move => move = .pods number (.ok [pod]) ∧
    ∃ run, (start.after early).run? number = some run ∧ run.stage.awaits = some (.pods name)

section

variable {start : Engine} {moves : List Move} {move : Move} {job : JobId} {request : Request} {result : Result}

/-- What comes in with a move is in the table then. -/
theorem Engine.mem_entries_of_arrival {engine : Engine} (h : (job, result) ∈ engine.arrivalsOf move) :
    ⟨job, result, false⟩ ∈ (engine.act move).1.table.entries := by
  by_cases inner : move.isInner = true
  · rw [arrivalsOf_of_inner inner, mem_recordings] at h
    cases act_effect inner with
    | rest _ _ hnotes =>
      rcases hnotes with hnotes | ⟨_, hnotes⟩ <;> (rw [hnotes] at h; simp at h)
    | settle _ _ _ _ hnotes | start _ _ _ _ _ hnotes | collect _ _ _ _ _ _ _ hnotes => simp [hnotes] at h
    | record _ _ _ table _ hnotes =>
      rw [hnotes, List.mem_singleton] at h
      cases h
      rw [table]
      exact Table.mem_put_self _ _ _
    | step run stage _ _ _ hnotes =>
      rw [hnotes, ← mem_recordings, recordings_stand] at h
      exact absurd h List.not_mem_nil
  · cases move with
    | insert =>
      cases List.mem_singleton.1 h
      exact Table.mem_put_self _ _ _
    | resolve => exact absurd h List.not_mem_nil
    | _ => exact absurd rfl inner

/-- What has come in was in the table at some moment. -/
theorem Engine.entered_of_registered (h : (job, request) ∈ start.registered moves) :
    ∃ early late, moves = early ++ late ∧
      ∃ entry ∈ (start.after early).table.entries, entry.job = job ∧ entry.result.request = request := by
  induction moves using List.reverseRecOn with
  | nil =>
    rw [registered, arrivals, List.map_nil, List.append_nil] at h
    obtain ⟨entry, hentry, heq⟩ := List.mem_map.1 h
    exact ⟨[], [], rfl, entry, hentry, Prod.mk.inj heq⟩
  | append_singleton moves move ih =>
    rw [registered_concat] at h
    rcases List.mem_append.1 h with h | h
    · obtain ⟨early, late, rfl, hentry⟩ := ih h
      exact ⟨early, late ++ [move], List.append_assoc .., hentry⟩
    · obtain ⟨⟨job', result⟩, harrival, heq⟩ := List.mem_map.1 h
      cases heq
      have hentry := mem_entries_of_arrival harrival
      rw [← after_concat] at hentry
      exact ⟨moves ++ [move], [], (List.append_nil _).symm, _, hentry, rfl, rfl⟩

/-- A job belongs to the image cache of the one request that it came in with. -/
theorem belongs_of_registered (idle : start.runs = []) (distinct : start.DistinctJobs moves)
    (h : (job, request) ∈ start.registered moves) : Belongs start moves job request.cacheKey where
  entered := by
    obtain ⟨early, late, hmoves, entry, hentry, hjob, hrequest⟩ := Engine.entered_of_registered h
    exact ⟨early, late, hmoves, entry, hentry, hjob, congrArg Request.cacheKey hrequest⟩
  only := by
    rintro early late rfl entry hentry rfl
    have hearly := (confined_after idle distinct.early).entries entry hentry
    have hmoves : (entry.job, entry.result.request) ∈ start.registered (early ++ late) := by
      rw [Engine.registered_append]
      exact List.mem_append_left _ hearly
    exact congrArg Request.cacheKey (distinct.unique _ _ _ hmoves h)

theorem Given.concat {number : Nat} {name : String} {pod : Pod} (h : Given start moves number name pod)
    (move : Move) : Given start (moves ++ [move]) number name pod :=
  Occurs.concat h move

/-- A run asks for the events of a pod when it has just been given it, or is still waiting for them. -/
theorem given_nextStage {run : ActiveRun} {name : String} {pod : Pod} (own : move.run? = some run.number)
    (found : (start.after moves).run? run.number = some run)
    (given : ∀ name pod, run.stage.awaits = some (.events name pod) → Given start moves run.number name pod)
    (h : ((start.after moves).nextStage run move).awaits = some (.events name pod)) :
    Given start (moves ++ [move]) run.number name pod := by
  have advance : Advance (start.after moves) run move _ := advance_of_own own
  have listNext {batch : List JobId} {resolved : List (JobId × Result)} {jobs : List OpenJob} :
      (Run.listNext batch resolved jobs).awaits ≠ some (.events name pod) := by
    cases jobs <;> exact fun h => nomatch h
  have deleteNext {batch : List JobId} {jobs : List String} :
      (Run.deleteNext batch jobs).awaits ≠ some (.events name pod) := by
    cases jobs <;> exact fun h => nomatch h
  generalize (start.after moves).nextStage run move = stage at advance h
  cases advance with
  | stay => exact (given name pod h).concat move
  | inspect =>
    rw [Run.inspect] at h
    split at h
    · rw [Run.fixBatch_eq] at h
      split at h
      · exact absurd h deleteNext
      · exact absurd h listNext
    · cases h
  | expire | hear => exact absurd h listNext
  | resolve | delete => exact absurd h deleteNext
  | ask pod hstage =>
    cases h
    exact Occurs.last ⟨rfl, run, found, by rw [hstage, Stage.awaits]⟩
  | _ => cases h

/-- The pod that a run asks about is one that it was given. -/
theorem given_after (idle : start.runs = []) (distinct : start.DistinctJobs moves) :
    ∀ run ∈ (start.after moves).runs, ∀ name pod, run.stage.awaits = some (.events name pod) →
      Given start moves run.number name pod := by
  induction moves using List.reverseRecOn with
  | nil =>
    intro run hrun
    rw [Engine.after_nil, idle] at hrun
    exact absurd hrun List.not_mem_nil
  | append_singleton moves move ih =>
    have given := ih distinct.early
    rw [Engine.after_concat]
    by_cases inner : move.isInner = true
    · have effect : Effect (start.after moves) move _ _ _ := act_effect inner
      refine effect.forall_runs
        (P := fun number stage => ∀ name pod, stage.awaits = some (.events name pod) →
          Given start (moves ++ [move]) number name pod)
        (confined_after idle distinct.early).numbered
        (fun run hrun name pod h => (given run hrun name pod h).concat move)
        (fun _ _ _ h => absurd h (Option.some_ne_none _).symm)
        fun run hrun found own name pod h => given_nextStage own found (given run hrun) h
    · have same : (start.after moves).SameRuns _ :=
        (Engine.sameRuns_of_not_inner (Bool.not_eq_true _ ▸ inner)).1
      rw [same.runs]
      exact fun run hrun name pod h => (given run hrun name pod h).concat move

/-- A call of a run is about a job of its batch. -/
theorem Stage.Contained.job_of_awaits {stage : Stage} {call : Call} (contained : stage.Contained)
    (h : stage.awaits = some call) : ∃ name, call.job? = some name ∧ .real name ∈ stage.batch := by
  cases stage with
  | listingPods batch job rest resolved =>
    cases h
    exact ⟨job.1, rfl, contained.expected _ (List.mem_cons_self ..)⟩
  | listingEvents batch job pod rest resolved =>
    cases h
    refine ⟨job.1, rfl, contained.expected _ (Run.Step.mem_expected_iff.2 (.inl rfl))⟩
  | deleting batch job rest =>
    cases h
    exact ⟨job, rfl, contained.undeleted _ (List.mem_cons_self ..)⟩
  | _ => cases h

/-- The calls of a run are about jobs of its image cache, and about no pods but those that it was given of such
    jobs. -/
theorem calls_confined (idle : start.runs = []) (distinct : start.DistinctJobs moves) {run : ActiveRun}
    (hrun : run ∈ (start.after moves).runs) {call : Call} (awaited : run.stage.awaits = some call) :
    ∃ name, call.job? = some name ∧ Belongs start moves (.real name) run.cacheKey ∧
      ∀ pod, call = .events name pod → Given start moves run.number name pod := by
  obtain ⟨sound, contained⟩ := (confined_after idle distinct).runs run hrun
  obtain ⟨name, hcall, hmem⟩ := contained.job_of_awaits awaited
  obtain ⟨request, hknown, hkey⟩ := sound.batch _ hmem
  refine ⟨name, hcall, hkey ▸ belongs_of_registered idle distinct hknown, ?_⟩
  rintro pod rfl
  exact given_after idle distinct run hrun name pod awaited

end

end NodeImages.Work
