import NodeImages.Proofs.Arrival
import NodeImages.Proofs.Permutation

/-!
# Endings in whatever order

The order in which a table holds its entries tells a run in which order to look into the open jobs of its batch,
and no more. A run stops at the first open job that it cannot look into, so the calls up to there differ with the
order; but then it has not written anything, whichever job it was. When all of them have been looked into, every
open job gets its one result, and jobs are deleted in the order of their names.

* `Ending.Resembles`: two endings that differ in the order of entries and results only;
* `conclude_alike`: the endings of two runs that fix their batches from tables with the same entries resemble each
  other, or both runs fail before they have done anything;
* `SameEnd`, `order_makes_no_difference`: the same for two runs that are led to their ends by one client.
-/

namespace NodeImages.Work

open Cluster

/-- The jobs that the cluster is asked to delete. -/
def calls (deletions : List Deletion) : List String :=
  deletions.filterMap fun
    | .called job => some job
    | .answered _ _ => none

/-- Two updates report the same results. -/
structure Update.Resembles (update other : Update) : Prop where
  key : update.key = other.key
  results : update.results.Perm other.results

/-- Two endings are the same but for the order of entries and results. -/
structure Ending.Resembles (ending other : Ending) : Prop where
  table : ending.table.Alike other.table
  deletions : ending.deletions = other.deletions
  updates : List.Forall₂ Update.Resembles ending.updates other.updates
  stage : ending.stage = other.stage

namespace Answers

variable {answers : Answers} {plan : RunPlan} {table other : Table} {batch batch' : List JobId}
  {resolved resolved' : List (JobId × Result)} {jobs jobs' : List OpenJob}

/-! ## Cleaning up -/

theorem resembles_collect (alike : table.Alike other) (perm : batch.Perm batch') :
    (answers.cleanUp plan batch table []).Resembles (answers.cleanUp plan batch' other []) := by
  have results := alike.results perm
  rw [cleanUp, cleanUp, Run.collect, Run.collect]
  by_cases hnone : table.results batch = []
  · have hnone' : other.results batch' = [] := List.perm_nil.1 (hnone ▸ results.symm)
    rw [hnone, hnone']
    exact ⟨alike, rfl, .nil, rfl⟩
  · have hsome' : other.results batch' ≠ [] := fun h => hnone (List.perm_nil.1 (h ▸ results))
    rw [if_neg fun h => hnone (List.isEmpty_iff.1 h), if_neg fun h => hsome' (List.isEmpty_iff.1 h)]
    exact ⟨alike.without perm, rfl, .cons ⟨rfl, results⟩ .nil, rfl⟩

/-- Jobs are deleted alike. -/
theorem resembles_cleanUp (alike : table.Alike other) (perm : batch.Perm batch') (names : List String) :
    (answers.cleanUp plan batch table names).Resembles (answers.cleanUp plan batch' other names) := by
  induction names generalizing table other with
  | nil => exact resembles_collect alike perm
  | cons job rest ih =>
    rw [cleanUp, cleanUp]
    split
    · exact ⟨alike, rfl, .nil, rfl⟩
    · obtain ⟨table, deletions, updates, stage⟩ := ih (alike.markDeleted (.real job))
      exact ⟨table, congrArg ([Deletion.called job, .answered job (.ok ())] ++ ·) deletions, updates, stage⟩

theorem resembles_resolve (alike : table.Alike other) (perm : batch.Perm batch')
    (perm' : resolved.Perm resolved') (nodup : (resolved.map Prod.fst).Nodup) :
    (answers.resolve plan table batch resolved).Resembles (answers.resolve plan other batch' resolved') := by
  have alike' := alike.resolveAll perm' nodup
  rw [resolve, resolve, alike'.jobsToDelete perm]
  exact resembles_cleanUp alike' perm _

/-! ## Looking into open jobs -/

variable (answers plan) in
/-- What is found when an open job is looked into. -/
def found (job : OpenJob) : Option (JobId × Result) :=
  match answers.lookInto plan job with
  | .error _ => none
  | .ok result => some (Stage.copy (job.1, result))

theorem examine_of_found (h : ∀ job ∈ jobs, (answers.found plan job).isSome = true) :
    answers.examine plan table batch resolved jobs =
      answers.resolve plan table batch (resolved ++ jobs.filterMap (answers.found plan)) := by
  induction jobs generalizing resolved with
  | nil => rw [examine, List.filterMap_nil, List.append_nil]
  | cons job rest ih =>
    have hjob := h job (.head _)
    rw [examine]
    rw [found.eq_def] at hjob
    split
    · rename_i failed
      rw [failed] at hjob
      exact absurd hjob Bool.false_ne_true
    · rename_i result looked
      have hfound : answers.found plan job = some (Stage.copy (job.1, result)) := by rw [found, looked]
      rw [ih fun job hjob => h job (.tail _ hjob), List.filterMap_cons_some hfound, List.append_assoc,
        List.singleton_append]

/-- A run that cannot look into one of its open jobs fails, and has done nothing until then. -/
theorem examine_of_not_found (h : ∃ job ∈ jobs, answers.found plan job = none) :
    ∃ failure, answers.examine plan table batch resolved jobs = ⟨table, [], [], .ended (.error failure)⟩ := by
  induction jobs generalizing resolved with
  | nil =>
    obtain ⟨job, hjob, -⟩ := h
    exact absurd hjob List.not_mem_nil
  | cons first rest ih =>
    rw [examine]
    split
    · exact ⟨_, rfl⟩
    · rename_i result looked
      refine ih ?_
      obtain ⟨job, hjob, hnone⟩ := h
      refine ⟨job, List.mem_of_ne_of_mem ?_ hjob, hnone⟩
      rintro rfl
      rw [found, looked] at hnone
      exact Option.some_ne_none _ hnone

/-- What is kept of a list under a name of its own keeps its place. -/
theorem sublist_filterMap {α β γ : Type} {f : α → Option β} {g : β → γ} {h : α → γ}
    (same : ∀ a b, f a = some b → g b = h a) (l : List α) : ((l.filterMap f).map g).Sublist (l.map h) := by
  induction l with
  | nil => exact .slnil
  | cons a rest ih =>
    rw [List.map_cons]
    cases hf : f a with
    | none =>
      rw [List.filterMap_cons_none hf]
      exact ih.cons _
    | some b =>
      rw [List.filterMap_cons_some hf, List.map_cons, same a b hf]
      exact ih.cons_cons _

/-- There is one result for every open job of a batch. -/
theorem nodup_found (table : Table) (nodup : batch.Nodup) :
    (((Run.openJobs table batch).filterMap (answers.found plan)).map Prod.fst).Nodup := by
  have pending : ((table.pending batch).map Prod.fst).Sublist (batch.map id) := by
    refine sublist_filterMap (fun job row h => ?_) batch
    obtain ⟨entry, hentry, h⟩ := Option.bind_eq_some_iff.1 h
    obtain ⟨-, hrow⟩ := Option.ite_none_right_eq_some.1 h
    rw [← Option.some.inj hrow]
    exact (Table.entry?_eq_some_iff.1 hentry).2
  have open' : ((Run.openJobs table batch).map fun job => JobId.real job.1).Sublist
      ((table.pending batch).map Prod.fst) := by
    refine sublist_filterMap (fun row job h => ?_) _
    obtain ⟨_ | _, _⟩ := row
    · cases h
      rfl
    · exact absurd h.symm (Option.some_ne_none _)
  have looked : (((Run.openJobs table batch).filterMap (answers.found plan)).map Prod.fst).Sublist
      ((Run.openJobs table batch).map fun job => JobId.real job.1) := by
    refine sublist_filterMap (fun job row h => ?_) _
    rw [found] at h
    split at h
    · exact absurd h.symm (Option.some_ne_none _)
    · rw [← Option.some.inj h]
      rfl
  rw [List.map_id] at pending
  exact nodup.sublist (looked.trans (open'.trans pending))

/-- Two runs that fix their batches from tables with the same entries end alike, or they fail before they have done
    anything. -/
theorem conclude_alike (alike : table.Alike other) :
    (answers.conclude plan table).Resembles (answers.conclude plan other) ∨
      ∃ failure failure', answers.conclude plan table = ⟨table, [], [], .ended (.error failure)⟩ ∧
        answers.conclude plan other = ⟨other, [], [], .ended (.error failure')⟩ := by
  have batch := alike.jobsFor plan.cacheKey
  have jobs : (Run.openJobs table (table.jobsFor plan.cacheKey)).Perm
      (Run.openJobs other (other.jobsFor plan.cacheKey)) := (alike.pending batch).filterMap _
  -- Whether there is a job that cannot be looked into has nothing to do with the order of the jobs.
  by_cases h : ∃ job ∈ Run.openJobs table (table.jobsFor plan.cacheKey), answers.found plan job = none
  · right
    have h' : ∃ job ∈ Run.openJobs other (other.jobsFor plan.cacheKey), answers.found plan job = none := by
      obtain ⟨job, hjob, hnone⟩ := h
      exact ⟨job, jobs.mem_iff.1 hjob, hnone⟩
    obtain ⟨failure, hfailure⟩ := examine_of_not_found h
    obtain ⟨failure', hfailure'⟩ := examine_of_not_found h'
    exact ⟨failure, failure', hfailure, hfailure'⟩
  · left
    have all : ∀ job ∈ Run.openJobs table (table.jobsFor plan.cacheKey), (answers.found plan job).isSome = true :=
      fun job hjob => Option.isSome_iff_ne_none.2 fun hnone => h ⟨job, hjob, hnone⟩
    rw [conclude, conclude, examine_of_found all, examine_of_found fun job hjob => all job (jobs.mem_iff.2 hjob)]
    exact resembles_resolve alike batch (jobs.filterMap _) (nodup_found table Table.nodup_jobsFor)

/-! ## How runs end -/

/-- How a run ends that has fixed its batch from a table. -/
inductive Concluded (table : Table) (ending : Ending) : Prop
  /-- It has deleted all jobs, in ascending order, and reported its batch. -/
  | done (update : Update) (updates : ending.updates = [update]) (stage : ending.stage = .ended (.ok ()))
      (ascending : (calls ending.deletions).Pairwise (· < ·))
  /-- It has failed before it has done anything. -/
  | untouched (failure : Failure) (ending : ending = ⟨table, [], [], .ended (.error failure)⟩)
  /-- It has failed as a job could not be deleted. -/
  | undeleted (front : List Deletion) (job : String) (cause failure : Failure)
      (deletions : ending.deletions = front ++ [.answered job (.error cause)]) (updates : ending.updates = [])
      (stage : ending.stage = .ended (.error failure)) (ascending : (calls ending.deletions).Pairwise (· < ·))

/-- The mark of a job is no part of its result. -/
theorem results_markDeleted (job : JobId) : (table.markDeleted job).results batch = table.results batch := by
  refine List.filterMap_congr fun other _ => ?_
  have marked :
      Table.entry? (table.markDeleted job) other = (table.entry? other).map (Entry.markDeleted job) := by
    unfold Table.entry?
    rw [Table.entries_markDeleted, List.find?_map]
    simp only [Function.comp_def, Entry.job_markDeleted]
  rw [marked, Option.map_map]
  refine congrArg (Option.map · _) (funext fun entry => ?_)
  rw [Function.comp_apply, Entry.row, Entry.job_markDeleted, Entry.result_markDeleted, Entry.row]

/-- A batch that is there to be reported is reported, unless a job cannot be deleted. The jobs that are called for are
    the first ones. -/
theorem cleanUp_of_results (answers : Answers) (plan : RunPlan) (batch : List JobId) (table : Table)
    (nonempty : table.results batch ≠ []) (names : List String) :
    calls (answers.cleanUp plan batch table names).deletions <+: names ∧
      ((∃ update, (answers.cleanUp plan batch table names).updates = [update] ∧
          (answers.cleanUp plan batch table names).stage = .ended (.ok ())) ∨
        ∃ front job cause failure,
          (answers.cleanUp plan batch table names).deletions = front ++ [.answered job (.error cause)] ∧
          (answers.cleanUp plan batch table names).updates = [] ∧
          (answers.cleanUp plan batch table names).stage = .ended (.error failure)) := by
  induction names generalizing table with
  | nil =>
    rw [cleanUp, Run.collect, if_neg fun h => nonempty (List.isEmpty_iff.1 h)]
    exact ⟨List.nil_prefix, .inl ⟨_, rfl, rfl⟩⟩
  | cons job rest ih =>
    rw [cleanUp]
    split
    · rename_i cause _
      exact ⟨List.cons_prefix_cons.2 ⟨rfl, List.nil_prefix⟩, .inr ⟨[.called job], job, cause, _, rfl, rfl, rfl⟩⟩
    · obtain ⟨asked, reported | ⟨front, last, cause, failure, deletions, failed⟩⟩ :=
        ih (table.markDeleted (.real job)) (by rwa [results_markDeleted])
      · exact ⟨List.cons_prefix_cons.2 ⟨rfl, asked⟩, .inl reported⟩
      · refine ⟨List.cons_prefix_cons.2 ⟨rfl, asked⟩,
          .inr ⟨.called job :: .answered job (.ok ()) :: front, last, cause, failure, ?_, failed⟩⟩
        rw [Ending.after, deletions]
        rfl

theorem concluded (answers : Answers) (plan : RunPlan) (table : Table) :
    Concluded table (answers.conclude plan table) := by
  by_cases h : ∃ job ∈ Run.openJobs table (table.jobsFor plan.cacheKey), answers.found plan job = none
  · obtain ⟨failure, hfailure⟩ := examine_of_not_found h
    exact .untouched failure hfailure
  · rw [conclude, examine_of_found fun job hjob => Option.isSome_iff_ne_none.2 fun hnone => h ⟨job, hjob, hnone⟩,
      List.nil_append]
    by_cases hnone : table.jobsFor plan.cacheKey = []
    · -- There is no job to look into, none to delete, and nothing to report.
      rw [hnone]
      have failed : ∃ failure, answers.cleanUp plan [] table (table.jobsToDelete []) =
          ⟨table, [], [], .ended (.error failure)⟩ := by
        rw [Table.jobsToDelete_nil]
        exact ⟨_, rfl⟩
      obtain ⟨failure, hfailure⟩ := failed
      exact .untouched failure hfailure
    · rw [resolve]
      generalize (Run.openJobs table (table.jobsFor plan.cacheKey)).filterMap (answers.found plan) = resolved
      -- Failing its open jobs leaves every entry of the batch in the table.
      have nonempty : (table.resolveAll resolved).results (table.jobsFor plan.cacheKey) ≠ [] := by
        obtain ⟨job, hjob⟩ := List.exists_mem_of_ne_nil _ hnone
        obtain ⟨entry, hentry, rfl, -⟩ := Table.mem_jobsFor.1 hjob
        have hmem : entry.job ∈ (table.resolveAll resolved).jobs := by
          rw [Table.jobs_resolveAll]
          exact Table.mem_jobs.2 ⟨entry, hentry, rfl⟩
        obtain ⟨entry', hentry', hjob'⟩ := Table.mem_jobs.1 hmem
        exact List.ne_nil_of_mem (Table.mem_results.2 ⟨hjob, entry', hentry', hjob', rfl⟩)
      have nodup : (table.jobsFor plan.cacheKey).Nodup := Table.nodup_jobsFor
      have ascending := (table.resolveAll resolved).jobsToDelete_ascending nodup
      obtain ⟨asked, ⟨update, updates, stage⟩ | ⟨front, job, cause, failure, deletions, updates, stage⟩⟩ :=
        cleanUp_of_results answers plan _ _ nonempty _
      · exact .done update updates stage (ascending.sublist asked.sublist)
      · exact .undeleted front job cause failure deletions updates stage (ascending.sublist asked.sublist)

end Answers

/-! ## Two runs -/

/-- A run is about to begin. -/
structure Engine.Begins (cacheKey : String) (number : Nat) (engine : Engine) : Prop where
  found : ∃ guarded, engine.run? number = some ⟨number, cacheKey, guarded, .fresh⟩
  lt : number < engine.nextRun

/-- A run ends in a row of moves, and in this way only. -/
def Engine.EndsWith (number : Nat) (engine : Engine) (moves : List Move) (outcome : Outcome Unit) : Prop :=
  ∀ other, .ended number other ∈ engine.notes moves ↔ other = outcome

/-- Two runs have ended in the same way. -/
inductive SameEnd (first : Engine) (number : Nat) (moves : List Move) (second : Engine) (number' : Nat)
    (moves' : List Move) : Prop
  /-- Both have reported the same results, and have deleted the same jobs in ascending order before that. -/
  | done (update update' : Update) (ended : first.EndsWith number moves (.ok ()))
      (ended' : second.EndsWith number' moves' (.ok ()))
      (table : (first.after moves).table.Alike (second.after moves').table)
      (deletions : first.ofRun Engine.deletionsOf number moves = second.ofRun Engine.deletionsOf number' moves')
      (ascending : (calls (first.ofRun Engine.deletionsOf number moves)).Pairwise (· < ·))
      (reported : first.ofRun Engine.updatesOf number moves = [update])
      (reported' : second.ofRun Engine.updatesOf number' moves' = [update']) (same : update.Resembles update')
  /-- Both have failed before they have done anything. -/
  | untouched (failure failure' : Failure) (ended : first.EndsWith number moves (.error failure))
      (ended' : second.EndsWith number' moves' (.error failure')) (table : (first.after moves).table = first.table)
      (table' : (second.after moves').table = second.table)
      (deletions : first.ofRun Engine.deletionsOf number moves = [])
      (deletions' : second.ofRun Engine.deletionsOf number' moves' = [])
      (reported : first.ofRun Engine.updatesOf number moves = [])
      (reported' : second.ofRun Engine.updatesOf number' moves' = [])
  /-- Both have failed as the same job could not be deleted, after the same jobs were. -/
  | undeleted (front : List Deletion) (job : String) (cause failure : Failure)
      (ended : first.EndsWith number moves (.error failure))
      (ended' : second.EndsWith number' moves' (.error failure))
      (table : (first.after moves).table.Alike (second.after moves').table)
      (deletions : first.ofRun Engine.deletionsOf number moves = front ++ [.answered job (.error cause)])
      (deletions' : second.ofRun Engine.deletionsOf number' moves' = front ++ [.answered job (.error cause)])
      (ascending : (calls (first.ofRun Engine.deletionsOf number moves)).Pairwise (· < ·))
      (reported : first.ofRun Engine.updatesOf number moves = [])
      (reported' : second.ofRun Engine.updatesOf number' moves' = [])

section

variable {answers : Answers} {cacheKey : String} {first second engine : Engine} {number number' : Nat}
  {moves moves' : List Move} {ending ending' : Ending}

theorem Engine.Reaches.endsWith (reaches : engine.Reaches number moves ending) {outcome : Outcome Unit}
    (stage : ending.stage = .ended outcome) : engine.EndsWith number moves outcome := by
  intro other
  rw [reaches.ended, stage, Stage.ended.injEq, eq_comm]

/-- A run that is about to begin, and is not told to stop while it waits, comes to the ending of its table. -/
theorem Engine.Begins.reaches (begins : engine.Begins cacheKey number)
    (concludes : engine.Concludes answers number moves) (uncancelled : ¬ engine.Cancelled number moves) :
    engine.Reaches number moves (answers.conclude (engine.plan cacheKey) engine.table) := by
  obtain ⟨⟨guarded, found⟩, lt⟩ := begins
  exact Engine.reaches_ending found lt concludes uncancelled

theorem SameEnd.of_untouched {failure failure' : Failure}
    (reaches : first.Reaches number moves ⟨first.table, [], [], .ended (.error failure)⟩)
    (reaches' : second.Reaches number' moves' ⟨second.table, [], [], .ended (.error failure')⟩) :
    SameEnd first number moves second number' moves' :=
  .untouched failure failure' (reaches.endsWith rfl) (reaches'.endsWith rfl) reaches.table reaches'.table
    reaches.deletions reaches'.deletions reaches.updates reaches'.updates

/-- Runs that come to endings that resemble each other end in the same way. -/
theorem SameEnd.of_resembles (reaches : first.Reaches number moves ending)
    (reaches' : second.Reaches number' moves' ending') (resembles : ending.Resembles ending')
    (concluded : Answers.Concluded first.table ending) (concluded' : Answers.Concluded second.table ending') :
    SameEnd first number moves second number' moves' := by
  obtain ⟨table, deletions, updates, stage⟩ := resembles
  rw [← reaches.table, ← reaches'.table] at table
  cases concluded with
  | done update reported done ascending =>
    rw [reported] at updates
    obtain ⟨update', _, same, hnil, reported'⟩ := List.forall₂_cons_left_iff.1 updates
    rw [List.forall₂_nil_left_iff.1 hnil] at reported'
    rw [← reaches.deletions] at ascending
    exact .done update update' (reaches.endsWith done) (reaches'.endsWith (stage ▸ done)) table
      (reaches.deletions.trans (deletions.trans reaches'.deletions.symm)) ascending
      (reaches.updates.trans reported) (reaches'.updates.trans reported') same
  | untouched failure untouched =>
    -- Neither has the other one deleted anything, and as it has failed, it has done nothing else.
    subst untouched
    cases concluded' with
    | done _ _ done => exact absurd (stage.trans done) (by simp)
    | untouched failure' untouched' =>
      subst untouched'
      exact .of_untouched reaches reaches'
    | undeleted front _ _ _ refused => exact absurd (deletions.trans refused) (by simp)
  | undeleted front job cause failure refused silent failed ascending =>
    rw [silent] at updates
    rw [← reaches.deletions] at ascending
    exact .undeleted front job cause failure (reaches.endsWith failed) (reaches'.endsWith (stage ▸ failed)) table
      (reaches.deletions.trans refused) (reaches'.deletions.trans (deletions ▸ refused)) ascending
      (reaches.updates.trans silent) (reaches'.updates.trans (List.forall₂_nil_left_iff.1 updates))

end

/-- The order in which a table holds its entries makes no difference to a run. Take two runs for one image cache,
    with nobody else at their tables, which hold the same entries in whatever order. Each of them can be led to its
    end by the answers of the client, so long as the clock reaches as far as its deadline. And when both have been led
    to their ends, in whatever way, and both or neither have been told to stop while they waited, they have ended in
    the same way: both have deleted the same jobs in ascending order and reported the same results; or both have
    failed before they have done anything; or both have failed at the deletion of the same job. -/
theorem order_makes_no_difference (answers : Answers) (cacheKey : String) (first second : Engine)
    (number number' : Nat) (begins : first.Begins cacheKey number) (begins' : second.Begins cacheKey number')
    (settings : first.settings = second.settings) (alike : first.table.Alike second.table) :
    (first.now + first.settings.deadlineMs ≤ first.settings.lastTime → first.CanEnd answers number) ∧
    (second.now + second.settings.deadlineMs ≤ second.settings.lastTime → second.CanEnd answers number') ∧
    ∀ moves moves', first.Concludes answers number moves → second.Concludes answers number' moves' →
      (first.Cancelled number moves ↔ second.Cancelled number' moves') →
      SameEnd first number moves second number' moves' := by
  obtain ⟨guarded, found⟩ := begins.found
  obtain ⟨guarded', found'⟩ := begins'.found
  refine ⟨Engine.canEnd_of_fresh found rfl, Engine.canEnd_of_fresh found' rfl,
    fun moves moves' concludes concludes' together => ?_⟩
  by_cases cancelled : first.Cancelled number moves
  · -- Both have been told to stop while they waited, and have done nothing until then.
    exact .of_untouched (Engine.reaches_cancelled found begins.lt concludes.undisturbed cancelled).2
      (Engine.reaches_cancelled found' begins'.lt concludes'.undisturbed (together.1 cancelled)).2
  · have reaches := begins.reaches concludes cancelled
    have reaches' := begins'.reaches concludes' (mt together.2 cancelled)
    have plan : second.plan cacheKey = first.plan cacheKey := by rw [Engine.plan, Engine.plan, settings]
    rw [plan] at reaches'
    rcases Answers.conclude_alike alike with resembles | ⟨failure, failure', untouched, untouched'⟩
    · exact .of_resembles reaches reaches' resembles (Answers.concluded ..) (Answers.concluded ..)
    · rw [untouched] at reaches
      rw [untouched'] at reaches'
      exact .of_untouched reaches reaches'

/-! ## Two jobs in either order -/

/-- Every job has one pod, which is running, and the job `k` cannot be deleted. -/
def Answers.stubborn : Answers where
  pods _ := .ok [{ metadata := {}, phase := some "Running" }]
  events _ := .ok []
  deletion job := if job = "k" then .error .missing else .ok ()

/-- An engine with a run that is about to begin, and two open jobs. -/
def Engine.withJobs (job job' : String) : Engine :=
  let removal : Request :=
    { image := "x:1", node := .named "a", runtimeVersion := "", kind := .purge, cache := .named "w" }
  Engine.hasty.after [.insert (.real job) { request := removal, status := .jobCreated },
    .insert (.real job') { request := removal, status := .jobCreated }, .start removal.cacheKey]

theorem order_makes_no_difference_swapped :
    let first := Engine.withJobs "j" "k"
    let second := Engine.withJobs "k" "j"
    first.table.jobs = [.real "j", .real "k"] ∧ second.table.jobs = [.real "k", .real "j"] ∧
      ∃ moves moves', first.Concludes .stubborn 0 moves ∧ second.Concludes .stubborn 0 moves' ∧
        SameEnd first 0 moves second 0 moves' := by
  intro first second
  have begins : first.Begins "w" 0 := ⟨⟨true, rfl⟩, by decide⟩
  have begins' : second.Begins "w" 0 := ⟨⟨true, rfl⟩, by decide⟩
  obtain ⟨canEnd, canEnd', same⟩ :=
    order_makes_no_difference .stubborn "w" first second 0 0 begins begins' rfl (.swap _ _ _)
  obtain ⟨moves, concludes, going⟩ := canEnd (by decide)
  obtain ⟨moves', concludes', going'⟩ := canEnd' (by decide)
  exact ⟨by decide +kernel, by decide +kernel, moves, moves', concludes, concludes',
    same moves moves' concludes concludes' (iff_of_false going going')⟩

end NodeImages.Work
