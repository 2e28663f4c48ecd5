import NodeImages.Proofs.Commutation

/-!
# The order of entries

The order in which a table holds its entries is of no account. Two tables with the same entries in whatever order
(`Table.Alike`) have the same entry of every job; a batch has the same jobs in both, and they are to be deleted in the
same order, which is that of their names. What is written to both leaves them alike, also when the results of several
jobs are written in different orders (`Table.Alike.resolveAll`), as every job gets one result.
-/

namespace NodeImages.Work

open Cluster

/-- Two tables have the same entries. -/
def Table.Alike (table other : Table) : Prop := table.entries.Perm other.entries

namespace Entry

/-- An entry gets the same result in whatever order there are results for other jobs. -/
theorem resolveAll_perm {resolutions resolutions' : List (JobId × Result)} (perm : resolutions.Perm resolutions')
    (nodup : (resolutions.map Prod.fst).Nodup) (entry : Entry) :
    entry.resolveAll resolutions = entry.resolveAll resolutions' := by
  refine perm.foldl_eq' (fun first hfirst second hsecond entry => ?_) entry
  by_cases same : first.1 = second.1
  · rw [List.inj_on_of_nodup_map nodup hfirst hsecond same]
  · -- The entry is of one of the two jobs at most.
    by_cases hjob : entry.job = first.1
    · have untouched (entry : Entry) (h : entry.job = first.1) : entry.resolve second = entry :=
        if_neg fun h' => same (h.symm.trans h'.1)
      rw [untouched _ (by rw [job_resolve, hjob]), untouched _ hjob]
    · have untouched (entry : Entry) (h : entry.job ≠ first.1) : entry.resolve first = entry :=
        if_neg fun h' => h h'.1
      rw [untouched _ hjob, untouched _ (by rwa [job_resolve])]

end Entry

namespace Table

/-- The jobs to delete are in ascending order, whatever the order of the table is. -/
theorem jobsToDelete_sorted (table : Table) (batch : List JobId) : (table.jobsToDelete batch).Pairwise (· ≤ ·) :=
  sorted_mergeSort id _

/-- The jobs of a batch are to be deleted in ascending order of their names. -/
theorem jobsToDelete_ascending (table : Table) {batch : List JobId} (nodup : batch.Nodup) :
    (table.jobsToDelete batch).Pairwise (· < ·) :=
  ((table.jobsToDelete_sorted batch).and (nodup_jobsToDelete nodup)).imp
    fun ⟨hle, hne⟩ => Std.lt_of_le_of_ne hle hne

end Table

namespace Table.Alike

variable {table other : Table} {batch batch' : List JobId} {job : JobId}

/-- Tables that hold the same entries have the same entry for a job. -/
theorem entry_eq (alike : table.Alike other) (job : JobId) : table.entry? job = other.entry? job := by
  refine Option.ext fun entry => ?_
  rw [entry?_eq_some_iff, entry?_eq_some_iff, List.Perm.mem_iff alike]

/-- They hold the same jobs of an image cache, in whatever order. -/
theorem jobsFor (alike : table.Alike other) (cacheKey : String) :
    (table.jobsFor cacheKey).Perm (other.jobsFor cacheKey) :=
  (List.Perm.filter _ alike).map _

/-- The same jobs of a batch are pending in them. -/
theorem pending (alike : table.Alike other) (perm : batch.Perm batch') :
    (table.pending batch).Perm (other.pending batch') := by
  rw [← pending_congr fun job _ => alike.entry_eq job]
  exact perm.filterMap _

/-- They have the same results for a batch. -/
theorem results (alike : table.Alike other) (perm : batch.Perm batch') :
    (table.results batch).Perm (other.results batch') := by
  rw [← results_congr fun job _ => alike.entry_eq job]
  exact perm.filterMap _

/-- The jobs of a batch are to be deleted in one order. -/
theorem jobsToDelete (alike : table.Alike other) (perm : batch.Perm batch') :
    table.jobsToDelete batch = other.jobsToDelete batch' := by
  rw [← jobsToDelete_congr fun job _ => alike.entry_eq job]
  have sorted : (table.jobsToDelete batch).Perm (table.jobsToDelete batch') :=
    (List.mergeSort_perm _ _).trans ((perm.filterMap _).trans (List.mergeSort_perm _ _).symm)
  exact sorted.eq_of_pairwise (fun _ _ _ _ => Std.le_antisymm) (table.jobsToDelete_sorted batch)
    (table.jobsToDelete_sorted batch')

/-- Tables that hold the same entries do so after the same resolutions, if no job is resolved twice. -/
theorem resolveAll {resolutions resolutions' : List (JobId × Result)} (alike : table.Alike other)
    (perm : resolutions.Perm resolutions') (nodup : (resolutions.map Prod.fst).Nodup) :
    (table.resolveAll resolutions).Alike (other.resolveAll resolutions') := by
  rw [Alike, entries_resolveAll, entries_resolveAll, funext (Entry.resolveAll_perm perm nodup)]
  exact List.Perm.map _ alike

theorem markDeleted (alike : table.Alike other) (job : JobId) :
    (table.markDeleted job).Alike (other.markDeleted job) :=
  List.Perm.map _ alike

/-- They do so after a batch has left them. -/
theorem without (alike : table.Alike other) (perm : batch.Perm batch') :
    (table.without batch).Alike (other.without batch') := by
  have same : (fun entry : Entry => !batch.contains entry.job) = fun entry => !batch'.contains entry.job := by
    funext entry
    rw [Bool.eq_iff_iff]
    simp [perm.mem_iff]
  rw [Alike, Table.without, Table.without, same]
  exact List.Perm.filter _ alike

end Table.Alike

end NodeImages.Work
