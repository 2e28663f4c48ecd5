import Mathlib.Data.List.Nodup
import NodeImages.Work.Observer

/-!
# Entries of the status table

What each operation on the table makes of its entries. The table has one entry a job (`Table.unique`), and
no operation but `Table.put` and `Table.without` changes which jobs have one. An entry of the table after an
operation is therefore traced back to the entry of the same job before it:

* `mem_resolveAll`, `mem_settlePod`: an entry is what it was, or it was pending and has been resolved;
* `mem_markDeleted`: an entry keeps its result;
* `mem_put_of_new`: a new entry joins the others.

What is read from the table is described in the same terms (`mem_results`, `mem_pending`,
`mem_jobsToDelete`).
-/

namespace NodeImages.Work

open Cluster

/-- How the result of an entry may change: it stays as it is, or it was open and is settled for good, for the
    same request. -/
def Result.Becomes (old new : Result) : Prop :=
  new = old ∨ old.status = .jobCreated ∧ (new.status = .succeeded ∨ new.status = .failed) ∧
    new.request = old.request

namespace Result.Becomes

variable {a b c : Result}

theorem refl (a : Result) : a.Becomes a := .inl rfl

/-- A result that becomes another one keeps its request. -/
theorem request_eq (h : a.Becomes b) : b.request = a.request := by
  rcases h with rfl | ⟨_, _, h⟩
  · rfl
  · exact h

/-- A result that is not open stays as it is. -/
theorem eq_of_closed (h : a.Becomes b) (closed : a.status ≠ .jobCreated) : b = a :=
  h.resolve_right fun ⟨hopen, _⟩ => closed hopen

/-- What becomes of a result over several steps becomes of it. -/
theorem trans (h : a.Becomes b) (h' : b.Becomes c) : a.Becomes c := by
  rcases h with rfl | ⟨hopen, hclosed, hrequest⟩
  · exact h'
  · have hb : b.status ≠ .jobCreated := by
      rcases hclosed with h | h <;> rw [h] <;> decide
    rw [h'.eq_of_closed hb]
    exact .inr ⟨hopen, hclosed, hrequest⟩

end Result.Becomes

/-- The result of a job whose pod failed is a failure, for the same request. -/
theorem Result.fail_eq (result : Result) (pod : Pod) :
    (result.fail pod).status = .failed ∧ (result.fail pod).request = result.request := by
  rw [Result.fail]
  split <;> exact ⟨rfl, rfl⟩

theorem Status.isPending_iff {status : Status} : status.isPending = true ↔ status = .jobCreated := by
  cases status <;> decide

theorem Kind.removes_iff {kind : Kind} : kind.removes = true ↔ kind = .purge := by
  cases kind <;> decide

namespace Table

variable {table : Table} {job : JobId} {result : Result} {entry entry' : Entry}

/-- The jobs that have an entry. -/
def jobs (table : Table) : List JobId := table.entries.map Entry.job

theorem mem_jobs : job ∈ table.jobs ↔ ∃ entry ∈ table.entries, entry.job = job :=
  List.mem_map

theorem nodup_jobs (table : Table) : table.jobs.Nodup := table.nodup

/-- A job has one entry. -/
theorem unique (h : entry ∈ table.entries) (h' : entry' ∈ table.entries)
    (same : entry.job = entry'.job) : entry = entry' :=
  List.inj_on_of_nodup_map table.nodup h h' same

/-- A table is known by its entries. -/
theorem ext_entries {other : Table} (h : table.entries = other.entries) : table = other := by
  cases table
  cases other
  cases h
  rfl

/-- The entry of a job is the only one of its job. -/
theorem entry?_eq_some_iff :
    table.entry? job = some entry ↔ entry ∈ table.entries ∧ entry.job = job := by
  constructor
  · intro h
    exact ⟨List.mem_of_find?_eq_some h, by simpa using List.find?_some h⟩
  · rintro ⟨h, rfl⟩
    obtain ⟨found, hfound⟩ := Option.isSome_iff_exists.1
      (List.find?_isSome (p := (·.job == entry.job)).2 ⟨entry, h, by simp⟩)
    have hjob : found.job = entry.job := by simpa using List.find?_some hfound
    unfold entry?
    rw [hfound, unique (List.mem_of_find?_eq_some hfound) h hjob]

/-- The result of a job is that of its entry. -/
theorem get?_eq_some_iff :
    table.get? job = some result ↔
      ∃ entry ∈ table.entries, entry.job = job ∧ entry.result = result := by
  simp only [get?, Option.map_eq_some_iff, entry?_eq_some_iff, and_assoc]

/-- A job is pending if its entry is. -/
theorem isPending_iff :
    table.isPending job = true ↔ ∃ entry ∈ table.entries, entry.job = job ∧ entry.isPending = true := by
  simp only [isPending, Option.any_eq_true, entry?_eq_some_iff, and_assoc]

theorem isPending_of_get? (h : table.get? job = some result) :
    table.isPending job = result.status.isPending := by
  obtain ⟨entry, hentry, rfl⟩ := Option.map_eq_some_iff.1 h
  rw [isPending, hentry]
  rfl

/-! ## Changes to entries -/

/-- A change is made to the entry of the job, and to no other. -/
theorem mem_modify {change : Entry → Result × Bool} :
    entry ∈ (table.modify job change).entries ↔ ∃ old ∈ table.entries,
      (if old.job = job then ⟨old.job, (change old).1, (change old).2⟩ else old) = entry :=
  List.mem_map

@[simp] theorem jobs_modify (change : Entry → Result × Bool) :
    (table.modify job change).jobs = table.jobs := by
  rw [jobs, modify, List.map_map]
  refine List.map_congr_left fun entry _ => ?_
  rw [Function.comp_apply]
  split <;> rfl

/-- The entry of a new job comes behind the others. -/
theorem entries_put_of_new (h : job ∉ table.jobs) :
    (table.put job result).entries = table.entries ++ [⟨job, result, false⟩] := by
  rw [jobs] at h
  rw [put, dif_neg h]

theorem mem_put_of_new (h : job ∉ table.jobs) :
    entry ∈ (table.put job result).entries ↔
      entry ∈ table.entries ∨ entry = ⟨job, result, false⟩ := by
  simp [entries_put_of_new h]

theorem jobs_put_of_new (h : job ∉ table.jobs) :
    (table.put job result).jobs = table.jobs ++ [job] := by
  simp [jobs, entries_put_of_new h]

/-- A job that has an entry keeps one when an entry is put in. -/
theorem mem_jobs_put {other : JobId} (h : other ∈ table.jobs) : other ∈ (table.put job result).jobs := by
  by_cases hnew : job ∉ table.jobs
  · rw [jobs_put_of_new hnew]
    exact List.mem_append_left _ h
  · rw [not_not, jobs] at hnew
    rw [put, dif_pos hnew, jobs_modify]
    exact h

@[simp] theorem jobs_markDeleted : (table.markDeleted job).jobs = table.jobs := jobs_modify _

/-- Marking a job changes the mark of its entry and nothing else. -/
theorem mem_markDeleted (h : entry' ∈ (table.markDeleted job).entries) :
    ∃ entry ∈ table.entries, entry'.job = entry.job ∧ entry'.result = entry.result ∧
      entry'.deleted = (entry.deleted || entry.job == job) := by
  obtain ⟨entry, hentry, rfl⟩ := mem_modify.1 h
  refine ⟨entry, hentry, ?_⟩
  by_cases hjob : entry.job = job <;> simp [hjob]

@[simp] theorem jobs_resolve (outcome : Result → Result) :
    (table.resolve job outcome).jobs = table.jobs := jobs_modify _

/-- Resolving changes the entry of the job, if it was pending, and nothing else. -/
theorem mem_resolve {outcome : Result → Result}
    (h : entry' ∈ (table.resolve job outcome).entries) :
    ∃ entry ∈ table.entries, entry'.job = entry.job ∧ entry'.deleted = entry.deleted ∧
      ((entry.job = job ∧ entry.isPending = true ∧ entry'.result = outcome entry.result) ∨
        ((entry.job = job → entry.isPending = false) ∧ entry'.result = entry.result)) := by
  obtain ⟨entry, hentry, rfl⟩ := mem_modify.1 h
  refine ⟨entry, hentry, ?_⟩
  by_cases hjob : entry.job = job
  · by_cases hpending : entry.isPending = true <;> simp [hjob, hpending]
  · simp [hjob]

/-- A job that is not open is not resolved. -/
theorem resolve_of_closed {outcome : Result → Result}
    (closed : ∀ entry ∈ table.entries, entry.job = job → entry.isPending = false) :
    table.resolve job outcome = table := by
  refine ext_entries ((List.map_congr_left fun entry hentry => ?_).trans (List.map_id _))
  by_cases hjob : entry.job = job
  · obtain rfl := hjob
    simp [closed entry hentry rfl]
  · rw [if_neg hjob]
    rfl

/-- An open entry is resolved, and no other. -/
theorem entries_resolve_of_open (outcome : Result → Result) (hentry : entry ∈ table.entries)
    (isOpen : entry.isPending = true) :
    (table.resolve entry.job outcome).entries = table.entries.map fun other =>
      if other.job = entry.job then { entry with result := outcome entry.result } else other := by
  refine List.map_congr_left fun other hother => ?_
  by_cases hjob : other.job = entry.job
  · obtain rfl := unique hother hentry hjob
    simp [isOpen]
  · rw [if_neg hjob, if_neg hjob]

/-! ## Resolutions -/

@[simp] theorem jobs_resolveAll (resolutions : List (JobId × Result)) :
    (table.resolveAll resolutions).jobs = table.jobs := by
  induction resolutions generalizing table with
  | nil => rfl
  | cons resolution rest ih =>
    rw [resolveAll, List.foldl_cons]
    exact ih.trans (jobs_resolve _)

/-- After resolving a list, an entry is what it was, or it was pending and has a result of the list. If the
    list leaves nothing pending, no job of the list is. -/
theorem mem_resolveAll {resolutions : List (JobId × Result)}
    (closed : ∀ resolution ∈ resolutions, resolution.2.status.isPending = false)
    (h : entry' ∈ (table.resolveAll resolutions).entries) :
    ∃ entry ∈ table.entries, entry'.job = entry.job ∧ entry'.deleted = entry.deleted ∧
      ((entry.isPending = true ∧ (entry.job, entry'.result) ∈ resolutions) ∨
        ((entry.isPending = true → entry.job ∉ resolutions.map Prod.fst) ∧
          entry'.result = entry.result)) := by
  induction resolutions generalizing table with
  | nil => exact ⟨entry', h, rfl, rfl, .inr ⟨fun _ => List.not_mem_nil, rfl⟩⟩
  | cons resolution rest ih =>
    obtain ⟨job, result⟩ := resolution
    rw [resolveAll, List.foldl_cons] at h
    obtain ⟨middle, hmiddle, hjob, hdeleted, hresult⟩ :=
      ih (fun resolution hmem => closed resolution (.tail _ hmem)) h
    obtain ⟨entry, hentry, hjob', hdeleted', hresult'⟩ := mem_resolve hmiddle
    refine ⟨entry, hentry, hjob.trans hjob', hdeleted.trans hdeleted', ?_⟩
    rw [Entry.isPending, hjob'] at hresult
    rcases hresult' with ⟨rfl, hpending, hresult'⟩ | ⟨hother, hresult'⟩
    · -- The entry has been resolved by the head of the list; the rest leaves it alone.
      have hclosed : middle.result.status.isPending = false := by
        rw [hresult']
        exact closed _ (.head _)
      rcases hresult with ⟨hopen, _⟩ | ⟨_, hresult⟩
      · rw [hclosed] at hopen
        exact absurd hopen Bool.false_ne_true
      · exact .inl ⟨hpending, by rw [hresult, hresult']; exact .head _⟩
    · rw [hresult'] at hresult
      rcases hresult with ⟨hopen, hmem⟩ | ⟨hnot, hresult⟩
      · exact .inl ⟨hopen, .tail _ hmem⟩
      · refine .inr ⟨fun hopen => ?_, hresult⟩
        rw [List.map_cons, List.mem_cons, not_or]
        refine ⟨fun hjob => ?_, hnot hopen⟩
        have := hother hjob
        rw [Entry.isPending] at hopen this
        rw [hopen] at this
        exact Bool.noConfusion this

/-- Noting the phase of a pod settles at most the entry of its job, if that is open. -/
theorem settled_of_mem_settlePod {pod : Pod} (h : entry' ∈ (table.settlePod pod).entries) :
    ∃ entry ∈ table.entries, entry'.job = entry.job ∧ entry'.deleted = entry.deleted ∧
      (entry'.result = entry.result ∨ entry.isPending = true ∧
        ∃ name, pod.jobName? = some name ∧ entry.job = .ofName name ∧
          (pod.phase = some Pod.succeededPhase ∧ entry'.result = entry.result.succeed ∨
            pod.phase = some Pod.failedPhase ∧ entry'.result = entry.result.fail pod)) := by
  rw [settlePod] at h
  split at h
  · exact ⟨entry', h, rfl, rfl, .inl rfl⟩
  · rename_i name hname
    split at h
    · rename_i hphase
      obtain ⟨entry, hentry, hjob, hdeleted, ⟨hof, hopen, hresult⟩ | ⟨_, hresult⟩⟩ := mem_resolve h
      · exact ⟨entry, hentry, hjob, hdeleted, .inr ⟨hopen, name, hname, hof, .inl ⟨hphase, hresult⟩⟩⟩
      · exact ⟨entry, hentry, hjob, hdeleted, .inl hresult⟩
    · split at h
      · rename_i hphase
        obtain ⟨entry, hentry, hjob, hdeleted, ⟨hof, hopen, hresult⟩ | ⟨_, hresult⟩⟩ := mem_resolve h
        · exact ⟨entry, hentry, hjob, hdeleted,
            .inr ⟨hopen, name, hname, hof, .inr ⟨hphase, hresult⟩⟩⟩
        · exact ⟨entry, hentry, hjob, hdeleted, .inl hresult⟩
      · exact ⟨entry', h, rfl, rfl, .inl rfl⟩

/-- Noting the phase of a pod settles at most open entries. -/
theorem mem_settlePod {pod : Pod} (h : entry' ∈ (table.settlePod pod).entries) :
    ∃ entry ∈ table.entries, entry'.job = entry.job ∧ entry'.deleted = entry.deleted ∧
      entry.result.Becomes entry'.result := by
  obtain ⟨entry, hentry, hjob, hdeleted, hresult⟩ := settled_of_mem_settlePod h
  refine ⟨entry, hentry, hjob, hdeleted, ?_⟩
  rcases hresult with hresult | ⟨hopen, _, _, _, ⟨_, hresult⟩ | ⟨_, hresult⟩⟩
  · exact .inl hresult
  · exact .inr ⟨Status.isPending_iff.1 hopen, by rw [hresult]; exact ⟨.inl rfl, rfl⟩⟩
  · obtain ⟨hstatus, hrequest⟩ := entry.result.fail_eq pod
    exact .inr ⟨Status.isPending_iff.1 hopen, by rw [hresult]; exact ⟨.inr hstatus, hrequest⟩⟩

@[simp] theorem jobs_settlePod (pod : Pod) : (table.settlePod pod).jobs = table.jobs := by
  rw [settlePod]
  split
  · rfl
  · split
    · exact jobs_resolve _
    · split
      · exact jobs_resolve _
      · rfl

/-! ## What is read from the table -/

variable {cacheKey : String} {batch : List JobId} {name : String}

/-- The jobs of an image cache are those of its entries. -/
theorem mem_jobsFor :
    job ∈ table.jobsFor cacheKey ↔
      ∃ entry ∈ table.entries, entry.job = job ∧ entry.cacheKey = cacheKey := by
  simp only [jobsFor, List.mem_map, List.mem_filter, beq_iff_eq, and_assoc]
  exact ⟨fun ⟨entry, h, hkey, hjob⟩ => ⟨entry, h, hjob, hkey⟩,
    fun ⟨entry, h, hjob, hkey⟩ => ⟨entry, h, hkey, hjob⟩⟩

theorem nodup_jobsFor : (table.jobsFor cacheKey).Nodup :=
  table.nodup.sublist (List.filter_sublist.map _)

/-- Of a batch those jobs are pending whose entries are. -/
theorem mem_pending :
    (job, result) ∈ table.pending batch ↔ job ∈ batch ∧
      ∃ entry ∈ table.entries, entry.job = job ∧ entry.isPending = true ∧ entry.result = result := by
  simp only [pending, List.mem_filterMap, Option.bind_eq_some_iff, entry?_eq_some_iff]
  constructor
  · rintro ⟨job', hmem, entry, ⟨hentry, rfl⟩, h⟩
    split at h
    · rename_i hopen
      obtain ⟨rfl, rfl⟩ := Prod.mk.inj (Option.some.inj h)
      exact ⟨hmem, entry, hentry, rfl, hopen, rfl⟩
    · exact absurd h (Option.some_ne_none _).symm
  · rintro ⟨hmem, entry, hentry, rfl, hopen, rfl⟩
    exact ⟨entry.job, hmem, entry, ⟨hentry, rfl⟩, by rw [if_pos hopen]; rfl⟩

/-- Of a batch those jobs are to be deleted that are real and not yet marked. -/
theorem mem_jobsToDelete :
    name ∈ table.jobsToDelete batch ↔ .real name ∈ batch ∧
      ∃ entry ∈ table.entries, entry.job = .real name ∧ entry.deleted = false := by
  rw [jobsToDelete, List.mem_mergeSort, List.mem_filterMap]
  constructor
  · rintro ⟨job, hmem, h⟩
    cases job with
    | synthetic => exact absurd h (Option.some_ne_none _).symm
    | real other =>
      obtain ⟨entry, hentry, h⟩ := Option.bind_eq_some_iff.1 h
      obtain ⟨hentry, hjob⟩ := entry?_eq_some_iff.1 hentry
      split at h
      · exact absurd h (Option.some_ne_none _).symm
      · rename_i hdeleted
        obtain rfl := Option.some.inj h
        exact ⟨hmem, entry, hentry, hjob, by simpa using hdeleted⟩
  · rintro ⟨hmem, entry, hentry, hjob, hdeleted⟩
    refine ⟨.real name, hmem, Option.bind_eq_some_iff.2 ⟨entry, ?_, by simp [hdeleted]⟩⟩
    exact entry?_eq_some_iff.2 ⟨hentry, hjob⟩

/-- What is sorted by texts comes in the order of these. -/
theorem sorted_mergeSort {α : Type} (text : α → String) (l : List α) :
    (l.mergeSort fun a b => text a ≤ text b).Pairwise fun a b => text a ≤ text b := by
  refine (List.pairwise_mergeSort ?_ ?_ l).imp fun h => of_decide_eq_true h
  · exact fun a b c hab hbc =>
      decide_eq_true (String.le_trans (of_decide_eq_true hab) (of_decide_eq_true hbc))
  · exact fun a b => by simpa using String.le_total (text a) (text b)

/-- No job is to be deleted twice. -/
theorem nodup_jobsToDelete (h : batch.Nodup) : (table.jobsToDelete batch).Nodup := by
  rw [jobsToDelete, List.nodup_mergeSort]
  refine h.filterMap fun job job' name hjob hjob' => ?_
  cases job <;> cases job' <;> simp only [Option.mem_def, Option.bind_eq_some_iff] at hjob hjob'
  · obtain ⟨_, _, hjob⟩ := hjob
    obtain ⟨_, _, hjob'⟩ := hjob'
    simp_all
  all_goals simp_all

/-- The results of a batch are those of its entries. -/
theorem mem_results :
    (job, result) ∈ table.results batch ↔ job ∈ batch ∧
      ∃ entry ∈ table.entries, entry.job = job ∧ entry.result = result := by
  simp only [results, List.mem_filterMap, Option.map_eq_some_iff, entry?_eq_some_iff]
  constructor
  · rintro ⟨job', hmem, entry, ⟨hentry, rfl⟩, h⟩
    obtain ⟨rfl, rfl⟩ := Prod.mk.inj h
    exact ⟨hmem, entry, hentry, rfl, rfl⟩
  · rintro ⟨hmem, entry, hentry, rfl, rfl⟩
    exact ⟨entry.job, hmem, entry, ⟨hentry, rfl⟩, rfl⟩

/-- The entries of a batch leave the table, and all others stay. -/
theorem mem_without :
    entry ∈ (table.without batch).entries ↔ entry ∈ table.entries ∧ entry.job ∉ batch := by
  simp [without, filter]

/-- A batch has results for its jobs that are in the table. -/
theorem fst_results : (table.results batch).map Prod.fst = batch.filter (· ∈ table.jobs) := by
  induction batch with
  | nil => rfl
  | cons job rest ih =>
    rw [results] at ih ⊢
    rw [List.filterMap_cons, List.filter_cons]
    cases h : table.entry? job with
    | none =>
      have hjob : job ∉ table.jobs := fun hmem => by
        obtain ⟨entry, hentry, hjob⟩ := mem_jobs.1 hmem
        rw [entry?_eq_some_iff.2 ⟨hentry, hjob⟩] at h
        exact Option.some_ne_none _ h
      simpa [hjob] using ih
    | some entry =>
      obtain ⟨hentry, rfl⟩ := entry?_eq_some_iff.1 h
      have hjob : entry.job ∈ table.jobs := mem_jobs.2 ⟨entry, hentry, rfl⟩
      simpa [hjob, Entry.row] using ih

theorem mem_jobs_without : job ∈ (table.without batch).jobs ↔ job ∈ table.jobs ∧ job ∉ batch := by
  simp only [mem_jobs, mem_without]
  constructor
  · rintro ⟨entry, ⟨hentry, hnot⟩, rfl⟩
    exact ⟨⟨entry, hentry, rfl⟩, hnot⟩
  · rintro ⟨⟨entry, hentry, rfl⟩, hnot⟩
    exact ⟨entry, ⟨hentry, hnot⟩, rfl⟩

/-- When a batch leaves the table, its jobs are divided: some keep their entries, the others have a result. -/
theorem jobs_without_append_results (h : batch.Nodup) :
    ((table.without batch).jobs ++ (table.results batch).map Prod.fst).Perm table.jobs := by
  rw [fst_results]
  refine (List.perm_ext_iff_of_nodup ?_ (nodup_jobs _)).2 fun job => ?_
  · refine List.nodup_append.2 ⟨nodup_jobs _, h.filter _, ?_⟩
    rintro job hstays _ hleaves rfl
    exact (mem_jobs_without.1 hstays).2 (List.mem_filter.1 hleaves).1
  · rw [List.mem_append, mem_jobs_without, List.mem_filter, decide_eq_true_eq]
    by_cases hjob : job ∈ batch <;> simp [hjob]

end Table

end NodeImages.Work
