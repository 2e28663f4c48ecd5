import NodeImages.Work.Basic

/-!
# The status table

The table holds an entry for every job whose outcome has not been reported yet. Entries come in when work is
dispatched, are resolved once, by the watch on pods or by the deadline, and leave when their batch is
reported. There is one entry a job; the order of the entries is of no account.

* `Table.put`: a new entry;
* `Table.resolve`, `Table.resolveAll`: entries are resolved that are still pending, and no others;
* `Table.jobsToDelete`, `Table.markDeleted`: which jobs are still to be deleted from the cluster;
* `Table.take`: entries leave.
-/

namespace NodeImages.Work

/-- The entry of a job. -/
structure Entry where
  job : JobId
  result : Result
  /-- Whether the job has been deleted from the cluster. -/
  deleted : Bool := false
  deriving Repr, Inhabited

namespace Entry

/-- Whether the outcome of the job is still open. -/
def isPending (entry : Entry) : Bool := entry.result.status.isPending

/-- The key of the image cache that the work is for. -/
def cacheKey (entry : Entry) : String := entry.result.request.cacheKey

/-- The job with its result. -/
def row (entry : Entry) : JobId × Result := (entry.job, entry.result)

end Entry

/-- The jobs whose outcome has not been reported yet. -/
structure Table where
  entries : List Entry
  nodup : (entries.map Entry.job).Nodup
  deriving Repr

namespace Table

/-- No entries. -/
def empty : Table := ⟨[], .nil⟩

instance : Inhabited Table := ⟨empty⟩

/-- The number of entries. -/
def size (table : Table) : Nat := table.entries.length

/-- The entry of a job. -/
def entry? (table : Table) (job : JobId) : Option Entry :=
  table.entries.find? (·.job == job)

/-- The result of a job. -/
def get? (table : Table) (job : JobId) : Option Result :=
  (table.entry? job).map (·.result)

/-- Changes the entry of a job and nothing else. -/
def modify (table : Table) (job : JobId) (change : Entry → Result × Bool) : Table where
  entries := table.entries.map fun entry =>
    if entry.job = job then ⟨entry.job, (change entry).1, (change entry).2⟩ else entry
  nodup := by
    have h : (table.entries.map fun entry =>
        if entry.job = job then ⟨entry.job, (change entry).1, (change entry).2⟩ else entry).map
          Entry.job = table.entries.map Entry.job := by
      rw [List.map_map]
      refine List.map_congr_left fun entry _ => ?_
      simp only [Function.comp_apply]
      split <;> rfl
    rw [h]
    exact table.nodup

/-- Puts a new entry in, in place of an earlier one of the same job. -/
def put (table : Table) (job : JobId) (result : Result) : Table :=
  if h : job ∈ table.entries.map Entry.job then table.modify job fun _ => (result, false)
  else
    { entries := table.entries ++ [⟨job, result, false⟩]
      nodup := by
        rw [List.map_append]
        refine List.nodup_append.2 ⟨table.nodup, by simp, fun a ha b hb => ?_⟩
        have : b = job := by simpa using hb
        rintro rfl
        exact h (this ▸ ha) }

/-- Keeps the entries with a property. -/
def filter (table : Table) (keep : Entry → Bool) : Table where
  entries := table.entries.filter keep
  nodup := table.nodup.sublist (List.filter_sublist.map _)

/-- The jobs of an image cache. -/
def jobsFor (table : Table) (cacheKey : String) : List JobId :=
  (table.entries.filter (·.cacheKey == cacheKey)).map Entry.job

/-- The results for an image cache. -/
def rowsFor (table : Table) (cacheKey : String) : List (JobId × Result) :=
  (table.entries.filter (·.cacheKey == cacheKey)).map Entry.row

/-- Whether a job of an image cache is still pending. -/
def hasPendingFor (table : Table) (cacheKey : String) : Bool :=
  table.entries.any fun entry => entry.isPending && entry.cacheKey == cacheKey

/-- Those of the given jobs that are pending, with their results so far. -/
def pending (table : Table) (jobs : List JobId) : List (JobId × Result) :=
  jobs.filterMap fun job =>
    (table.entry? job).bind fun entry => if entry.isPending then some entry.row else none

/-- Resolves the entry of a job if it is still pending. -/
def resolve (table : Table) (job : JobId) (outcome : Result → Result) : Table :=
  table.modify job fun entry =>
    (if entry.isPending then outcome entry.result else entry.result, entry.deleted)

/-- Whether the entry of a job is still pending. -/
def isPending (table : Table) (job : JobId) : Bool :=
  (table.entry? job).any (·.isPending)

/-- Resolves all entries of a list that are still pending. -/
def resolveAll (table : Table) (resolutions : List (JobId × Result)) : Table :=
  resolutions.foldl (fun table (job, result) => table.resolve job fun _ => result) table

/-- How many entries of a list `resolveAll` would resolve. -/
def countResolved (table : Table) : List (JobId × Result) → Nat
  | [] => 0
  | (job, result) :: rest =>
    (if table.isPending job then 1 else 0) +
      countResolved (table.resolve job fun _ => result) rest

/-- The names of those of the given jobs that are still to be deleted from the cluster, in ascending
    order. -/
def jobsToDelete (table : Table) (jobs : List JobId) : List String :=
  let names := jobs.filterMap fun job =>
    match job with
    | .real name => (table.entry? job).bind fun entry => if entry.deleted then none else some name
    | .synthetic _ => none
  names.mergeSort fun a b => a ≤ b

/-- Notes that a job has been deleted from the cluster. -/
def markDeleted (table : Table) (job : JobId) : Table :=
  table.modify job fun entry => (entry.result, true)

/-- The results of those of the given jobs that have an entry. -/
def results (table : Table) (jobs : List JobId) : List (JobId × Result) :=
  jobs.filterMap fun job => (table.entry? job).map (·.row)

/-- The table without the entries of the given jobs. -/
def without (table : Table) (jobs : List JobId) : Table :=
  table.filter fun entry => !jobs.contains entry.job

end Table

end NodeImages.Work
