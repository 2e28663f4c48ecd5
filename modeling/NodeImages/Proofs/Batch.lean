import NodeImages.Proofs.Ledger

/-!
# What a batch covers

A run fixes its batch once, from the table as it is when the wait is over, and works with copies of the open
entries from then on. Two things hold of the batch whatever else happens to the table meanwhile:

* `Stage.Accounts`: a job of the batch that is still open is one that the run has yet to look into or will
  resolve, so that none is open when the batch is resolved;
* `Stage.Covers`: entries of the image cache that were in the table before the run was started, and still are,
  belong to the batch.

`Effect.accounts` and `Effect.covers` show that moves keep them; `closed_of_collecting` and `covers_after` draw
the conclusions for courses.
-/

namespace NodeImages.Work

open Cluster

namespace Stage

/-- Whether the batch has been fixed. -/
def isFixed : Stage → Bool
  | listingPods _ _ _ _ | listingEvents _ _ _ _ _ | resolving _ _ | deleting _ _ _ | collecting _ => true
  | _ => false

/-- The jobs that the run has yet to look into, and those that it will resolve. -/
def expected (stage : Stage) : List JobId := (stage.unseen ++ stage.outcomes).map Prod.fst

/-- The open jobs of the batch are accounted for. -/
def Accounts (stage : Stage) (table : Table) : Prop :=
  ∀ entry ∈ table.entries, entry.job ∈ stage.batch → entry.isPending = true →
    entry.job ∈ stage.expected

/-- Of some jobs, those that have an entry for the image cache belong to the batch once it is fixed. -/
def Covers (jobs : List JobId) (cacheKey : String) (stage : Stage) (table : Table) : Prop :=
  stage.isFixed = true → ∀ entry ∈ table.entries, entry.job ∈ jobs → entry.cacheKey = cacheKey →
    entry.job ∈ stage.batch

theorem Accounts.of_empty {stage : Stage} {table : Table} (batch : stage.batch = []) :
    stage.Accounts table := fun _ _ h => by
  rw [batch] at h
  exact absurd h List.not_mem_nil

theorem Covers.of_not_fixed {jobs : List JobId} {cacheKey : String} {stage : Stage} {table : Table}
    (h : stage.isFixed = false) : stage.Covers jobs cacheKey table := fun h' => by
  rw [h] at h'
  exact absurd h' Bool.false_ne_true

end Stage

/-! ## Steps -/

namespace Run.Step

variable {plan : RunPlan} {now : Nat} {table table' : Table} {stage stage' : Stage}
  {deletions : List Deletion}

/-- A job that has been looked into joins those that will be resolved. -/
theorem mem_expected_iff {job : JobId} {rest : List OpenJob} {resolved : List (JobId × Result)}
    {other : OpenJob} :
    job ∈ (rest.map Stage.copy ++ (resolved ++ [Stage.copy other])).map Prod.fst ↔
      job = .real other.1 ∨ job ∈ (rest.map Stage.copy ++ resolved).map Prod.fst := by
  simp only [Stage.copy, List.map_append, List.map_cons, List.map_nil, List.mem_append,
    List.mem_singleton]
  rw [← or_assoc, or_comm]

theorem accounts (step : Step plan now table stage deletions table' stage')
    (closed : ∀ outcome ∈ stage.outcomes, outcome.2.status = .failed)
    (real : ∀ entry ∈ table.entries, entry.isPending = true → ∃ name, entry.job = .real name)
    (accounts : stage.Accounts table) : stage'.Accounts table' := by
  cases step with
  | idle => exact accounts
  | wait | stick | fail | refuse => exact .of_empty rfl
  | fix =>
    intro entry hentry hjob hopen
    -- Only jobs that were created are looked into, but no others are open.
    obtain ⟨name, hname⟩ := real entry hentry hopen
    rw [batch_fixBatch, hname] at hjob
    rw [Stage.expected, unseen_fixBatch, outcomes_fixBatch, List.append_nil, List.map_map, hname]
    exact List.mem_map.2
      ⟨(name, entry.result), mem_openJobs.2 ⟨hjob, entry, hentry, hname, hopen, rfl⟩, rfl⟩
  | expire =>
    intro entry hentry hjob hopen
    rw [batch_listNext] at hjob
    rw [Stage.expected, unseen_listNext, outcomes_listNext]
    exact mem_expected_iff.2 (List.mem_cons.1 (accounts entry hentry hjob hopen))
  | ask =>
    intro entry hentry hjob hopen
    exact mem_expected_iff.2 (List.mem_cons.1 (accounts entry hentry hjob hopen))
  | hear =>
    intro entry hentry hjob hopen
    rw [batch_listNext] at hjob
    have hmem := mem_expected_iff.1 (accounts entry hentry hjob hopen)
    rw [Stage.expected, unseen_listNext, outcomes_listNext]
    exact mem_expected_iff.2 hmem
  | @resolve batch resolved =>
    -- An entry that is open after the resolution is none of the batch.
    intro entry' hentry' hjob hopen
    rw [batch_deleteNext] at hjob
    have hclosed : ∀ outcome ∈ resolved, outcome.2.status.isPending = false := fun outcome hmem => by
      rw [closed outcome hmem]
      rfl
    obtain ⟨entry, hentry, hsame, _, ⟨_, hmem⟩ | ⟨hnot, hresult⟩⟩ :=
      Table.mem_resolveAll hclosed hentry'
    · rw [Entry.isPending, hclosed _ hmem] at hopen
      exact absurd hopen Bool.false_ne_true
    · rw [Entry.isPending, hresult] at hopen
      rw [hsame] at hjob
      exact absurd (accounts entry hentry hjob hopen) (hnot hopen)
  | delete =>
    intro entry' hentry' hjob hopen
    obtain ⟨entry, hentry, hsame, hresult, _⟩ := Table.mem_markDeleted hentry'
    rw [batch_deleteNext, hsame] at hjob
    rw [Entry.isPending, hresult] at hopen
    exact absurd (accounts entry hentry hjob hopen) List.not_mem_nil

theorem covers {jobs : List JobId} (step : Step plan now table stage deletions table' stage')
    (same : ∀ entry' ∈ table'.entries, entry'.job ∈ jobs → ∃ entry ∈ table.entries,
      entry'.job = entry.job ∧ entry'.cacheKey = entry.cacheKey)
    (covers : stage.Covers jobs plan.cacheKey table) : stage'.Covers jobs plan.cacheKey table' := by
  cases step with
  | idle => exact covers
  | wait | stick | fail | refuse => exact .of_not_fixed rfl
  | fix =>
    intro _ entry hentry _ hkey
    rw [batch_fixBatch]
    exact Table.mem_jobsFor.2 ⟨entry, hentry, rfl, hkey⟩
  | ask => exact covers
  | expire | hear =>
    intro _ entry hentry hjob hkey
    rw [batch_listNext]
    exact covers rfl entry hentry hjob hkey
  | resolve | delete =>
    intro _ entry' hentry' hjob hkey
    obtain ⟨entry, hentry, hsame, hsame'⟩ := same entry' hentry' hjob
    rw [batch_deleteNext, hsame]
    exact covers rfl entry hentry (hsame ▸ hjob) (hsame' ▸ hkey)

end Run.Step

/-! ## Moves -/

namespace Effect

variable {engine engine' : Engine} {move : Move} {notes late : List Note} {deletions : List Deletion}

/-- A run after a move stays where it was, has just been started, or has taken a step; the table is its own
    then, or has changed by the hand of others. -/
theorem accounts (effect : Effect engine move engine' late deletions) (ledger : Ledger engine notes)
    (distinct : DistinctNames (notes ++ late))
    (accounts : ∀ run ∈ engine.runs, run.stage.Accounts engine.table) :
    ∀ run ∈ engine'.runs, run.stage.Accounts engine'.table := by
  intro run hrun
  rcases effect.mem_runs ledger.numbered hrun with
    hold | ⟨cacheKey, guarded, rfl⟩ | ⟨old, hold, stage, rfl, step⟩
  · intro entry' hentry' hjob hopen
    rcases effect.mem_entries ledger distinct hentry' with
      ⟨result, hmem, _⟩ | ⟨entry, hentry, hsame, hbecomes⟩
    · -- A new entry is none of an old batch.
      obtain ⟨_, ⟨result', hmem', _⟩, _⟩ := (ledger.runs run hold).batch _ hjob
      exact absurd hmem' (distinct.not_mem hmem)
    · rw [hsame] at hjob ⊢
      refine accounts run hold entry hentry hjob ?_
      by_contra hclosed
      rw [Entry.isPending, Status.isPending_iff] at hopen hclosed
      rw [hbecomes.eq_of_closed hclosed] at hopen
      exact hclosed hopen
  · exact .of_empty rfl
  · exact step.accounts (fun outcome h => ((ledger.runs old hold).outcomes outcome h).2)
      (fun entry => ledger.real_of_pending) (accounts old hold)

/-- The batch of a run covers what was recorded before. -/
theorem covers (effect : Effect engine move engine' late deletions) (ledger : Ledger engine notes)
    (distinct : DistinctNames (notes ++ late)) {number : Nat} {cacheKey : String} {jobs : List JobId}
    (known : ∀ job ∈ jobs, ∃ result, (job, result) ∈ recordings notes)
    (lt : number < engine.nextRun)
    (covers : ∀ run ∈ engine.runs, run.number = number →
      run.cacheKey = cacheKey ∧ run.stage.Covers jobs cacheKey engine.table) :
    ∀ run ∈ engine'.runs, run.number = number →
      run.cacheKey = cacheKey ∧ run.stage.Covers jobs cacheKey engine'.table := by
  intro run hrun hnumber
  have same (entry' : Entry) (hentry' : entry' ∈ engine'.table.entries) (hjob : entry'.job ∈ jobs) :
      ∃ entry ∈ engine.table.entries, entry'.job = entry.job ∧ entry'.cacheKey = entry.cacheKey := by
    rcases effect.mem_entries ledger distinct hentry' with
      ⟨result, hmem, _⟩ | ⟨entry, hentry, hsame, hbecomes⟩
    · obtain ⟨_, hmem'⟩ := known _ hjob
      exact absurd hmem' (distinct.not_mem hmem)
    · exact ⟨entry, hentry, hsame, by rw [Entry.cacheKey, Entry.cacheKey, hbecomes.request_eq]⟩
  rcases effect.mem_runs ledger.numbered hrun with
    hold | ⟨_, _, rfl⟩ | ⟨old, hold, stage, rfl, step⟩
  · obtain ⟨hkey, hcovers⟩ := covers run hold hnumber
    refine ⟨hkey, fun hfixed entry' hentry' hjob hkey' => ?_⟩
    obtain ⟨entry, hentry, hsame, hsame'⟩ := same entry' hentry' hjob
    rw [hsame]
    exact hcovers hfixed entry hentry (hsame ▸ hjob) (hsame' ▸ hkey')
  · -- A run that has just been started is another one.
    exact absurd (hnumber ▸ lt) (Nat.lt_irrefl _)
  · obtain ⟨rfl, hcovers⟩ := covers old hold hnumber
    exact ⟨rfl, step.covers same hcovers⟩

end Effect

/-! ## Courses -/

section

variable {settings : Settings} {work reports : QueueConfig} {early late : List Move} {move : Move}

theorem accounts_after {moves : List Move} (inner : ∀ move ∈ moves, move.isInner = true)
    (distinct : DistinctNames ((Engine.new settings work reports).notes moves)) :
    ∀ run ∈ ((Engine.new settings work reports).after moves).runs,
      run.stage.Accounts ((Engine.new settings work reports).after moves).table := by
  induction moves using List.reverseRecOn with
  | nil => exact fun _ h => absurd h List.not_mem_nil
  | append_singleton moves move ih =>
    have inner' : ∀ move ∈ moves, move.isInner = true := fun move h => inner move (by simp [h])
    rw [Engine.notes_concat] at distinct
    rw [Engine.after_concat]
    exact (act_effect (inner move (by simp))).accounts (ledger_after inner' distinct.early) distinct
      (ih inner' distinct.early)

/-- When a run comes to report its batch, no job of the batch is open. -/
theorem closed_of_collecting {moves : List Move} (inner : ∀ move ∈ moves, move.isInner = true)
    (distinct : DistinctNames ((Engine.new settings work reports).notes moves)) {run : ActiveRun}
    (hrun : run ∈ ((Engine.new settings work reports).after moves).runs) {batch : List JobId}
    (hstage : run.stage = .collecting batch) {entry : Entry}
    (hentry : entry ∈ ((Engine.new settings work reports).after moves).table.entries)
    (hjob : entry.job ∈ batch) : entry.result.status ≠ .jobCreated := by
  intro hopen
  have accounts := accounts_after inner distinct run hrun entry hentry
  rw [hstage] at accounts
  exact absurd (accounts hjob (Status.isPending_iff.2 hopen)) List.not_mem_nil

/-- A run covers what was recorded before it was started, at every later moment. -/
theorem covers_after (inner : ∀ m ∈ early ++ move :: late, m.isInner = true)
    (distinct : DistinctNames ((Engine.new settings work reports).notes (early ++ move :: late)))
    {number : Nat} {cacheKey : String}
    (started : .started number cacheKey ∈
      (((Engine.new settings work reports).after early).act move).2) :
    number < ((Engine.new settings work reports).after (early ++ move :: late)).nextRun ∧
    ∀ run ∈ ((Engine.new settings work reports).after (early ++ move :: late)).runs,
      run.number = number → run.cacheKey = cacheKey ∧
        run.stage.Covers ((recordings ((Engine.new settings work reports).notes early)).map Prod.fst)
          cacheKey ((Engine.new settings work reports).after (early ++ move :: late)).table := by
  induction late using List.reverseRecOn with
  | nil =>
    have inner' : ∀ m ∈ early, m.isInner = true := fun m h => inner m (List.mem_append_left _ h)
    rw [Engine.notes_concat] at distinct
    rw [Engine.after_concat]
    have numbered := (ledger_after inner' distinct.early).numbered
    obtain ⟨rfl, hnext, -, guarded, hruns⟩ :=
      (act_effect (inner move (by simp))).runs_of_started started
    refine ⟨hnext ▸ Nat.lt_succ_self _, fun run hrun hnumber => ?_⟩
    rw [hruns] at hrun
    rcases List.mem_append.1 hrun with h | h
    · exact absurd (hnumber ▸ numbered.lt run h) (Nat.lt_irrefl _)
    · rw [List.mem_singleton.1 h]
      exact ⟨rfl, .of_not_fixed rfl⟩
  | append_singleton late last ih =>
    have happend : early ++ move :: (late ++ [last]) = (early ++ move :: late) ++ [last] := by simp
    rw [happend] at inner distinct ⊢
    have inner' : ∀ m ∈ early ++ move :: late, m.isInner = true := fun m h =>
      inner m (List.mem_append_left _ h)
    rw [Engine.notes_concat] at distinct
    rw [Engine.after_concat]
    obtain ⟨hlt, hcovers⟩ := ih inner' distinct.early
    have effect : Effect ((Engine.new settings work reports).after (early ++ move :: late)) last _ _ _ :=
      act_effect (inner last (by simp))
    refine ⟨Nat.lt_of_lt_of_le hlt effect.nextRun_le, ?_⟩
    refine effect.covers (ledger_after inner' distinct.early) distinct (fun job hjob => ?_) hlt hcovers
    obtain ⟨⟨_, result⟩, hmem, rfl⟩ := List.mem_map.1 hjob
    refine ⟨result, ?_⟩
    rw [Engine.notes_append, recordings_append]
    exact List.mem_append_left _ hmem

end

end NodeImages.Work
