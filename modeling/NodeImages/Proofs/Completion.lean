import NodeImages.Proofs.Abort
import NodeImages.Proofs.Evidence
import NodeImages.Proofs.Resolution
import NodeImages.Proofs.Surroundings

/-!
# Completions that count

The watch tells once that a pod has succeeded. Whether that makes the job of the pod a success depends on what the
engine knows of the job by then: the entry of the job has to be in the table, as the news are not kept for one that
comes later, and no run may have failed the job, as the first resolution stands.

* `TellsSuccess`: the first news that the only pod of a job has come to an end;
* `isNews_of_tellsSuccess`: the watch passes it on;
* `pending_of_unfailed`: the job is open by then, if it was recorded and no run has failed it;
* `closed_stays`: a result that is settled is the one that is reported;
* `success_is_reported`: so the success is reported, whatever happens before and after;
* `success_reported_failed`: two orders of moves in which it is not.
-/

namespace NodeImages.Work

open Cluster

/-- An event tells that the only pod of a job has succeeded, of which nothing has been told yet that is final or of
    this version. -/
structure TellsSuccess (early : List Move) (event : WatchEvent) (name : String) (pod : Pod) : Prop where
  told : (Move.observe event).pod? = some pod
  job : pod.jobName? = some name
  phase : pod.phase = some Pod.succeededPhase
  only : ∀ move ∈ early, ∀ other, move.pod? = some other → other.jobName? = some name →
    other.name = pod.name
  first : ∀ move ∈ early, ∀ other, move.pod? = some other → other.name = pod.name →
    PodState.isFinal other.phase = false ∧ other.metadata.version ≠ pod.metadata.version

section

variable {settings : Settings} {work reports : QueueConfig} {early late moves : List Move}
  {event : WatchEvent} {name : String} {pod : Pod} {job : JobId} {result : Result}

/-! ## The news -/

/-- The memory has nothing on the pod that would keep the watch from passing the news on. -/
theorem isNews_of_tellsSuccess (tells : TellsSuccess early event name pod) :
    ((Engine.new settings work reports).after early).memory.isNews pod = true := by
  rw [Memory.isNews, tells.phase, Bool.and_eq_true]
  refine ⟨rfl, ?_⟩
  split
  · rfl
  · rename_i state hstate
    obtain ⟨move, hmove, other, htold, hname, rfl⟩ := told_of_remembered hstate
    obtain ⟨hphase, hversion⟩ := tells.first move hmove other htold hname
    simp [PodState.ofPod, hphase, hversion]

/-- News of a success settle the entry of the job, and nothing else. -/
theorem table_observe (tells : TellsSuccess early event name pod) (real : JobId.ofName name = .real name) :
    ((Engine.new settings work reports).after (early ++ [.observe event])).table =
      ((Engine.new settings work reports).after early).table.resolve (.real name) Result.succeed := by
  have news : ((Engine.new settings work reports).after early).memory.isNews pod = true :=
    isNews_of_tellsSuccess tells
  have settles (table : Table) : table.settlePod pod = table.resolve (.real name) Result.succeed := by
    rw [Table.settlePod, tells.job]
    dsimp only
    rw [if_pos tells.phase, real]
  have told := tells.told
  rw [Engine.after_concat]
  cases event with
  | changed other =>
    obtain rfl := Option.some.inj told
    exact (if_pos news).trans (settles _)
  | listed other =>
    obtain rfl := Option.some.inj told
    exact (if_pos news).trans (settles _)
  | _ => exact absurd told.symm (Option.some_ne_none _)

/-! ## Until the news -/

/-- Nothing has settled the job before. -/
theorem no_evidence (tells : TellsSuccess early event name pod)
    (unfailed : ∀ result, ¬ Expired (.new settings work reports) early (.real name) result) :
    ¬ Evidence (.new settings work reports) early (.real name) result := by
  -- The watch would have told of the pod of the job in a final phase.
  have untold {phase : String} (final : PodState.isFinal (some phase) = true) :
      ¬ Told (.new settings work reports) early name phase := by
    rintro ⟨before, move, after, rfl, other, hmove, hjob, hphase, -⟩
    have htold : move.pod? = some other := by
      rcases hmove with rfl | rfl <;> rfl
    have hmem : move ∈ before ++ move :: after := by simp
    have hname := tells.only move hmem other htold hjob
    obtain ⟨hfinal, -⟩ := tells.first move hmem other htold hname
    rw [hphase, final] at hfinal
    exact Bool.noConfusion hfinal
  intro evidence
  cases evidence with
  | succeeded _ told => exact untold rfl told
  | failed _ told => exact untold rfl told
  | expired _ expired => exact unfailed _ expired

/-- A job that was recorded is in the table, and open. -/
theorem pending_of_unfailed (inner : ∀ move ∈ early, move.isInner = true)
    (watched : ∀ move ∈ early, move.isWatched = true)
    (distinct : DistinctNames ((Engine.new settings work reports).notes early))
    (recorded : .recorded (.real name) result ∈ (Engine.new settings work reports).notes early)
    (tells : TellsSuccess early event name pod)
    (unfailed : ∀ result, ¬ Expired (.new settings work reports) early (.real name) result) :
    ((Engine.new settings work reports).after early).table.isPending (.real name) = true := by
  have ledger := ledger_after inner distinct
  have hjob : JobId.real name ∈ (recordings ((Engine.new settings work reports).notes early)).map Prod.fst :=
    List.mem_map.2 ⟨_, mem_recordings.2 recorded, rfl⟩
  rcases List.mem_append.1 (ledger.partition.symm.mem_iff.1 hjob) with htable | hreported
  · obtain ⟨entry, hentry, heq⟩ := Table.mem_jobs.1 htable
    refine Table.isPending_iff.2 ⟨entry, hentry, heq, Status.isPending_iff.2 ?_⟩
    refine ((evident_after inner watched distinct).entries entry hentry).resolve_right ?_
    rw [heq]
    exact no_evidence tells unfailed
  · -- It cannot have been reported already.
    obtain ⟨update, hupdate, hmem⟩ := List.mem_flatMap.1 hreported
    obtain ⟨⟨_, found⟩, hrow, rfl⟩ := List.mem_map.1 hmem
    exact absurd (evidence_of_reported inner watched distinct hupdate hrow).2
      (no_evidence tells unfailed)

/-! ## From the news on -/

/-- What has been reported was put up for reporting by a move. -/
theorem occurs_emitted {start : Engine} {update : Update} (h : update ∈ updates (start.notes moves)) :
    Occurs moves fun early move =>
      ∃ number, .emitted number update ∈ ((start.after early).act move).2 := by
  induction moves using List.reverseRecOn with
  | nil => exact absurd h List.not_mem_nil
  | append_singleton moves move ih =>
    rw [Engine.notes_concat, updates_append] at h
    rcases List.mem_append.1 h with h | h
    · exact (ih h).concat move
    · exact .last (mem_updates.1 h)

/-- A settled result of an entry stays until it is reported, and is the only one of the job that is. -/
theorem closed_stays (inner : ∀ move ∈ early ++ late, move.isInner = true)
    (distinct : DistinctNames ((Engine.new settings work reports).notes (early ++ late)))
    (found : ((Engine.new settings work reports).after early).table.get? job = some result)
    (closed : result.status ≠ .jobCreated) :
    (((Engine.new settings work reports).after (early ++ late)).table.get? job = some result ∨
      ∃ update ∈ updates ((Engine.new settings work reports).notes (early ++ late)), job ∈ update.jobs) ∧
    ∀ update ∈ updates ((Engine.new settings work reports).notes (early ++ late)), ∀ result',
      (job, result') ∈ update.results → result' = result := by
  obtain ⟨entry, hentry, rfl, rfl⟩ := Table.get?_eq_some_iff.1 found
  constructor
  · -- The job keeps its entry until it is reported.
    rcases mem_jobs_or_updates (Table.mem_jobs.2 ⟨entry, hentry, rfl⟩) late with h | ⟨update, hupdate, hmem⟩
    · rw [← Engine.after_append] at h
      obtain ⟨entry', hentry', hjob⟩ := Table.mem_jobs.1 h
      have becomes := becomes_after inner distinct hentry hentry' hjob
      exact .inl (Table.get?_eq_some_iff.2 ⟨entry', hentry', hjob, becomes.eq_of_closed closed⟩)
    · refine .inr ⟨update, ?_, hmem⟩
      rw [Engine.notes_append, updates_append]
      exact List.mem_append_right _ hupdate
  · intro update hupdate result' hrow
    rw [Engine.notes_append, updates_append] at hupdate
    rcases List.mem_append.1 hupdate with hold | hnew
    · -- While it has an entry, it has not been reported.
      have inner' : ∀ move ∈ early, move.isInner = true := fun move h =>
        inner move (List.mem_append_left _ h)
      rw [Engine.notes_append] at distinct
      have nodup := (ledger_after inner' distinct.early).partition.nodup_iff.2 distinct.early.nodup
      refine absurd rfl ((List.nodup_append.1 nodup).2.2 entry.job ?_ entry.job ?_)
      · exact Table.mem_jobs.2 ⟨entry, hentry, rfl⟩
      · exact List.mem_flatMap.2 ⟨update, hold, List.mem_map.2 ⟨_, hrow, rfl⟩⟩
    · obtain ⟨middle, move, rest, rfl, number, emitted⟩ := occurs_emitted hnew
      have hsplit : early ++ (middle ++ move :: rest) = early ++ middle ++ move :: rest := by simp
      rw [hsplit] at inner distinct
      have inner' : ∀ move ∈ early ++ middle, move.isInner = true := fun move h =>
        inner move (List.mem_append_left _ h)
      rw [Engine.notes_append] at distinct
      rw [← Engine.after_append] at emitted
      obtain ⟨run, batch, -, -, -, rfl⟩ :=
        (act_effect (inner move (by simp))).collecting_of_emitted emitted
      obtain ⟨-, entry', hentry', hjob, rfl⟩ := Table.mem_results.1 hrow
      exact (becomes_after inner' distinct.early hentry hentry' hjob).eq_of_closed closed

/-- When the watch first tells that the only pod of a job has succeeded, the job is a success for good, provided
    that it has been recorded and that no run has failed it yet: in whatever order anything else happens before or
    after, the entry of the job stays in the table as a success until it is reported, and it is reported as nothing
    else. If its entry has been settled before, the news come too late: it stays as it is until it is reported, by
    whatever run, and is reported as that. -/
theorem success_is_reported (settings : Settings) (work reports : QueueConfig) (early late : List Move)
    (event : WatchEvent) (inner : ∀ move ∈ early ++ .observe event :: late, move.isInner = true)
    (watched : ∀ move ∈ early, move.isWatched = true)
    (distinct : DistinctNames
      ((Engine.new settings work reports).notes (early ++ .observe event :: late)))
    (name : String) (real : JobId.ofName name = .real name) (result : Result)
    (recorded : .recorded (.real name) result ∈ (Engine.new settings work reports).notes early)
    (pod : Pod) (tells : TellsSuccess early event name pod) :
    let start := Engine.new settings work reports
    let engine := start.after (early ++ .observe event :: late)
    let notes := start.notes (early ++ .observe event :: late)
    ((∀ result, ¬ Expired start early (.real name) result) →
      ((∃ result, engine.table.get? (.real name) = some result ∧ result.status = .succeeded) ∨
        ∃ update ∈ updates notes, .real name ∈ update.jobs) ∧
      ∀ update ∈ updates notes, ∀ result, (.real name, result) ∈ update.results → result.status = .succeeded) ∧
    ∀ settled, (start.after early).table.get? (.real name) = some settled → settled.status ≠ .jobCreated →
      (engine.table.get? (.real name) = some settled ∨ ∃ update ∈ updates notes, .real name ∈ update.jobs) ∧
      ∀ update ∈ updates notes, ∀ result, (.real name, result) ∈ update.results → result = settled := by
  intro start engine notes
  refine ⟨fun unfailed => ?_, fun settled found closed => closed_stays inner distinct found closed⟩
  have inner' : ∀ move ∈ early, move.isInner = true := fun move h =>
    inner move (List.mem_append_left _ h)
  have distinct' : DistinctNames (start.notes early) := by
    rw [Engine.notes_append] at distinct
    exact distinct.early
  -- The entry of the job is open when the news come, and so it becomes a success.
  obtain ⟨entry, hentry, hjob, hopen⟩ := Table.isPending_iff.1
    (pending_of_unfailed inner' watched distinct' recorded tells unfailed)
  have found : (start.after (early ++ [.observe event])).table.get? (.real name) = some entry.result.succeed := by
    rw [table_observe tells real]
    refine Table.get?_eq_some_iff.2 ⟨_, Table.mem_modify.2 ⟨entry, hentry, if_pos hjob⟩, hjob, ?_⟩
    exact if_pos hopen
  have hsplit : early ++ .observe event :: late = early ++ [.observe event] ++ late := by simp
  rw [hsplit] at inner distinct
  obtain ⟨stays, reported⟩ := closed_stays inner distinct found Status.noConfusion
  rw [← hsplit] at stays reported
  exact ⟨stays.imp_left fun h => ⟨_, h, rfl⟩,
    fun update hupdate result hrow => reported update hupdate result hrow ▸ rfl⟩

end

/-! ## Completions in time, and completions that are lost -/

/-- A pod of the job `j` in a phase. -/
def podIn (phase : String) : Pod :=
  { metadata := { labels := some (.ofList [(Pod.jobLabel, "j")]) }, phase := some phase }

/-- The news that the pod of the job `j` has succeeded. -/
def news : WatchEvent := .changed (podIn Pod.succeededPhase)

/-- They are the first, when nothing has been told of pods before. -/
theorem tellsSuccess_news (early : List Move) (h : early.filterMap Move.pod? = []) :
    TellsSuccess early news "j" (podIn Pod.succeededPhase) := by
  have untold {move : Move} (hmove : move ∈ early) {other : Pod} (told : move.pod? = some other) : False := by
    have hmem : other ∈ early.filterMap Move.pod? := List.mem_filterMap.2 ⟨move, hmove, told⟩
    rw [h] at hmem
    exact List.not_mem_nil hmem
  exact ⟨rfl, rfl, rfl, fun _ hmove _ told => (untold hmove told).elim,
    fun _ hmove _ told => (untold hmove told).elim⟩

/-- A course with two runs in which the pod of a job succeeds while the first run is listing its pods. -/
theorem success_is_reported_resumption :
    let course := resumption.take 6 ++ .observe news :: resumption.drop 7
    (updates (Engine.hasty.notes course)).map (·.jobs) = [[.real "j", .fresh 0]] ∧
      ∀ update ∈ updates (Engine.hasty.notes course), ∀ result,
        (.real "j", result) ∈ update.results → result.status = .succeeded := by
  intro course
  refine ⟨by decide +kernel, ?_⟩
  have recorded : (recordings (Engine.hasty.notes (resumption.take 6))).map Prod.fst = [.real "j"] := by
    decide +kernel
  obtain ⟨⟨_, result⟩, hmem, rfl⟩ := List.mem_map.1 (recorded ▸ List.mem_singleton_self (JobId.real "j"))
  -- Until the news, no run has come so far as to fail a job.
  have unfailed : ∀ result, ¬ Expired Engine.hasty (resumption.take 6) (.real "j") result := by
    rintro result ⟨early, move, late, hsplit, number, rfl, -⟩
    have hmem : Move.expire number ∈ resumption.take 6 := hsplit ▸ by simp
    simp [resumption] at hmem
  exact ((success_is_reported { deadlineMs := 0 } {} {} (resumption.take 6) (resumption.drop 7) news
    (by decide) (by decide) (by decide +kernel) "j" rfl result (mem_recordings.1 hmem) _
    (tellsSuccess_news _ rfl)).1 unfailed).2

/-- The statuses of results that have been reported, with the numbers of the runs that did. -/
def reportedStatuses (notes : List Note) : List (Nat × JobId × Status) :=
  notes.flatMap fun
    | .emitted number update => update.results.map fun (job, result) => (number, job, result.status)
    | _ => []

/-- A job that was created succeeds, as the watch tells before the run is started that reports it; but the run
    reports it as failed. -/
structure LosesSuccess (start : Engine) (early late : List Move) (event : WatchEvent) (name : String)
    (pod : Pod) (number : Nat) : Prop where
  inner : ∀ move ∈ early ++ .observe event :: late, move.isInner = true
  watched : ∀ move ∈ early ++ .observe event :: late, move.isWatched = true
  distinct : DistinctNames (start.notes (early ++ .observe event :: late))
  recorded : .real name ∈ (recordings (start.notes (early ++ .observe event :: late))).map Prod.fst
  tells : TellsSuccess early event name pod
  ahead : (start.after early).nextRun ≤ number
  reported : (number, .real name, .failed) ∈
    reportedStatuses (start.notes (early ++ .observe event :: late))

/-- The watch tells of the success before the dispatcher has recorded the job; or after a run has failed the job
    that took too long, but before the next run reports it, as the first one could not delete the job. -/
theorem success_reported_failed :
    let removal : Request :=
      { image := "x:1", node := .named "a", runtimeVersion := "", kind := .purge, cache := .named "w" }
    LosesSuccess (.new {} {} {}) [.dispatch removal]
      [.job (.ok "j"), .start removal.cacheKey, .look 0, .tick 300000, .look 0,
        .pods 0 (.ok [podIn Pod.succeededPhase]), .expire 0, .deleted 0 (.ok ()), .collect 0]
      news "j" (podIn Pod.succeededPhase) 0 ∧
    LosesSuccess (.new {} {} {})
      [.dispatch removal, .job (.ok "j"), .start removal.cacheKey, .look 0, .tick 300000, .look 0,
        .pods 0 (.ok [podIn "Running"]), .expire 0, .deleted 0 (.error .missing)]
      [.start removal.cacheKey, .look 1, .deleted 1 (.ok ()), .collect 1]
      news "j" (podIn Pod.succeededPhase) 1 := by
  intro removal
  constructor
  · exact ⟨by decide, by decide, by decide +kernel, by decide +kernel, tellsSuccess_news _ rfl,
      by decide +kernel, by decide +kernel⟩
  · exact ⟨by decide, by decide, by decide +kernel, by decide +kernel, tellsSuccess_news _ rfl,
      by decide +kernel, by decide +kernel⟩

end NodeImages.Work
