import NodeImages.Proofs.Phase
import NodeImages.Proofs.Resolution
import NodeImages.Proofs.Surroundings

/-!
# The time that jobs are given

A run gives up on the jobs that are open when its deadline has come, and the deadline counts from the moment
at which the run first looked at the table. Jobs that were there at that moment have had all the time that the
engine is set to. A job that joins the batch while the run waits is given what is left of the wait, and may be
failed right after it was made.

* `FirstLook`, `Timed`: a run that waits, or that works with open jobs, has looked at the table before, kept by
  `timed_nextStage`;
* `failed_after_deadline`: a run that fails a job has waited for the whole of the deadline, and so the job was
  open for as long, if it was recorded before the wait began;
* `failed_before_deadline`: a job that is failed within a second.
-/

namespace NodeImages.Work

open Cluster

/-! ## What a run has waited for -/

/-- A run looks at the table for the first time. Its deadline counts from that moment. -/
structure FirstLook (start : Engine) (number : Nat) (early : List Move) (move : Move) : Prop where
  own : move = .look number
  fresh : ∃ run, (start.after early).run? number = some run ∧ run.stage = .fresh

section

variable (start : Engine) (moves : List Move)

/-- A run has first looked at the table, with this deadline. -/
def LookedUntil (number deadline : Nat) : Prop :=
  Occurs moves fun early move => FirstLook start number early move ∧
    deadline = (start.after early).now + start.settings.deadlineMs

/-- The deadline of a run that waits counts from its first look at the table, and that of a run that works with
    open jobs has come. -/
def Timed (number : Nat) : Stage → Prop
  | .sleeping deadline _ => LookedUntil start moves number deadline
  | stage => stage.expected ≠ [] →
      ∃ deadline, LookedUntil start moves number deadline ∧ deadline ≤ (start.after moves).now

end

variable {start : Engine} {moves : List Move} {move : Move} {number deadline : Nat} {stage : Stage}

theorem LookedUntil.concat (h : LookedUntil start moves number deadline) (move : Move) :
    LookedUntil start (moves ++ [move]) number deadline := Occurs.concat h move

namespace Timed

/-- A stage at which no open job is at hand says nothing about the clock. -/
theorem of_idle (h : stage.expected = []) (waits : ∀ deadline wake, stage ≠ .sleeping deadline wake) :
    Timed start moves number stage := by
  cases stage with
  | sleeping deadline wake => exact absurd rfl (waits deadline wake)
  | _ => exact fun hopen => absurd h hopen

/-- A run whose deadline has come may have any open jobs at hand. -/
theorem of_due (looked : LookedUntil start moves number deadline) (due : deadline ≤ (start.after moves).now)
    (waits : ∀ deadline wake, stage ≠ .sleeping deadline wake) : Timed start moves number stage := by
  cases stage with
  | sleeping deadline wake => exact absurd rfl (waits deadline wake)
  | _ => exact fun _ => ⟨deadline, looked, due⟩

/-- At a stage with open jobs at hand, the deadline of the run has come. -/
theorem due (timed : Timed start moves number stage) (h : stage.expected ≠ []) :
    ∃ deadline, LookedUntil start moves number deadline ∧ deadline ≤ (start.after moves).now := by
  cases stage with
  | sleeping => exact absurd rfl h
  | _ => exact timed h

theorem concat (timed : Timed start moves number stage) (move : Move) :
    Timed start (moves ++ [move]) number stage := by
  -- The clock only goes on, so what has come before the move has come after it.
  have later (h : ∃ deadline, LookedUntil start moves number deadline ∧
      deadline ≤ (start.after moves).now) : ∃ deadline,
      LookedUntil start (moves ++ [move]) number deadline ∧
        deadline ≤ (start.after (moves ++ [move])).now := by
    obtain ⟨deadline, looked, due⟩ := h
    refine ⟨deadline, looked.concat move, Nat.le_trans due ?_⟩
    rw [Engine.after_concat]
    exact Engine.now_le_act _ _
  cases stage with
  | sleeping => exact LookedUntil.concat timed move
  | _ => exact fun h => later (timed h)

end Timed

namespace Run

variable {plan : RunPlan} {table : Table} {batch : List JobId} {resolved : List (JobId × Result)}

theorem deleteNext_ne_sleeping (jobs : List String) (deadline wake : Nat) :
    deleteNext batch jobs ≠ .sleeping deadline wake := by
  cases jobs <;> exact Stage.noConfusion

theorem listNext_ne_sleeping (jobs : List OpenJob) (deadline wake : Nat) :
    listNext batch resolved jobs ≠ .sleeping deadline wake := by
  cases jobs <;> exact Stage.noConfusion

theorem fixBatch_ne_sleeping (deadline wake : Nat) : fixBatch plan table ≠ .sleeping deadline wake := by
  rw [fixBatch_eq]
  split
  · exact deleteNext_ne_sleeping _ _ _
  · exact listNext_ne_sleeping _ _ _

/-- A table in which no job of an image cache is pending has no open jobs for a run to look into. -/
theorem expected_fixBatch_of_not_pending (h : table.hasPendingFor plan.cacheKey = false) :
    (fixBatch plan table).expected = [] := by
  rw [Stage.expected, unseen_fixBatch, outcomes_fixBatch, List.append_nil, List.map_map,
    List.map_eq_nil_iff, List.eq_nil_iff_forall_not_mem]
  rintro ⟨name, result⟩ hmem
  obtain ⟨entry, hentry, hopen, -⟩ := Table.mem_openJobs_jobsFor.1 hmem
  obtain ⟨-, hkey, hpending⟩ := Entry.isOpenOf_iff.1 hopen
  rw [Table.hasPendingFor, List.any_eq_false] at h
  exact h entry hentry (by simp [hkey, hpending])

end Run

/-- A look at the table keeps time, given since when the run has waited. -/
theorem Timed.inspect {plan : RunPlan} {now : Nat} {table : Table}
    (looked : LookedUntil start moves number deadline) (hnow : now = (start.after moves).now) :
    Timed start moves number (Run.inspect plan now deadline table) := by
  rw [Run.inspect]
  split
  · rename_i hover
    rw [Bool.or_eq_true, Bool.not_eq_true', decide_eq_true_eq] at hover
    rcases hover with hnone | hdue
    · exact .of_idle (Run.expected_fixBatch_of_not_pending hnone) Run.fixBatch_ne_sleeping
    · exact .of_due looked (hnow ▸ hdue) Run.fixBatch_ne_sleeping
  · exact looked

/-- In a move of its own, a run keeps time. -/
theorem timed_nextStage {run : ActiveRun} (own : move.run? = some run.number)
    (hrun : (start.after moves).run? run.number = some run)
    (hsettings : (start.after moves).settings = start.settings)
    (timed : Timed start moves run.number run.stage) :
    Timed start (moves ++ [move]) run.number ((start.after moves).nextStage run move) := by
  have advance : Advance (start.after moves) run move _ := advance_of_own own
  have timed' := timed.concat move
  -- From one open job to the next, the deadline has come already.
  have goesOn {stage' : Stage} (hopen : run.stage.expected ≠ [])
      (waits : ∀ deadline wake, stage' ≠ .sleeping deadline wake) :
      Timed start (moves ++ [move]) run.number stage' := by
    obtain ⟨deadline, looked, due⟩ := timed'.due hopen
    exact .of_due looked due waits
  generalize (start.after moves).nextStage run move = stage at advance
  cases advance with
  | stay => exact timed'
  | @inspect deadline hdeadline =>
    have hnow : (start.after moves).now = (start.after (moves ++ [.look run.number])).now := by
      rw [Engine.after_concat]
      exact (Engine.now_act fun _ => Move.noConfusion).symm
    refine .inspect ?_ hnow
    -- The wait begins with this look, or it began with an earlier one.
    cases hstage : run.stage with
    | fresh =>
      rw [hstage] at hdeadline
      obtain rfl := Option.some.inj hdeadline
      exact Occurs.last ⟨⟨rfl, run, hrun, hstage⟩, by rw [Engine.plan, hsettings]⟩
    | sleeping =>
      rw [hstage] at hdeadline timed'
      obtain rfl := Option.some.inj hdeadline
      exact timed'
    | _ =>
      rw [hstage] at hdeadline
      exact absurd hdeadline (Option.some_ne_none _).symm
  | expire pod hstage =>
    exact goesOn (by simp [hstage, Stage.expected, Stage.unseen]) (Run.listNext_ne_sleeping _)
  | ask pod hstage =>
    exact goesOn (by simp [hstage, Stage.expected, Stage.unseen]) fun _ _ => Stage.noConfusion
  | hear events hstage =>
    exact goesOn (by simp [hstage, Stage.expected, Stage.outcomes]) (Run.listNext_ne_sleeping _)
  | resolve | delete => exact .of_idle (by simp [Stage.expected]) (Run.deleteNext_ne_sleeping _)
  | _ => exact .of_idle rfl fun _ _ => Stage.noConfusion

/-! ## Courses -/

/-- The entry of a job is open at every moment of a row of moves. -/
def OpenThroughout (start : Engine) (job : JobId) (moves : List Move) : Prop :=
  ∀ early late, moves = early ++ late → (start.after early).table.isPending job = true

section

variable {settings : Settings} {work reports : QueueConfig} {job : JobId}

theorem settings_after (inner : ∀ move ∈ moves, move.isInner = true) :
    (start.after moves).settings = start.settings := by
  induction moves using List.reverseRecOn with
  | nil => rfl
  | append_singleton moves move ih =>
    rw [Engine.after_concat, (act_effect (inner move (by simp))).settings_eq]
    exact ih fun move h => inner move (by simp [h])

/-- Every run of a course keeps time. -/
theorem timed_after (inner : ∀ move ∈ moves, move.isInner = true)
    (distinct : DistinctNames ((Engine.new settings work reports).notes moves)) :
    ∀ run ∈ ((Engine.new settings work reports).after moves).runs,
      Timed (.new settings work reports) moves run.number run.stage := by
  induction moves using List.reverseRecOn with
  | nil => exact fun _ h => absurd h List.not_mem_nil
  | append_singleton moves move ih =>
    have inner' : ∀ move ∈ moves, move.isInner = true := fun move h => inner move (by simp [h])
    rw [Engine.notes_concat] at distinct
    rw [Engine.after_concat]
    have timed := ih inner' distinct.early
    exact (act_effect (inner move (by simp))).forall_runs (ledger_after inner' distinct.early).numbered
      (fun run h => (timed run h).concat move) (fun _ => .of_idle rfl fun _ _ => Stage.noConfusion)
      fun run h hrun own => timed_nextStage own hrun (settings_after inner') (timed run h)

/-- A job that is open now has been open since it was recorded. -/
theorem openThroughout_of_recorded {early late : List Move}
    (inner : ∀ move ∈ early ++ late, move.isInner = true)
    (distinct : DistinctNames ((Engine.new settings work reports).notes (early ++ late)))
    {result : Result} (recorded : .recorded job result ∈ (Engine.new settings work reports).notes early)
    (pending : ((Engine.new settings work reports).after (early ++ late)).table.isPending job = true) :
    OpenThroughout ((Engine.new settings work reports).after early) job late := by
  rintro middle rest rfl
  rw [← Engine.after_append]
  rw [← List.append_assoc] at inner distinct pending
  obtain ⟨entry', hentry', rfl, hopen⟩ := Table.isPending_iff.1 pending
  rcases mem_entries_after inner distinct hentry' with ⟨result', hlate⟩ | ⟨entry, hentry, hjob, hbecomes⟩
  · -- It is not recorded a second time.
    have hrecorded : (entry'.job, result) ∈
        recordings ((Engine.new settings work reports).notes (early ++ middle)) := by
      rw [Engine.notes_append]
      exact mem_recordings.2 (List.mem_append_left _ recorded)
    rw [Engine.notes_append] at distinct
    exact absurd hrecorded (distinct.not_mem hlate)
  · -- It has not been settled in between, as that would have been for good.
    refine Table.isPending_iff.2 ⟨entry, hentry, hjob.symm, ?_⟩
    rw [Entry.isPending, Status.isPending_iff] at hopen ⊢
    rcases hbecomes with heq | ⟨hopen', -⟩
    · rwa [heq] at hopen
    · exact hopen'

end

/-- What a run makes of the table that fails its open jobs does not depend on what it deletes next. -/
theorem table_expire (engine : Engine) (number : Nat) :
    (engine.act (.expire number)).1.table =
      match engine.run? number with
      | none => engine.table
      | some run => (Run.resolve engine.table run.stage).1 := by
  rw [Engine.act, Engine.advanceTable]
  cases engine.run? number with
  | none => rfl
  | some run => exact Engine.table_stand

/-- Only a run with open jobs at hand fails any. -/
theorem expected_of_failed {engine : Engine} {job : JobId} (pending : engine.table.isPending job = true)
    (failed : (engine.act (.expire number)).1.table.isPending job = false) :
    ∃ run, engine.run? number = some run ∧ run.stage.expected ≠ [] := by
  have changed : (engine.act (.expire number)).1.table ≠ engine.table := fun heq => by
    rw [heq, pending] at failed
    exact Bool.noConfusion failed
  rw [table_expire] at changed
  split at changed
  · exact absurd rfl changed
  · rename_i run hrun
    refine ⟨run, hrun, fun hnone => changed ?_⟩
    cases hstage : run.stage with
    | resolving batch resolved =>
      rw [hstage, Stage.expected, List.map_eq_nil_iff] at hnone
      have hresolved : resolved = [] := hnone
      rw [hresolved]
      rfl
    | _ => rfl

/-- A run that fails an open job has waited for the whole of the deadline: it has first looked at the table that
    long ago. If the job was recorded before that look, it has been open ever since, and so for as long. -/
theorem failed_after_deadline (settings : Settings) (work reports : QueueConfig) (moves : List Move)
    (inner : ∀ move ∈ moves, move.isInner = true)
    (distinct : DistinctNames ((Engine.new settings work reports).notes moves)) (number : Nat)
    (job : JobId) (result : Result)
    (pending : ((Engine.new settings work reports).after moves).table.isPending job = true)
    (failed : (((Engine.new settings work reports).after moves).act (.expire number)).1.table.get? job =
      some result) (status : result.status = .failed) :
    ∃ early late, moves = early ++ .look number :: late ∧
      FirstLook (.new settings work reports) number early (.look number) ∧
      ((Engine.new settings work reports).after early).now + settings.deadlineMs ≤
        ((Engine.new settings work reports).after moves).now ∧
      ∀ before record between found, early = before ++ record :: between →
        .recorded job found ∈ (((Engine.new settings work reports).after before).act record).2 →
        ((Engine.new settings work reports).after before).now + settings.deadlineMs ≤
            ((Engine.new settings work reports).after moves).now ∧
          OpenThroughout ((Engine.new settings work reports).after (before ++ [record])) job
            (between ++ .look number :: late) := by
  have closed : (((Engine.new settings work reports).after moves).act
      (.expire number)).1.table.isPending job = false := by
    rw [Table.isPending_of_get? failed, status]
    rfl
  obtain ⟨run, hrun, hexpected⟩ := expected_of_failed pending closed
  obtain ⟨hmem, rfl⟩ := Engine.mem_of_run? hrun
  obtain ⟨deadline, ⟨early, _, late, rfl, ⟨rfl, fresh⟩, rfl⟩, due⟩ :=
    (timed_after inner distinct run hmem).due hexpected
  refine ⟨early, late, rfl, ⟨rfl, fresh⟩, due, ?_⟩
  rintro before record between found rfl hrecorded
  constructor
  · refine Nat.le_trans (Nat.add_le_add_right ?_ _) due
    rw [Engine.after_append]
    exact Engine.now_le_after _ _
  · have hsplit : before ++ record :: between ++ .look run.number :: late =
        before ++ [record] ++ (between ++ .look run.number :: late) := by simp
    rw [hsplit] at inner distinct pending
    have hnote : .recorded job found ∈ (Engine.new settings work reports).notes (before ++ [record]) := by
      rw [Engine.notes_concat]
      exact List.mem_append_right _ hrecorded
    exact openThroughout_of_recorded inner distinct hnote pending

/-! ## A course in which a job comes late -/

/-- A course in which a run waits for the job `j`, and the job `k` is made for the same image cache half a second
    before the deadline of the run. The pods of both jobs are running when the run looks into them. -/
def latecomer : List Move :=
  let pull : Request :=
    { image := "x:1", node := .named "a", runtimeVersion := "", kind := .create, cache := .named "w" }
  let pod : Pod := { metadata := {}, phase := some "Running" }
  [.dispatch pull, .presence (.ok false), .job (.ok "j"), .start pull.cacheKey, .look 0, .tick 299500,
    .look 0, .dispatch { pull with image := "y:1" }, .presence (.ok false), .job (.ok "k"), .tick 1000,
    .look 0, .pods 0 (.ok [pod]), .events 0 (.ok []), .pods 0 (.ok [pod]), .events 0 (.ok [])]

/-- The job that was there before the run has been open for five minutes. -/
theorem failed_after_deadline_latecomer :
    ∃ early late, latecomer = early ++ .look 0 :: late ∧
      FirstLook (.new {} {} {}) 0 early (.look 0) ∧
      ((Engine.new {} {} {}).after early).now + 300000 ≤ ((Engine.new {} {} {}).after latecomer).now ∧
      ∀ before record between found, early = before ++ record :: between →
        .recorded (.real "j") found ∈ (((Engine.new {} {} {}).after before).act record).2 →
        ((Engine.new {} {} {}).after before).now + 300000 ≤
            ((Engine.new {} {} {}).after latecomer).now ∧
          OpenThroughout ((Engine.new {} {} {}).after (before ++ [record])) (.real "j")
            (between ++ .look 0 :: late) := by
  have failed : ((((Engine.new {} {} {}).after latecomer).act (.expire 0)).1.table.get? (.real "j")).map
      (·.status) = some .failed := by
    rw [table_expire]
    decide +kernel
  obtain ⟨result, hresult, hstatus⟩ := Option.map_eq_some_iff.1 failed
  exact failed_after_deadline {} {} {} latecomer (by decide) (by decide +kernel) 0 (.real "j") result
    (by decide +kernel) hresult hstatus

/-- The job that joined the batch has been open for a second when it is failed, because it did not complete within
    five minutes. -/
theorem failed_before_deadline :
    let start : Engine := .new {} {} {}
    let made := start.after (latecomer.take 9)
    start.settings.deadlineMs = 300000 ∧ DistinctNames (start.notes latecomer) ∧
      latecomer = latecomer.take 9 ++ .job (.ok "k") :: latecomer.drop 10 ∧
      (recordings (made.act (.job (.ok "k"))).2).map Prod.fst = [.real "k"] ∧
      (start.after latecomer).now = made.now + 1000 ∧
      (start.after latecomer).table.isPending (.real "k") = true ∧
      (((start.after latecomer).act (.expire 0)).1.table.get? (.real "k")).map
          (fun result => (result.status, result.message)) =
        some (.failed, "Job k did not complete within 300s (pod phase: Running)") := by
  refine ⟨rfl, by decide +kernel, rfl, by decide +kernel, by decide +kernel, by decide +kernel, ?_⟩
  rw [table_expire]
  decide +kernel

end NodeImages.Work
