import NodeImages.Proofs.ExactlyOnce
import NodeImages.Proofs.Phase

/-!
# Runs that fail

A run may fail at any point: while it waits, while it looks into one open job after the other, while it deletes
jobs, or when it finds that there is nothing to report. It never takes its batch halfway with it: a run that
fails before it has looked into all open jobs has not touched the table, and a run that fails later has failed
all open jobs, and marked just those jobs that were deleted.

* `phase_after`: a run that was started is at one of the phases, or it has ended;
* `mem_jobs_or_updates`: a job leaves the table with an update only;
* `aborted_run_leaves_batch`: what a run that fails has written.
-/

namespace NodeImages.Work

open Cluster

variable {cacheKey : String} {deletions : List Deletion} {job : JobId}

/-! ## Runs that fail -/

theorem Engine.reports_act_of_own {engine : Engine} {move : Move} {number : Nat}
    (own : move.run? = some number) (silent : updates (engine.act move).2 = []) :
    (engine.act move).1.reports = engine.reports := by
  cases move with
  | look | pods | events => exact (Engine.reports_advance _ _).1
  | expire | deleted => exact (Engine.reports_advanceTable _ _).1
  | cancel number =>
    rw [Engine.act]
    split
    · exact (Engine.reports_advance _ _).1
    · rfl
  | collect number =>
    rw [Engine.act] at silent ⊢
    split
    · rfl
    · rename_i run hrun
      rw [hrun] at silent
      split
      · exact Engine.reports_stand _ _
      · rename_i hcollect
        dsimp only at silent
        rw [hcollect] at silent
        exact absurd silent (List.cons_ne_nil _ _)
  | _ => exact absurd own (Option.some_ne_none _).symm

section

variable {start : Engine} {number : Nat} {guarded : Bool} {moves : List Move} {move : Move}
  {stage : Stage}

/-- Unless it reports its batch, a run keeps it. -/
theorem Phase.keepsBatch (phase : Phase start number cacheKey moves stage)
    (hrun : (start.after moves).run? number = some ⟨number, cacheKey, guarded, stage⟩)
    (silent : updates ((start.after moves).act move).2 = []) :
    (start.after moves).KeepsBatch number move := by
  intro own
  refine ⟨Engine.reports_act_of_own own silent, ?_⟩
  rw [Engine.outcomesOf_of_own own, Engine.stageOf_of_run? hrun]
  have turn : Turn (start.after moves) ⟨number, cacheKey, guarded, stage⟩ move _ _ _ :=
    turn_of_own own hrun
  cases turn with
  | rest table hrun' _ _ deletions =>
    rw [Engine.stageOf_of_run? hrun', Stage.outcomesTo_self, table, deletions]
    exact .refl fun _ ⟨_, _, h⟩ => List.not_mem_nil h
  | step _ step hrun' =>
    rw [Engine.stageOf_of_run? hrun']
    exact step.written phase.closed
  | stop outcome _ step hrun' =>
    have written := step.written phase.closed
    rw [Stage.outcomesTo_of_unresolved rfl] at written
    rw [Engine.stageOf, hrun', Stage.outcomesTo_of_unresolved rfl]
    exact written
  | collect _ _ _ _ _ _ notes =>
    rw [notes] at silent
    exact absurd silent (List.cons_ne_nil _ _)

/-- A run that was started is at one of the phases, or it has ended. -/
theorem phase_after (fresh : start.run? number = some ⟨number, cacheKey, guarded, .fresh⟩)
    (lt : number < start.nextRun) (moves : List Move) :
    number < (start.after moves).nextRun ∧ ((start.after moves).run? number = none ∨
      ∃ stage, (start.after moves).run? number = some ⟨number, cacheKey, guarded, stage⟩ ∧
        Phase start number cacheKey moves stage ∧
        start.Along (Engine.KeepsBatch number) moves) := by
  induction moves using List.reverseRecOn with
  | nil =>
    exact ⟨lt, .inr ⟨.fresh, fresh, .waiting rfl (fun _ => Stage.noConfusion) trivial, trivial⟩⟩
  | append_singleton moves move ih =>
    obtain ⟨hlt, hphase⟩ := ih
    rw [Engine.after_concat]
    refine ⟨Nat.lt_of_lt_of_le hlt Engine.nextRun_le_act, ?_⟩
    rcases hphase with hnone | ⟨stage, hrun, phase, along⟩
    · exact .inl (Engine.run?_act_of_none hlt hnone)
    · by_cases own : move.run? = some number
      · have turn : Turn (start.after moves) ⟨number, cacheKey, guarded, stage⟩ move _ _ _ :=
          turn_of_own own hrun
        have keeps (silent : updates ((start.after moves).act move).2 = []) :
            (start.after moves).KeepsBatch number move := phase.keepsBatch hrun silent
        cases turn with
        | rest table hrun' silent _ deletions =>
          refine .inr ⟨stage, hrun', phase.stay fun _ => ⟨?_, table, deletions⟩,
            Engine.along_concat.2 ⟨along, keeps silent⟩⟩
          rw [Engine.outcomesOf_of_own own, Engine.stageOf_of_run? hrun,
            Engine.stageOf_of_run? hrun', Stage.outcomesTo_self]
        | step going step hrun' notes =>
          rw [← Engine.after_concat] at step
          have phase' : Phase start number ((start.after moves).plan cacheKey).cacheKey moves stage := phase
          refine .inr ⟨_, hrun', phase'.step own (Engine.stageOf_of_run? hrun) ?_ step going,
            Engine.along_concat.2 ⟨along, keeps (notes ▸ rfl)⟩⟩
          rw [Engine.after_concat, Engine.stageOf_of_run? hrun']
        | stop _ _ _ hrun' | collect _ _ _ _ _ hrun' => exact .inl hrun'
      · exact .inr ⟨stage, Engine.run?_act_of_other own hrun, phase.stay fun h => absurd h own,
          Engine.along_concat.2 ⟨along, fun h => absurd h own⟩⟩

/-! ## Jobs that have left the table -/

/-- A job leaves the table with an update only. -/
theorem Effect.mem_jobs_or_updates {engine engine' : Engine} {notes : List Note}
    (effect : Effect engine move engine' notes deletions) (h : job ∈ engine.table.jobs) :
    job ∈ engine'.table.jobs ∨ ∃ update ∈ updates notes, job ∈ update.jobs := by
  cases effect with
  | rest table | start _ _ _ table => exact .inl (table ▸ h)
  | record other result _ table => exact .inl (table ▸ Table.mem_jobs_put h)
  | settle pod _ table => exact .inl (by rwa [table, Table.jobs_settlePod])
  | step _ _ _ step => exact .inl (by rwa [step.jobs])
  | collect run batch _ _ _ table _ notes =>
    by_cases hbatch : job ∈ batch
    · refine .inr ⟨_, mem_updates.2 ⟨run.number, notes ▸ List.mem_cons_self ..⟩, ?_⟩
      rw [Update.jobs, Table.fst_results]
      exact List.mem_filter.2 ⟨hbatch, decide_eq_true h⟩
    · exact .inl (table ▸ Table.mem_jobs_without.2 ⟨h, hbatch⟩)

theorem mem_jobs_or_updates (h : job ∈ start.table.jobs) (moves : List Move) :
    job ∈ (start.after moves).table.jobs ∨
      ∃ update ∈ updates (start.notes moves), job ∈ update.jobs := by
  induction moves using List.reverseRecOn with
  | nil => exact .inl h
  | append_singleton moves move ih =>
    rw [Engine.after_concat, Engine.notes_concat, updates_append]
    rcases ih with hmem | ⟨update, hupdate, hmem⟩
    · have key : job ∈ ((start.after moves).act move).1.table.jobs ∨
          ∃ update ∈ updates ((start.after moves).act move).2, job ∈ update.jobs := by
        cases move with
        | insert => exact .inl (Table.mem_jobs_put hmem)
        | resolve => exact .inl (by rwa [Engine.act, Table.jobs_resolve])
        | _ => exact (act_effect rfl).mem_jobs_or_updates hmem
      rcases key with hmem | ⟨update, hupdate, hmem⟩
      · exact .inl hmem
      · exact .inr ⟨update, List.mem_append_right _ hupdate, hmem⟩
    · exact .inr ⟨update, List.mem_append_left _ hupdate, hmem⟩

end

/-- What a run has written when it fails, whatever else happens meanwhile. In none of its moves does it take an
    entry from the table, report anything, or write anything to the table but outcomes and marks.

    * If it was thwarted before, it has not touched the table, and no job has been deleted.
    * If it found nothing to report, this is so too if its batch was empty; otherwise the entries of the batch
      have been reported by others.
    * If a job could not be deleted, it has failed just those jobs of its image cache that were open when its wait
      was over; if others left the table alone since, this and the marks of deleted jobs is all that has changed. -/
theorem aborted_run_leaves_batch (engine : Engine) (number : Nat) (cacheKey : String) (guarded : Bool)
    (moves : List Move) (last : Move) (failure : Failure)
    (fresh : engine.run? number = some ⟨number, cacheKey, guarded, .fresh⟩)
    (lt : number < engine.nextRun)
    (failed : .ended number (.error failure) ∈ ((engine.after moves).act last).2) :
    engine.Along (Engine.KeepsBatch number) (moves ++ [last]) ∧
    (last.Thwarts number ∧ engine.Spares number (moves ++ [last]) ∨
      ∃ early move late, moves = early ++ move :: late ∧ (engine.after early).EndsWait number move ∧
        let base := engine.after early
        let batch := base.table.jobsFor cacheKey
        let outcomes := engine.ofRun Engine.outcomesOf number (moves ++ [last])
        let deletions := engine.ofRun Engine.deletionsOf number (moves ++ [last])
        (last = .collect number ∧ (batch = [] → engine.Spares number (moves ++ [last])) ∧
            ∀ job ∈ batch, ∃ update ∈ updates (base.notes (move :: late)), job ∈ update.jobs) ∨
          ((∃ cause, last = .deleted number (.error cause)) ∧ base.table.Examined cacheKey outcomes [] ∧
            (base.Undisturbed number (move :: late) →
              base.table.LeftOver cacheKey outcomes deletions (engine.after (moves ++ [last])).table))) := by
  obtain ⟨own, run, hrun⟩ := Engine.actor_of_ended failed
  obtain ⟨-, hphase⟩ := phase_after fresh lt moves
  rw [hrun] at hphase
  obtain ⟨stage, hstage, phase, along⟩ := hphase.resolve_left (Option.some_ne_none _)
  obtain rfl := Option.some.inj hstage
  have turn : Turn (engine.after moves) ⟨number, cacheKey, guarded, stage⟩ last _ _ _ :=
    turn_of_own own hrun
  cases turn with
  | rest _ _ _ silent => exact absurd failed (silent _)
  | step _ _ _ notes =>
    rw [notes] at failed
    exact absurd failed List.not_mem_nil
  | collect _ _ _ _ _ _ notes =>
    rw [notes] at failed
    simp at failed
  | stop outcome next step hrun' notes =>
    rw [notes, List.mem_singleton] at failed
    cases failed
    refine ⟨Engine.along_concat.2 ⟨along, phase.keepsBatch hrun (notes ▸ rfl)⟩, ?_⟩
    have hended : ((engine.after moves).act last).1.stageOf number = .ended (.ok ()) := by
      rw [Engine.stageOf, hrun']
      rfl
    have houtcomes : (engine.after moves).outcomesOf last = [] := by
      rw [Engine.outcomesOf_of_own own, hended, Stage.outcomesTo_of_unresolved rfl]
    rcases cause_of_nextStage own next phase.going with
      ⟨thwarts, unresolved⟩ | ⟨cause, batch, job, rest, rfl, rfl⟩ | ⟨batch, rfl, rfl, hnone⟩
    · obtain ⟨htable, hdeletions⟩ := step.spares unresolved rfl
      exact .inl ⟨thwarts, Engine.along_concat.2
        ⟨phase.spares unresolved, fun _ => ⟨houtcomes, htable, hdeletions⟩⟩⟩
    all_goals
      obtain ⟨early, first, late, split, ends, hbatch, cleaning⟩ := phase.cleaning_of_resolved rfl
      have hafter : engine.after moves = (engine.after early).after (first :: late) := by
        rw [split, Engine.after_append]
      rw [← Engine.after_concat] at step
      have done := cleaning.step rfl hafter own houtcomes step
      refine .inr ⟨early, first, late, split, ends, ?_⟩
    · -- A job could not be deleted.
      refine .inr ⟨⟨cause, rfl⟩, done.examined, fun undisturbed => ?_⟩
      have undisturbed' := Engine.along_concat.2 ⟨undisturbed, fun h => absurd own h⟩
      refine done.examined.leftOver ?_ fun name h => done.due undisturbed' name (.inr h)
      rw [Engine.after_concat, hafter, ← Engine.after_concat]
      exact done.written undisturbed'
    · -- There is nothing to report.
      refine .inl ⟨rfl, fun hempty => (done.empty hempty).2, fun job hjob => ?_⟩
      obtain ⟨entry, hentry, rfl, -⟩ := Table.mem_jobsFor.1 hjob
      refine (mem_jobs_or_updates (Table.mem_jobs.2 ⟨entry, hentry, rfl⟩) _).resolve_left fun hmem => ?_
      rw [← hafter] at hmem
      obtain ⟨entry', hentry', hjob'⟩ := Table.mem_jobs.1 hmem
      have hrow := Table.mem_results.2 ⟨hbatch ▸ hjob, entry', hentry', hjob', rfl⟩
      exact List.not_mem_nil (hnone ▸ hrow)

/-- The first run of a course is on its own. The job that it has failed cannot be deleted. -/
theorem aborted_run_leaves_batch_resumption :
    let start := Engine.hasty.after (resumption.take 5)
    let moves : List Move := [.look 0, .pods 0 (.ok [{}]), .expire 0]
    let final := start.after (moves ++ [.deleted 0 (.error .missing)])
    (final.table.get? (.real "j")).map (·.status) = some .failed ∧
    ∃ early move late, moves = early ++ move :: late ∧ (start.after early).EndsWait 0 move ∧
      ∃ outcomes deletions, (start.after early).table.LeftOver "w" outcomes deletions
        final.table := by
  intro start moves final
  refine ⟨by decide +kernel, ?_⟩
  have fresh : start.run? 0 = some ⟨0, "w", true, .fresh⟩ := rfl
  obtain ⟨failure, failed⟩ : ∃ failure,
      ((start.after moves).act (.deleted 0 (.error .missing))).2 = [.ended 0 (.error failure)] := by
    with_unfolding_all exact ⟨_, rfl⟩
  obtain ⟨-, ⟨thwarts, -⟩ | ⟨early, move, late, split, ends, ⟨hlast, -⟩ | ⟨-, -, hleft⟩⟩⟩ :=
    aborted_run_leaves_batch start 0 "w" true moves (.deleted 0 (.error .missing)) failure
      fresh (by decide) (failed ▸ List.mem_singleton_self _)
  · exact absurd thwarts id
  · cases hlast
  · -- The run is on its own from its start on.
    have own : ∀ move ∈ moves, move.run? = some 0 := by decide
    refine ⟨early, move, late, split, ends, _, _, hleft (.of_own fun m hm => own m ?_)⟩
    rw [split]
    exact List.mem_append_right _ hm

end NodeImages.Work
