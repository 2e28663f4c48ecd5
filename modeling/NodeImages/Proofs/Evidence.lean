import NodeImages.Proofs.Turn
import NodeImages.Proofs.Writes

/-!
# Evidence for what is reported

Nothing is reported that did not happen. A result of an update goes back to a moment of the course before: the
node answered that it has the image, the watch told of a pod of the job in a final phase, or a run failed the
job for what its only pod showed.

* `Evidence`: the reasons that there are for a result;
* `Traced`: the outcomes that a run has come to are from pods that were listed for it, kept by
  `traced_nextStage`;
* `Evident`: there is evidence for each entry that is not open, kept by `Evident.act`;
* `evidence_of_emitted`, `evidence_of_reported`: and for each result that is or has been reported;
* `reported_status_justified`: there is evidence for each result of an update.
-/

namespace NodeImages.Work

open Cluster

/-! ## Evidence -/

/-- Whether a move leaves it to the watch to note the state of pods. -/
def Move.isWatched : Move → Bool
  | .settle _ => false
  | _ => true

section

variable (start : Engine) (moves : List Move)

/-- After a job was recorded, the watch has told of a pod of the job in a phase. -/
def Told (name phase : String) : Prop :=
  Occurs moves fun early move => ∃ pod,
    (move = .observe (.changed pod) ∨ move = .observe (.listed pod)) ∧
      pod.jobName? = some name ∧ pod.phase = some phase ∧
      ∃ result, .recorded (.real name) result ∈ start.notes early

/-- A run that looked into a job was given its only pod, and has come to this result. -/
def Inspected (number : Nat) (job : JobId) (result : Result) : Prop :=
  Occurs moves fun early move => ∃ pod run batch name found rest resolved,
    move = .pods number (.ok [pod]) ∧ (start.after early).run? number = some run ∧
      run.stage = .listingPods batch (name, found) rest resolved ∧ job = .real name ∧
      result = Run.expire ((start.after early).plan run.cacheKey) name pod found

/-- A run has come to a result about a job: from its only pod, and maybe from the events of the pod. -/
def LookedInto (number : Nat) (job : JobId) (result : Result) : Prop :=
  Inspected start moves number job result ∨
    ∃ found events, Inspected start moves number job found ∧ .events number (.ok events) ∈ moves ∧
      result = Run.addEvents found events

/-- A run has resolved the open entry of a job, with the result that it had come to. -/
def Expired (job : JobId) (result : Result) : Prop :=
  Occurs moves fun early move => ∃ number, move = .expire number ∧
    (start.after early).table.isPending job = true ∧
      ((start.after early).act move).1.table.get? job = some result ∧
      LookedInto start early number job result

/-- The node of a request has answered that it has the image, and so the result was recorded. -/
def FoundPresent (job : JobId) (result : Result) : Prop :=
  Occurs moves fun early move => move = .presence (.ok true) ∧
    (∃ item, (start.after early).inHand = some ⟨item, .asking result.request⟩) ∧
      .recorded job result ∈ ((start.after early).act move).2

/-- The reasons that there are for a result in the course so far. -/
inductive Evidence : JobId → Result → Prop
  /-- No job was needed, as the node had the image. -/
  | present {name : String} {result : Result} (status : result.status = .alreadyPulled)
      (found : FoundPresent start moves (.synthetic name) result) : Evidence (.synthetic name) result
  /-- The pod of the job succeeded. -/
  | succeeded {name : String} {result : Result} (status : result.status = .succeeded)
      (told : Told start moves name Pod.succeededPhase) : Evidence (.real name) result
  /-- The pod of the job failed. -/
  | failed {name : String} {result : Result} (status : result.status = .failed)
      (told : Told start moves name Pod.failedPhase) : Evidence (.real name) result
  /-- The job took too long. -/
  | expired {name : String} {result : Result} (status : result.status = .failed)
      (expired : Expired start moves (.real name) result) : Evidence (.real name) result

/-- The outcomes that a run has come to are of jobs that it has looked into. -/
def Traced (number : Nat) : Stage → Prop
  | .listingPods _ _ _ resolved | .resolving _ resolved =>
    ∀ outcome ∈ resolved, LookedInto start moves number outcome.1 outcome.2
  | .listingEvents _ job _ _ resolved =>
    Inspected start moves number (.real job.1) job.2 ∧
      ∀ outcome ∈ resolved, LookedInto start moves number outcome.1 outcome.2
  | _ => True

/-- An entry that is not open any more has become so for a reason, and so have the outcomes of runs. -/
structure Evident : Prop where
  entries : ∀ entry ∈ (start.after moves).table.entries,
    entry.result.status = .jobCreated ∨ Evidence start moves entry.job entry.result
  runs : ∀ run ∈ (start.after moves).runs, Traced start moves run.number run.stage

end

variable {start : Engine} {moves : List Move} {move : Move} {number : Nat} {job : JobId} {result : Result}

/-- What has been found out is not forgotten. -/
theorem LookedInto.concat (h : LookedInto start moves number job result) (move : Move) :
    LookedInto start (moves ++ [move]) number job result := by
  rcases h with h | ⟨found, events, h, hevents, rfl⟩
  · exact .inl (Occurs.concat h move)
  · exact .inr ⟨found, events, Occurs.concat h move, List.mem_append_left _ hevents, rfl⟩

/-- Nor is what speaks for a result. -/
theorem Evidence.concat (h : Evidence start moves job result) (move : Move) :
    Evidence start (moves ++ [move]) job result := by
  cases h with
  | present status found => exact .present status (Occurs.concat found move)
  | succeeded status told => exact .succeeded status (Occurs.concat told move)
  | failed status told => exact .failed status (Occurs.concat told move)
  | expired status expired => exact .expired status (Occurs.concat expired move)

/-! ## What runs come to -/

namespace Traced

variable {stage : Stage} {batch : List JobId} {resolved : List (JobId × Result)}

theorem concat (h : Traced start moves number stage) (move : Move) :
    Traced start (moves ++ [move]) number stage := by
  cases stage with
  | listingPods | resolving => exact fun outcome houtcome => (h outcome houtcome).concat move
  | listingEvents => exact ⟨Occurs.concat h.1 move, fun outcome houtcome => (h.2 outcome houtcome).concat move⟩
  | _ => trivial

/-- A run that goes on to the next open job has found out what it knows. -/
theorem listNext (h : ∀ outcome ∈ resolved, LookedInto start moves number outcome.1 outcome.2)
    (jobs : List OpenJob) : Traced start moves number (Run.listNext batch resolved jobs) := by
  cases jobs <;> exact h

theorem deleteNext (jobs : List String) : Traced start moves number (Run.deleteNext batch jobs) := by
  cases jobs <;> trivial

theorem inspect (plan : RunPlan) (now deadline : Nat) (table : Table) :
    Traced start moves number (Run.inspect plan now deadline table) := by
  rw [Run.inspect]
  split
  · rw [Run.fixBatch_eq]
    split
    · exact deleteNext _
    · exact listNext (fun _ h => absurd h List.not_mem_nil) _
  · trivial

end Traced

theorem LookedInto.append {resolved : List (JobId × Result)} {outcome : JobId × Result}
    (h : ∀ outcome ∈ resolved, LookedInto start moves number outcome.1 outcome.2)
    (h' : LookedInto start (moves ++ [move]) number outcome.1 outcome.2) :
    ∀ other ∈ resolved ++ [outcome], LookedInto start (moves ++ [move]) number other.1 other.2 := by
  intro other hother
  rcases List.mem_append.1 hother with hother | hother
  · exact (h other hother).concat move
  · rw [List.mem_singleton.1 hother]
    exact h'

/-- In a move of its own, a run comes to an outcome from the pod or the events that the move brings. -/
theorem traced_nextStage {run : ActiveRun} (own : move.run? = some run.number)
    (hrun : (start.after moves).run? run.number = some run)
    (traced : Traced start moves run.number run.stage) :
    Traced start (moves ++ [move]) run.number ((start.after moves).nextStage run move) := by
  have advance : Advance (start.after moves) run move _ := advance_of_own own
  have inspected {batch : List JobId} {job : OpenJob} {rest : List OpenJob}
      {resolved : List (JobId × Result)} (hstage : run.stage = .listingPods batch job rest resolved)
      (pod : Pod) : Inspected start (moves ++ [.pods run.number (.ok [pod])]) run.number
        (.real job.1) (Run.expire ((start.after moves).plan run.cacheKey) job.1 pod job.2) :=
    Occurs.last ⟨pod, run, batch, job.1, job.2, rest, resolved, rfl, hrun, hstage, rfl, rfl⟩
  generalize (start.after moves).nextStage run move = stage at advance
  cases advance with
  | stay => exact traced.concat move
  | inspect => exact .inspect _ _ _ _
  | expire pod hstage =>
    rw [hstage] at traced
    exact .listNext (LookedInto.append traced (.inl (inspected hstage pod))) _
  | ask pod hstage =>
    rw [hstage] at traced
    exact ⟨inspected hstage pod, fun outcome houtcome => (traced outcome houtcome).concat _⟩
  | hear events hstage =>
    rw [hstage] at traced
    refine .listNext (LookedInto.append traced.2 (.inr ⟨_, events, ?_, ?_, rfl⟩)) _
    · exact Occurs.concat traced.1 _
    · exact List.mem_append_right _ (List.mem_singleton_self _)
  | resolve | delete => exact .deleteNext _
  | _ => trivial

/-! ## Moves -/

/-- A name that is read as that of a real job is its name. -/
theorem JobId.eq_of_ofName_eq_real {name name' : String} (h : JobId.ofName name = .real name') :
    name = name' := by
  rw [JobId.ofName] at h
  split at h
  · cases h
  · exact JobId.real.inj h

/-- A result that is recorded when a node has answered is of the request that the node was asked about. -/
theorem Engine.asking_of_recorded {engine : Engine} {answer : Outcome Bool}
    (h : .recorded job result ∈ (engine.act (.presence answer)).2) :
    ∃ item, engine.inHand = some ⟨item, .asking result.request⟩ := by
  rw [Engine.act] at h
  split at h
  · rename_i item request hand
    rcases answer with _ | _ | _
    · exact absurd (List.mem_singleton.1 h) Note.noConfusion
    · exact absurd h List.not_mem_nil
    · cases List.mem_singleton.1 h
      exact ⟨item, hand⟩
  · exact absurd h List.not_mem_nil

theorem Move.eq_of_pod? {pod : Pod} (watched : move.isWatched = true) (told : move.pod? = some pod) :
    move = .observe (.changed pod) ∨ move = .observe (.listed pod) := by
  cases move with
  | settle => cases watched
  | observe event =>
    cases event with
    | listed => cases told; exact .inr rfl
    | changed => cases told; exact .inl rfl
    | _ => cases told
  | _ => cases told

/-- The outcomes that a run applies are those that it holds when it comes to resolve its batch. -/
theorem resolving_of_mem_outcomesTo {engine : Engine} {run : ActiveRun} {outcome : JobId × Result}
    (own : move.run? = some run.number)
    (h : outcome ∈ run.stage.outcomesTo (engine.nextStage run move)) :
    move = .expire run.number ∧
      ∃ batch resolved, run.stage = .resolving batch resolved ∧ outcome ∈ resolved := by
  have advance : Advance engine run move _ := advance_of_own own
  have nothing {stage : Stage} (hnone : run.stage.outcomesTo stage = [])
      (h : outcome ∈ run.stage.outcomesTo stage) : False := List.not_mem_nil (hnone ▸ h)
  generalize engine.nextStage run move = stage at advance h
  cases advance with
  | @resolve batch resolved jobs hstage =>
    refine ⟨rfl, batch, resolved, hstage, ?_⟩
    rwa [hstage, Stage.outcomesTo, if_pos ⟨rfl, Run.isResolved_deleteNext jobs⟩] at h
  | stay => exact (nothing (Stage.outcomesTo_self _) h).elim
  | inspect hdeadline =>
    refine (nothing ?_ h).elim
    rw [Stage.outcomesTo, (Run.Step.unfixed_of_deadline? hdeadline).2, ite_self]
  | delete hstage => exact (nothing (Stage.outcomesTo_of_resolved (hstage ▸ rfl)) h).elim
  | expire | hear =>
    exact (nothing (Stage.outcomesTo_of_unresolved (Run.isResolved_listNext _)) h).elim
  | _ => exact (nothing (Stage.outcomesTo_of_unresolved rfl) h).elim

namespace Effect

variable {engine' : Engine} {late : List Note} {deletions : List Deletion}

/-- What a run knows after a move it has found out by then. -/
theorem traced (effect : Effect (start.after moves) move engine' late deletions)
    (numbered : (start.after moves).Numbered)
    (traced : ∀ run ∈ (start.after moves).runs, Traced start moves run.number run.stage) :
    ∀ run ∈ engine'.runs, Traced start (moves ++ [move]) run.number run.stage :=
  effect.forall_runs numbered (fun run h => (traced run h).concat move) (fun _ => trivial)
    fun run h hrun own => traced_nextStage own hrun (traced run h)

end Effect

/-- When the state of a pod is noted, the outcome of the job is as the watch told. -/
theorem evidence_of_settled {entry entry' : Entry} {pod : Pod} {name : String}
    (ledger : Ledger (start.after moves) (start.notes moves)) (watched : move.isWatched = true)
    (told : move.pod? = some pod) (hentry : entry ∈ (start.after moves).table.entries)
    (hopen : entry.isPending = true) (hname : pod.jobName? = some name) (hof : entry.job = .ofName name)
    (hphase : pod.phase = some Pod.succeededPhase ∧ entry'.result = entry.result.succeed ∨
      pod.phase = some Pod.failedPhase ∧ entry'.result = entry.result.fail pod) :
    Evidence start (moves ++ [move]) entry.job entry'.result := by
  obtain ⟨name', hjob⟩ := ledger.real_of_pending hentry hopen
  obtain rfl := JobId.eq_of_ofName_eq_real (hof.symm.trans hjob)
  obtain ⟨result, hrecorded, -⟩ := ledger.entries entry hentry
  rw [hjob, mem_recordings] at hrecorded
  have told' {phase : String} (h : pod.phase = some phase) : Told start (moves ++ [move]) name phase :=
    Occurs.last ⟨pod, Move.eq_of_pod? watched told, hname, h, result, hrecorded⟩
  rw [hjob]
  rcases hphase with ⟨hphase, hresult⟩ | ⟨hphase, hresult⟩
  · exact .succeeded (hresult ▸ rfl) (told' hphase)
  · exact .failed (hresult ▸ (entry.result.fail_eq pod).1) (told' hphase)

/-- When a run resolves an open job, the job has failed as the run found out. -/
theorem evidence_of_outcome {entry entry' : Entry} {run : ActiveRun}
    (evident : Evident start moves) (ledger : Ledger (start.after moves) (start.notes moves))
    (hrun : run ∈ (start.after moves).runs) (own : move.run? = some run.number)
    (hentry : entry ∈ (start.after moves).table.entries) (hopen : entry.isPending = true)
    (hentry' : entry' ∈ ((start.after moves).act move).1.table.entries) (hjob : entry'.job = entry.job)
    (hmem : (entry.job, entry'.result) ∈
      run.stage.outcomesTo ((start.after moves).nextStage run move)) :
    Evidence start (moves ++ [move]) entry.job entry'.result := by
  obtain ⟨rfl, batch, resolved, hstage, hmem⟩ := resolving_of_mem_outcomesTo own hmem
  have traced := evident.runs run hrun
  have closed := (ledger.runs run hrun).outcomes
  rw [hstage] at traced closed
  obtain ⟨name, hname⟩ := ledger.real_of_pending hentry hopen
  have hpending : (start.after moves).table.isPending entry.job = true := by
    rw [Table.isPending, Table.entry?_eq_some_iff.2 ⟨hentry, rfl⟩]
    exact hopen
  have expired : Expired start (moves ++ [.expire run.number]) entry.job entry'.result :=
    Occurs.last ⟨run.number, rfl, hpending, Table.get?_eq_some_iff.2 ⟨entry', hentry', hjob, rfl⟩,
      traced _ hmem⟩
  rw [hname]
  exact .expired (closed _ hmem).2 (hname ▸ expired)

/-- Every result is spoken for after a move if it was before. -/
theorem Evident.act (evident : Evident start moves) (inner : move.isInner = true)
    (watched : move.isWatched = true) (ledger : Ledger (start.after moves) (start.notes moves))
    (distinct : DistinctNames (start.notes moves ++ ((start.after moves).act move).2)) :
    Evident start (moves ++ [move]) := by
  have effect : Effect (start.after moves) move _ _ _ := act_effect inner
  refine ⟨fun entry' h => ?_, by rw [Engine.after_concat]; exact effect.traced ledger.numbered evident.runs⟩
  rw [Engine.after_concat] at h
  -- What there was evidence for before the move, there is evidence for after it.
  have keeps {entry : Entry} (hentry : entry ∈ (start.after moves).table.entries)
      (hjob : entry'.job = entry.job) (hresult : entry'.result = entry.result) :
      entry'.result.status = .jobCreated ∨ Evidence start (moves ++ [move]) entry'.job entry'.result := by
    rw [hjob, hresult]
    exact (evident.entries entry hentry).imp_right fun evidence => evidence.concat move
  cases effect with
  | rest table | start _ _ _ table => exact keeps (table ▸ h) rfl rfl
  | record job result kind table _ notes =>
    have hnew := Effect.not_mem_jobs_of_recorded ledger distinct
      (mem_recordings.2 (notes ▸ List.mem_singleton_self _))
    rw [table, Table.mem_put_of_new hnew] at h
    rcases h with h | rfl
    · exact keeps h rfl rfl
    · obtain ⟨-, -, ⟨-, hstatus⟩ | ⟨⟨name, rfl⟩, rfl, hstatus⟩⟩ := kind
      · exact .inl hstatus
      · have hrecorded : .recorded (.synthetic name) result ∈
            ((start.after moves).act (.presence (.ok true))).2 := notes ▸ List.mem_singleton_self _
        exact .inr (.present hstatus
          (Occurs.last ⟨rfl, Engine.asking_of_recorded hrecorded, hrecorded⟩))
  | settle pod told table =>
    obtain ⟨entry, hentry, hjob, -, hresult | ⟨hopen, name, hname, hof, hphase⟩⟩ :=
      Table.settled_of_mem_settlePod (table ▸ h)
    · exact keeps hentry hjob hresult
    · exact .inr (hjob ▸ evidence_of_settled ledger watched told hentry hopen hname hof hphase)
  | step run stage mem step _ _ own next =>
    subst next
    have hrun := (Engine.mem_of_run? mem).1
    obtain ⟨entry, hentry, hjob, ⟨hopen, hmem⟩ | ⟨-, hresult⟩⟩ :=
      step.mem_results (fun outcome h => ((ledger.runs run hrun).outcomes outcome h).2) h
    · exact .inr (hjob ▸ evidence_of_outcome evident ledger hrun own hentry hopen h hjob hmem)
    · exact keeps hentry hjob hresult
  | collect _ batch _ _ _ table =>
    rw [table, Table.mem_without] at h
    exact keeps h.1 rfl rfl

/-! ## Courses -/

section

variable {settings : Settings} {work reports : QueueConfig}

/-- Every result is spoken for at every moment. -/
theorem evident_after (inner : ∀ move ∈ moves, move.isInner = true)
    (watched : ∀ move ∈ moves, move.isWatched = true)
    (distinct : DistinctNames ((Engine.new settings work reports).notes moves)) :
    Evident (.new settings work reports) moves := by
  induction moves using List.reverseRecOn with
  | nil => exact ⟨fun _ h => absurd h List.not_mem_nil, fun _ h => absurd h List.not_mem_nil⟩
  | append_singleton moves move ih =>
    have inner' : ∀ move ∈ moves, move.isInner = true := fun move h => inner move (by simp [h])
    have watched' : ∀ move ∈ moves, move.isWatched = true := fun move h => watched move (by simp [h])
    rw [Engine.notes_concat] at distinct
    exact (ih inner' watched' distinct.early).act (inner move (by simp)) (watched move (by simp))
      (ledger_after inner' distinct.early) distinct

/-- For each result of an update that a move puts up for reporting, there is evidence in the course before. -/
theorem evidence_of_emitted (inner : ∀ m ∈ moves ++ [move], m.isInner = true)
    (watched : ∀ m ∈ moves, m.isWatched = true)
    (distinct : DistinctNames ((Engine.new settings work reports).notes moves)) {update : Update}
    (emitted : .emitted number update ∈ (((Engine.new settings work reports).after moves).act move).2)
    (hrow : (job, result) ∈ update.results) :
    result.status ≠ .jobCreated ∧ Evidence (.new settings work reports) moves job result := by
  have inner' : ∀ m ∈ moves, m.isInner = true := fun m h => inner m (List.mem_append_left _ h)
  obtain ⟨run, batch, hrun, rfl, hstage, rfl⟩ :=
    (act_effect (inner move (by simp))).collecting_of_emitted emitted
  obtain ⟨hjob, entry, hentry, rfl, rfl⟩ := Table.mem_results.1 hrow
  have hclosed := closed_of_collecting inner' distinct hrun hstage hentry hjob
  exact ⟨hclosed, ((evident_after inner' watched distinct).entries entry hentry).resolve_left hclosed⟩

/-- So there is for each result that has been reported, in the course so far. -/
theorem evidence_of_reported (inner : ∀ m ∈ moves, m.isInner = true)
    (watched : ∀ m ∈ moves, m.isWatched = true)
    (distinct : DistinctNames ((Engine.new settings work reports).notes moves)) {update : Update}
    (hupdate : update ∈ updates ((Engine.new settings work reports).notes moves))
    (hrow : (job, result) ∈ update.results) :
    result.status ≠ .jobCreated ∧ Evidence (.new settings work reports) moves job result := by
  induction moves using List.reverseRecOn with
  | nil => exact absurd hupdate List.not_mem_nil
  | append_singleton moves move ih =>
    have inner' : ∀ m ∈ moves, m.isInner = true := fun m h => inner m (List.mem_append_left _ h)
    have watched' : ∀ m ∈ moves, m.isWatched = true := fun m h => watched m (List.mem_append_left _ h)
    rw [Engine.notes_concat] at distinct hupdate
    rw [updates_append] at hupdate
    have before : result.status ≠ .jobCreated ∧ Evidence (.new settings work reports) moves job result := by
      rcases List.mem_append.1 hupdate with h | h
      · exact ih inner' watched' distinct.early h
      · obtain ⟨number, emitted⟩ := mem_updates.1 h
        exact evidence_of_emitted inner watched' distinct.early emitted hrow
    exact before.imp_right fun evidence => evidence.concat move

end

/-- For each result of an update that is put up for reporting, there is evidence in the course before: work that
    needed no job was found done by the node, and a job has succeeded or failed as the watch told, or has failed as
    its only pod showed a run. No result is open any more. -/
theorem reported_status_justified (settings : Settings) (work reports : QueueConfig) (moves : List Move)
    (last : Move) (inner : ∀ move ∈ moves ++ [last], move.isInner = true)
    (watched : ∀ move ∈ moves, move.isWatched = true)
    (distinct : DistinctNames ((Engine.new settings work reports).notes moves)) (number : Nat)
    (update : Update)
    (emitted : .emitted number update ∈ (((Engine.new settings work reports).after moves).act last).2) :
    ∀ job result, (job, result) ∈ update.results →
      result.status ≠ .jobCreated ∧ Evidence (.new settings work reports) moves job result := by
  intro job result hrow
  exact evidence_of_emitted inner watched distinct emitted hrow

/-- A course with two runs in which the watch tells of the pod. -/
theorem reported_status_justified_resumption :
    let moves := (resumption.take 15).map fun
      | .settle pod => .observe (.changed pod)
      | move => move
    ∃ update ∈ updates ((Engine.hasty.after moves).act (.collect 1)).2,
      update.results.map (fun row => (row.1, row.2.status)) =
        [(.real "j", .succeeded), (.fresh 0, .alreadyPulled)] ∧
      ∀ job result, (job, result) ∈ update.results → Evidence Engine.hasty moves job result := by
  intro moves
  have hupdates : (updates ((Engine.hasty.after moves).act (.collect 1)).2).map
      (fun update => update.results.map fun row => (row.1, row.2.status)) =
        [[(.real "j", .succeeded), (.fresh 0, .alreadyPulled)]] := by decide +kernel
  obtain ⟨update, hupdate, hresults⟩ := List.mem_map.1 (hupdates ▸ List.mem_singleton_self _)
  obtain ⟨number, emitted⟩ := mem_updates.1 hupdate
  have justified := reported_status_justified { deadlineMs := 0 } {} {} moves (.collect 1) (by decide)
    (by decide) (by decide +kernel) number update emitted
  exact ⟨update, hupdate, hresults, fun job result h => (justified job result h).2⟩

end NodeImages.Work
