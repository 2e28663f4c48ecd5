import NodeImages.Proofs.Course

/-!
# The ledger of a course

Whatever becomes of an entry can be accounted for by what was noted when it was recorded. `Ledger` is the
invariant of all courses that says so, for the entries of the table, for the copies of them that runs work
with, and for those that have been reported; it rests on names being handed out once, so that no copy is ever
mistaken for that of another entry.

* `Run.Step.mem_entries`: a step of a run settles at most open entries, however old its copies are;
* `Effect.mem_entries`: so does every move;
* `Effect.ledger`: every move keeps the ledger.
-/

namespace NodeImages.Work

open Cluster

/-! ## What runs work with -/

/-- What a run works with is known: its batch is one of its image cache, and its copies are of requests that
    were recorded; those that it has looked into have failed. -/
structure Stage.Sound (known : JobId → Request → Prop) (cacheKey : String) (stage : Stage) : Prop where
  batch : ∀ job ∈ stage.batch, ∃ request, known job request ∧ request.cacheKey = cacheKey
  nodup : stage.batch.Nodup
  unseen : ∀ copy ∈ stage.unseen, known copy.1 copy.2.request
  outcomes : ∀ outcome ∈ stage.outcomes,
    known outcome.1 outcome.2.request ∧ outcome.2.status = .failed

theorem Stage.Sound.of_empty {known : JobId → Request → Prop} {cacheKey : String} {stage : Stage}
    (batch : stage.batch = []) (unseen : stage.unseen = []) (outcomes : stage.outcomes = []) :
    stage.Sound known cacheKey :=
  ⟨by simp [batch], by simp [batch], by simp [unseen], by simp [outcomes]⟩

theorem Stage.Sound.mono {known known' : JobId → Request → Prop} {cacheKey : String} {stage : Stage}
    (sound : stage.Sound known cacheKey) (h : ∀ job request, known job request → known' job request) :
    stage.Sound known' cacheKey where
  batch job hjob := let ⟨request, hknown, hkey⟩ := sound.batch job hjob
    ⟨request, h _ _ hknown, hkey⟩
  nodup := sound.nodup
  unseen copy hcopy := h _ _ (sound.unseen copy hcopy)
  outcomes outcome houtcome := (sound.outcomes outcome houtcome).imp_left (h _ _)

namespace Run.Step

variable {known : JobId → Request → Prop} {plan : RunPlan} {now : Nat} {table table' : Table}
  {stage stage' : Stage} {deletions : List Deletion}

/-- A step keeps known what a run works with: the batch is fixed from the table, and a copy is only ever
    failed. -/
theorem sound (step : Run.Step plan now table stage deletions table' stage')
    (sound : stage.Sound known plan.cacheKey)
    (entries : ∀ entry ∈ table.entries, known entry.job entry.result.request) :
    stage'.Sound known plan.cacheKey := by
  -- A copy that has been looked into joins the other outcomes.
  have joins {resolved : List (JobId × Result)} {name : String} {result result' : Result}
      (hresolved : ∀ outcome ∈ resolved, known outcome.1 outcome.2.request ∧ outcome.2.status = .failed)
      (hknown : known (.real name) result.request) (hrequest : result'.request = result.request)
      (hstatus : result'.status = .failed) :
      ∀ outcome ∈ resolved ++ [Stage.copy (name, result')],
        known outcome.1 outcome.2.request ∧ outcome.2.status = .failed := by
    intro outcome houtcome
    rcases List.mem_append.1 houtcome with h | h
    · exact hresolved outcome h
    · rw [List.mem_singleton.1 h]
      exact ⟨hrequest ▸ hknown, hstatus⟩
  cases step with
  | idle => exact sound
  | wait | stick | fail | refuse => exact .of_empty rfl rfl rfl
  | fix =>
    refine ⟨fun job hjob => ?_, ?_, fun copy hcopy => ?_, by simp⟩
    · rw [batch_fixBatch, Table.mem_jobsFor] at hjob
      obtain ⟨entry, hentry, rfl, hkey⟩ := hjob
      exact ⟨_, entries entry hentry, hkey⟩
    · rw [batch_fixBatch]
      exact Table.nodup_jobsFor
    · rw [unseen_fixBatch, List.mem_map] at hcopy
      obtain ⟨⟨name, result⟩, hopen, rfl⟩ := hcopy
      obtain ⟨_, entry, hentry, hjob, _, rfl⟩ := mem_openJobs.1 hopen
      have := entries entry hentry
      rwa [hjob] at this
  | @expire batch job rest resolved pod =>
    have hjob := sound.unseen (Stage.copy job) (List.mem_cons_self ..)
    refine ⟨batch_listNext _ ▸ sound.batch, batch_listNext _ ▸ sound.nodup, fun copy hcopy => ?_, ?_⟩
    · rw [unseen_listNext] at hcopy
      exact sound.unseen copy (List.mem_cons_of_mem _ hcopy)
    · rw [outcomes_listNext]
      exact joins sound.outcomes hjob (expire_eq _ _ _).1 (expire_eq _ _ _).2
  | @ask batch job rest resolved pod =>
    have hjob := sound.unseen (Stage.copy job) (List.mem_cons_self ..)
    exact ⟨sound.batch, sound.nodup,
      fun copy hcopy => sound.unseen copy (List.mem_cons_of_mem _ hcopy),
      joins sound.outcomes hjob (expire_eq _ _ _).1 (expire_eq _ _ _).2⟩
  | @hear batch job pod rest resolved events =>
    have hjob := sound.outcomes (Stage.copy job) (List.mem_append_right _ (List.mem_cons_self ..))
    have hresolved : ∀ outcome ∈ resolved,
        known outcome.1 outcome.2.request ∧ outcome.2.status = .failed :=
      fun outcome houtcome => sound.outcomes outcome (List.mem_append_left _ houtcome)
    refine ⟨batch_listNext _ ▸ sound.batch, batch_listNext _ ▸ sound.nodup, fun copy hcopy => ?_, ?_⟩
    · rw [unseen_listNext] at hcopy
      exact sound.unseen copy hcopy
    · rw [outcomes_listNext]
      have hknown : known (.real job.1) job.2.request := hjob.1
      exact joins hresolved hknown rfl hjob.2
  | resolve | delete =>
    exact ⟨batch_deleteNext _ ▸ sound.batch, batch_deleteNext _ ▸ sound.nodup, by simp, by simp⟩

/-- A step settles at most open entries: a copy, however old, is applied only to an entry that is still open,
    and it is of the same request. -/
theorem mem_entries (step : Run.Step plan now table stage deletions table' stage')
    (sound : stage.Sound known plan.cacheKey)
    (entries : ∀ entry ∈ table.entries, known entry.job entry.result.request)
    (unique : ∀ job request request', known job request → known job request' → request = request')
    {entry' : Entry} (h : entry' ∈ table'.entries) :
    ∃ entry ∈ table.entries, entry'.job = entry.job ∧ entry.result.Becomes entry'.result := by
  cases step with
  | @resolve batch resolved =>
    have closed : ∀ outcome ∈ resolved, outcome.2.status.isPending = false := fun outcome hmem => by
      rw [(sound.outcomes outcome hmem).2]
      rfl
    obtain ⟨entry, hentry, hjob, _, ⟨hopen, hmem⟩ | ⟨_, hresult⟩⟩ := Table.mem_resolveAll closed h
    · obtain ⟨hknown, hfailed⟩ := sound.outcomes _ hmem
      exact ⟨entry, hentry, hjob, .inr ⟨Status.isPending_iff.1 hopen, .inr hfailed,
        unique _ _ _ hknown (entries entry hentry)⟩⟩
    · exact ⟨entry, hentry, hjob, .inl hresult⟩
  | delete =>
    obtain ⟨entry, hentry, hjob, hresult, _⟩ := Table.mem_markDeleted h
    exact ⟨entry, hentry, hjob, .inl hresult⟩
  | _ => exact ⟨entry', h, rfl, .refl _⟩

theorem jobs (step : Run.Step plan now table stage deletions table' stage') : table'.jobs = table.jobs := by
  cases step with
  | resolve => exact Table.jobs_resolveAll _
  | delete => exact Table.jobs_markDeleted
  | _ => rfl

end Run.Step

/-! ## The ledger -/

/-- A job was recorded for a request. -/
def Requested (notes : List Note) (job : JobId) (request : Request) : Prop :=
  ∃ result, (job, result) ∈ recordings notes ∧ result.request = request

theorem Requested.append {notes : List Note} {job : JobId} {request : Request}
    (h : Requested notes job request) (late : List Note) : Requested (notes ++ late) job request :=
  let ⟨result, hmem, hrequest⟩ := h
  ⟨result, by simp [hmem], hrequest⟩

theorem DistinctNames.unique_request {notes : List Note} (distinct : DistinctNames notes) (job : JobId)
    (request request' : Request) (h : Requested notes job request)
    (h' : Requested notes job request') : request = request' := by
  obtain ⟨result, hmem, rfl⟩ := h
  obtain ⟨result', hmem', rfl⟩ := h'
  rw [distinct.unique hmem hmem']

/-- What has become of all that was recorded. -/
structure Ledger (engine : Engine) (notes : List Note) : Prop where
  numbered : engine.Numbered
  /-- A job that was created is open at first, and work that needed none is settled. -/
  recorded : ∀ job result, (job, result) ∈ recordings notes →
    (∃ name, job = .real name) ∧ result.status = .jobCreated ∨
      (∃ name, job = .synthetic name) ∧ result.status = .alreadyPulled
  /-- An entry of the table has become of the one that was recorded. -/
  entries : ∀ entry ∈ engine.table.entries,
    ∃ result, (entry.job, result) ∈ recordings notes ∧ result.Becomes entry.result
  runs : ∀ run ∈ engine.runs, run.stage.Sound (Requested notes) run.cacheKey
  /-- So has a result that was reported, under the key of its image cache. -/
  reported : ∀ update ∈ updates notes, ∀ row ∈ update.results,
    ∃ result, (row.1, result) ∈ recordings notes ∧ result.Becomes row.2 ∧
      result.request.cacheKey = update.key
  /-- The jobs that were recorded are those in the table and those that were reported. -/
  partition : (engine.table.jobs ++ (updates notes).flatMap Update.jobs).Perm
    ((recordings notes).map Prod.fst)

namespace Ledger

variable {engine : Engine} {notes : List Note}

theorem requested (ledger : Ledger engine notes) (entry : Entry) (h : entry ∈ engine.table.entries) :
    Requested notes entry.job entry.result.request :=
  let ⟨result, hmem, hbecomes⟩ := ledger.entries entry h
  ⟨result, hmem, hbecomes.request_eq.symm⟩

/-- Work that needed no job is never open. -/
theorem real_of_pending (ledger : Ledger engine notes) {entry : Entry}
    (h : entry ∈ engine.table.entries) (hopen : entry.isPending = true) :
    ∃ name, entry.job = .real name := by
  obtain ⟨result, hmem, hbecomes⟩ := ledger.entries entry h
  rcases ledger.recorded entry.job result hmem with ⟨hreal, _⟩ | ⟨_, hstatus⟩
  · exact hreal
  · have hsame := hbecomes.eq_of_closed (by rw [hstatus]; decide)
    rw [Entry.isPending, hsame, hstatus] at hopen
    exact absurd hopen Bool.false_ne_true

theorem new (settings : Settings) (work reports : QueueConfig) :
    Ledger (.new settings work reports) [] where
  numbered := ⟨.nil, fun _ h => absurd h List.not_mem_nil⟩
  recorded _ _ h := absurd h List.not_mem_nil
  entries _ h := absurd h List.not_mem_nil
  runs _ h := absurd h List.not_mem_nil
  reported _ h := absurd h List.not_mem_nil
  partition := .nil

end Ledger

namespace Effect

variable {engine engine' : Engine} {move : Move} {notes late : List Note} {deletions : List Deletion}

/-- What a move records is new to the table. -/
theorem not_mem_jobs_of_recorded (ledger : Ledger engine notes) (distinct : DistinctNames (notes ++ late))
    {job : JobId} {result : Result} (h : (job, result) ∈ recordings late) :
    job ∉ engine.table.jobs := by
  intro hmem
  obtain ⟨entry, hentry, rfl⟩ := Table.mem_jobs.1 hmem
  obtain ⟨_, hrecorded, _⟩ := ledger.entries entry hentry
  exact distinct.not_mem h hrecorded

theorem kind_of_recorded (effect : Effect engine move engine' late deletions) {job : JobId}
    {result : Result} (h : (job, result) ∈ recordings late) :
    (∃ name, job = .real name) ∧ result.status = .jobCreated ∨
      (∃ name, job = .synthetic name) ∧ result.status = .alreadyPulled := by
  cases effect with
  | rest _ _ hnotes =>
    rcases hnotes with rfl | ⟨_, rfl⟩ <;> exact absurd h List.not_mem_nil
  | record _ _ kind _ _ hnotes _ =>
    rw [hnotes] at h
    obtain ⟨rfl, rfl⟩ := Prod.mk.inj (List.mem_singleton.1 h)
    obtain ⟨-, -, ⟨⟨name, hjob, -⟩, hstatus⟩ | ⟨hjob, -, hstatus⟩⟩ := kind
    · exact .inl ⟨⟨name, hjob⟩, hstatus⟩
    · exact .inr ⟨hjob, hstatus⟩
  | settle _ _ _ _ hnotes _ | start _ _ _ _ _ hnotes _ | collect _ _ _ _ _ _ _ hnotes _ =>
    rw [hnotes] at h
    exact absurd h List.not_mem_nil
  | step _ _ _ _ _ hnotes =>
    rw [hnotes, Engine.recordings_stand] at h
    exact absurd h List.not_mem_nil

/-- An update is of the batch of a run. -/
theorem collecting_of_emitted (effect : Effect engine move engine' notes deletions) {number : Nat}
    {update : Update} (h : .emitted number update ∈ notes) :
    ∃ run batch, run ∈ engine.runs ∧ run.number = number ∧ run.stage = .collecting batch ∧
      update = ⟨run.cacheKey, engine.table.results batch⟩ := by
  cases effect with
  | rest _ _ hnotes => rcases hnotes with rfl | ⟨_, rfl⟩ <;> simp at h
  | record _ _ _ _ _ hnotes _ | settle _ _ _ _ hnotes _ | start _ _ _ _ _ hnotes _ =>
    simp [hnotes] at h
  | step run stage _ _ _ hnotes =>
    rcases Engine.stand_cases engine run stage with ⟨outcome, rfl⟩ | hstand
    · simp [hnotes, Engine.stand] at h
    · simp [hnotes, hstand] at h
  | collect run batch mem stage _ _ _ hnotes _ =>
    simp only [hnotes, List.mem_cons, Note.emitted.injEq, List.not_mem_nil, or_false,
      reduceCtorEq] at h
    exact ⟨run, batch, (Engine.mem_of_run? mem).1, h.1.symm, stage, h.2⟩

/-- An entry after a move has just been recorded, or has become of one that was there before. -/
theorem mem_entries (effect : Effect engine move engine' late deletions) (ledger : Ledger engine notes)
    (distinct : DistinctNames (notes ++ late)) {entry' : Entry}
    (h : entry' ∈ engine'.table.entries) :
    (∃ result, (entry'.job, result) ∈ recordings late ∧ entry' = ⟨entry'.job, result, false⟩) ∨
    ∃ entry ∈ engine.table.entries, entry'.job = entry.job ∧ entry.result.Becomes entry'.result := by
  cases effect with
  | rest table => exact .inr ⟨entry', table ▸ h, rfl, .refl _⟩
  | record job result _ table _ hnotes _ =>
    subst hnotes
    have hnew := not_mem_jobs_of_recorded ledger distinct (List.mem_singleton_self (job, result))
    rw [table, Table.mem_put_of_new hnew] at h
    rcases h with h | rfl
    · exact .inr ⟨entry', h, rfl, .refl _⟩
    · exact .inl ⟨result, mem_recordings.2 (List.mem_singleton_self _), rfl⟩
  | settle pod _ table =>
    obtain ⟨entry, hentry, hjob, _, hbecomes⟩ := Table.mem_settlePod (table ▸ h)
    exact .inr ⟨entry, hentry, hjob, hbecomes⟩
  | start _ _ _ table => exact .inr ⟨entry', table ▸ h, rfl, .refl _⟩
  | step run stage mem step =>
    have hrun := (Engine.mem_of_run? mem).1
    exact .inr (step.mem_entries (ledger.runs run hrun) ledger.requested
      distinct.early.unique_request h)
  | collect run batch _ _ _ table =>
    rw [table, Table.mem_without] at h
    exact .inr ⟨entry', h.1, rfl, .refl _⟩

/-- Every move keeps the ledger. -/
theorem ledger (effect : Effect engine move engine' late deletions) (ledger : Ledger engine notes)
    (distinct : DistinctNames (notes ++ late)) : Ledger engine' (notes ++ late) where
  numbered := effect.numbered ledger.numbered
  recorded job result h := by
    rw [recordings_append] at h
    rcases List.mem_append.1 h with h | h
    · exact ledger.recorded job result h
    · exact effect.kind_of_recorded h
  entries entry' h := by
    rcases effect.mem_entries ledger distinct h with
      ⟨result, hmem, heq⟩ | ⟨entry, hentry, hjob, hbecomes⟩
    · exact ⟨result, by simp [hmem], by rw [heq]; exact .refl _⟩
    · obtain ⟨result, hmem, hbecomes'⟩ := ledger.entries entry hentry
      exact ⟨result, by simp [hjob, hmem], hbecomes'.trans hbecomes⟩
  runs other hother := by
    have append (job : JobId) (request : Request) (h : Requested notes job request) :
        Requested (notes ++ late) job request := h.append late
    rcases effect.mem_runs ledger.numbered hother with
      hother | ⟨cacheKey, guarded, rfl⟩ | ⟨run, hrun, stage, rfl, step⟩
    · exact (ledger.runs other hother).mono append
    · exact .of_empty rfl rfl rfl
    · exact (step.sound (ledger.runs run hrun) ledger.requested).mono append
  reported update hupdate row hrow := by
    rw [updates_append] at hupdate
    rcases List.mem_append.1 hupdate with hupdate | hupdate
    · obtain ⟨result, hmem, h⟩ := ledger.reported update hupdate row hrow
      exact ⟨result, by simp [hmem], h⟩
    · obtain ⟨number, hemitted⟩ := mem_updates.1 hupdate
      obtain ⟨run, batch, hrun, -, hstage, rfl⟩ := effect.collecting_of_emitted hemitted
      obtain ⟨hbatch, entry, hentry, hjob, hresult⟩ := Table.mem_results.1 hrow
      obtain ⟨result, hmem, hbecomes⟩ := ledger.entries entry hentry
      obtain ⟨request, hknown, hkey⟩ :=
        (ledger.runs run hrun).batch row.1 (by rw [hstage]; exact hbatch)
      rw [hjob] at hmem
      refine ⟨result, by simp [hmem], hresult ▸ hbecomes, ?_⟩
      rw [distinct.early.unique_request _ _ _ ⟨result, hmem, rfl⟩ hknown, hkey]
  partition := by
    have keeps (hjobs : engine'.table.jobs = engine.table.jobs) (hrecordings : recordings late = [])
        (hupdates : updates late = []) :
        (engine'.table.jobs ++ (updates (notes ++ late)).flatMap Update.jobs).Perm
          ((recordings (notes ++ late)).map Prod.fst) := by
      rw [hjobs, recordings_append, updates_append, hrecordings, hupdates, List.append_nil,
        List.append_nil]
      exact ledger.partition
    cases effect with
    | rest table _ hnotes =>
      rcases hnotes with rfl | ⟨_, rfl⟩ <;> exact keeps (by rw [table]) rfl rfl
    | record job result _ table _ hnotes _ =>
      subst hnotes
      have hnew := not_mem_jobs_of_recorded ledger distinct (List.mem_singleton_self (job, result))
      rw [table, Table.jobs_put_of_new hnew, recordings_append, updates_append]
      show (_ ++ [job] ++ (updates notes ++ []).flatMap Update.jobs).Perm
        ((recordings notes ++ [(job, result)]).map Prod.fst)
      rw [List.append_nil, List.map_append, List.append_assoc]
      refine .trans ?_ (ledger.partition.append_right _)
      rw [List.append_assoc]
      exact .append_left _ List.perm_append_comm
    | settle pod _ table _ hnotes _ =>
      exact keeps (by rw [table, Table.jobs_settlePod]) (by rw [hnotes]; rfl) (by rw [hnotes]; rfl)
    | start _ _ _ table _ hnotes _ =>
      exact keeps (by rw [table]) (by rw [hnotes]; rfl) (by rw [hnotes]; rfl)
    | step run stage mem step _ hnotes =>
      exact keeps step.jobs (by rw [hnotes, Engine.recordings_stand])
        (by rw [hnotes, Engine.updates_stand])
    | collect run batch mem stage _ table _ hnotes _ =>
      subst hnotes
      have hnodup : batch.Nodup := by
        have := (ledger.runs run (Engine.mem_of_run? mem).1).nodup
        rwa [stage] at this
      rw [table, recordings_append, updates_append, List.flatMap_append]
      show (_ ++ (_ ++ ((engine.table.results batch).map Prod.fst ++ []))).Perm
        ((recordings notes ++ []).map Prod.fst)
      rw [List.append_nil, List.append_nil]
      -- The jobs of the table are those that stay and those that leave with the batch.
      refine .trans ?_ ledger.partition
      refine .trans (.append_left _ List.perm_append_comm) ?_
      rw [← List.append_assoc]
      exact (Table.jobs_without_append_results hnodup).append_right _

end Effect

/-! ## Courses -/

section

variable {settings : Settings} {work reports : QueueConfig} {early late : List Move}

/-- The ledger is kept on every course. -/
theorem ledger_after {moves : List Move} (inner : ∀ move ∈ moves, move.isInner = true)
    (distinct : DistinctNames ((Engine.new settings work reports).notes moves)) :
    Ledger ((Engine.new settings work reports).after moves)
      ((Engine.new settings work reports).notes moves) := by
  induction moves using List.reverseRecOn with
  | nil => exact .new settings work reports
  | append_singleton moves move ih =>
    rw [Engine.notes_concat] at distinct ⊢
    rw [Engine.after_concat]
    exact (act_effect (inner move (by simp))).ledger
      (ih (fun move h => inner move (by simp [h])) distinct.early) distinct

/-- An entry at a moment of a course has been recorded since an earlier one, or has become of an entry of
    that time. -/
theorem mem_entries_after (inner : ∀ move ∈ early ++ late, move.isInner = true)
    (distinct : DistinctNames ((Engine.new settings work reports).notes (early ++ late)))
    {entry' : Entry}
    (h : entry' ∈ ((Engine.new settings work reports).after (early ++ late)).table.entries) :
    (∃ result, (entry'.job, result) ∈
      recordings (((Engine.new settings work reports).after early).notes late)) ∨
    ∃ entry ∈ ((Engine.new settings work reports).after early).table.entries,
      entry'.job = entry.job ∧ entry.result.Becomes entry'.result := by
  induction late using List.reverseRecOn generalizing entry' with
  | nil => exact .inr ⟨entry', by simpa using h, rfl, .refl _⟩
  | append_singleton late move ih =>
    rw [← List.append_assoc] at inner distinct h
    have inner' : ∀ move ∈ early ++ late, move.isInner = true := fun move h =>
      inner move (List.mem_append_left _ h)
    rw [Engine.notes_concat] at distinct
    rw [Engine.after_concat] at h
    rw [Engine.notes_concat, ← Engine.after_append, recordings_append]
    have ledger := ledger_after inner' distinct.early
    rcases (act_effect (inner move (by simp))).mem_entries ledger distinct h with
      ⟨result, hmem, _⟩ | ⟨middle, hmiddle, hjob, hbecomes⟩
    · exact .inl ⟨result, List.mem_append_right _ hmem⟩
    · rcases ih inner' distinct.early hmiddle with ⟨result, hmem⟩ | ⟨entry, hentry, hjob', hbecomes'⟩
      · exact .inl ⟨result, by rw [hjob]; exact List.mem_append_left _ hmem⟩
      · exact .inr ⟨entry, hentry, hjob.trans hjob', hbecomes'.trans hbecomes⟩

end

end NodeImages.Work
