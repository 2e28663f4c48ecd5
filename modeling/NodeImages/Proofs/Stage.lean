import NodeImages.Proofs.Table
import NodeImages.Work.Run

/-!
# Steps of deadline runs

What a run knows at a stage: the jobs of its batch (`Stage.batch`), the open ones among them that it has yet to
look into (`Stage.unseen`), the outcomes of those that it has looked into (`Stage.outcomes`), and, once the
batch is resolved, the jobs that are still to be deleted (`Stage.undeleted`).

`Run.Step` says once what a single step of a run makes of its stage and of the table, and which calls for the
deletion of jobs go with it (`Deletion`), short of the step that takes the batch out of the table. Every
function of a run that a call or the clock sets off is such a step (`look_step`, `onPods_step`, and so on).
-/

namespace NodeImages.Work

open Cluster

/-- What passes between the runs and the cluster about the deletion of jobs. -/
inductive Deletion
  /-- The cluster is asked to delete a job. -/
  | called (job : String)
  /-- The cluster has answered. -/
  | answered (job : String) (answer : Outcome Unit)
  deriving DecidableEq

namespace Stage

/-- The jobs of the batch, once it is fixed. -/
def batch : Stage → List JobId
  | listingPods batch _ _ _ | listingEvents batch _ _ _ _ | resolving batch _ | deleting batch _ _
  | collecting batch => batch
  | _ => []

/-- An open job under its id. -/
def copy (job : OpenJob) : JobId × Result := (.real job.1, job.2)

/-- The open jobs that have yet to be looked into, with their results so far. -/
def unseen : Stage → List (JobId × Result)
  | listingPods _ job rest _ => (job :: rest).map copy
  | listingEvents _ _ _ rest _ => rest.map copy
  | _ => []

/-- The outcomes of the open jobs that have been looked into. -/
def outcomes : Stage → List (JobId × Result)
  | listingPods _ _ _ resolved | resolving _ resolved => resolved
  | listingEvents _ job _ _ resolved => resolved ++ [copy job]
  | _ => []

/-- Whether the open jobs of the batch have been resolved. -/
def isResolved : Stage → Bool
  | deleting _ _ _ | collecting _ => true
  | _ => false

/-- The jobs of a resolved batch that are still to be deleted. -/
def undeleted : Stage → List String
  | deleting _ job rest => job :: rest
  | _ => []

/-- Whether a job is being deleted. -/
def isDeleting : Stage → Bool
  | deleting _ _ _ => true
  | _ => false

/-- The call that a run waits for when a job is being deleted. -/
def call : Stage → List Deletion
  | deleting _ job _ => [.called job]
  | _ => []

/-- The call that is made when a run comes to a stage, unless it has been made before. -/
def callTo (stage stage' : Stage) : List Deletion :=
  if stage.isDeleting then [] else stage'.call

/-- What passes when the cluster answers the deletion of a job: the answer, and the call for the next job. -/
def answerTo (answer : Outcome Unit) (stage stage' : Stage) : List Deletion :=
  match stage with
  | deleting _ job _ => .answered job answer :: stage'.call
  | _ => []

/-- When the wait of a run is over at the latest, if it waits. -/
def deadline? (plan : RunPlan) (now : Nat) : Stage → Option Nat
  | fresh => some (now + plan.deadlineMs)
  | sleeping deadline _ => some deadline
  | _ => none

theorem callTo_self (stage : Stage) : stage.callTo stage = [] := by
  cases stage <;> rfl

/-- The calls on the way to a stage depend only on what is called for there. -/
theorem callTo_congr (stage : Stage) {a b : Stage} (h : a.call = b.call) :
    stage.callTo a = stage.callTo b := by
  rw [callTo, callTo, h]

/-- So does what passes when the cluster answers a deletion. -/
theorem answerTo_congr (answer : Outcome Unit) (stage : Stage) {a b : Stage} (h : a.call = b.call) :
    stage.answerTo answer a = stage.answerTo answer b := by
  cases stage with
  | deleting batch job rest => rw [answerTo, answerTo, h]
  | _ => rfl

end Stage

namespace Run

variable {plan : RunPlan} {now : Nat} {table : Table} {stage : Stage} {batch : List JobId}
  {resolved : List (JobId × Result)}

/-! ## The next job of a batch -/

@[simp] theorem batch_deleteNext (jobs : List String) : (deleteNext batch jobs).batch = batch := by
  cases jobs <;> rfl

@[simp] theorem unseen_deleteNext (jobs : List String) : (deleteNext batch jobs).unseen = [] := by
  cases jobs <;> rfl

@[simp] theorem outcomes_deleteNext (jobs : List String) : (deleteNext batch jobs).outcomes = [] := by
  cases jobs <;> rfl

/-- The jobs that are yet to be deleted are all that were given. -/
@[simp] theorem undeleted_deleteNext (jobs : List String) : (deleteNext batch jobs).undeleted = jobs := by
  cases jobs <;> rfl

@[simp] theorem batch_listNext (jobs : List OpenJob) : (listNext batch resolved jobs).batch = batch := by
  cases jobs <;> rfl

/-- The jobs that are yet to be looked into are all that were given, as they were found. -/
@[simp] theorem unseen_listNext (jobs : List OpenJob) :
    (listNext batch resolved jobs).unseen = jobs.map Stage.copy := by
  cases jobs <;> rfl

@[simp] theorem outcomes_listNext (jobs : List OpenJob) :
    (listNext batch resolved jobs).outcomes = resolved := by
  cases jobs <;> rfl

@[simp] theorem isResolved_listNext (jobs : List OpenJob) :
    (listNext batch resolved jobs).isResolved = false := by
  cases jobs <;> rfl

/-! ## The batch -/

/-- The open jobs are the real jobs of the batch whose entries are pending. -/
theorem mem_openJobs {name : String} {result : Result} :
    (name, result) ∈ openJobs table batch ↔ .real name ∈ batch ∧
      ∃ entry ∈ table.entries, entry.job = .real name ∧ entry.isPending = true ∧
        entry.result = result := by
  rw [← Table.mem_pending, openJobs, List.mem_filterMap]
  constructor
  · rintro ⟨⟨job, result'⟩, hmem, h⟩
    cases job with
    | synthetic => exact absurd h (Option.some_ne_none _).symm
    | real other =>
      obtain ⟨rfl, rfl⟩ := Prod.mk.inj (Option.some.inj h)
      exact hmem
  · intro h
    exact ⟨(.real name, result), h, rfl⟩

/-- If no job is open, the deletions begin at once. -/
theorem fixBatch_eq :
    fixBatch plan table =
      if (openJobs table (table.jobsFor plan.cacheKey)).isEmpty then
        deleteNext (table.jobsFor plan.cacheKey)
          (table.jobsToDelete (table.jobsFor plan.cacheKey))
      else listNext (table.jobsFor plan.cacheKey) [] (openJobs table (table.jobsFor plan.cacheKey)) := by
  rw [fixBatch]
  cases openJobs table (table.jobsFor plan.cacheKey) <;> rfl

@[simp] theorem batch_fixBatch : (fixBatch plan table).batch = table.jobsFor plan.cacheKey := by
  rw [fixBatch_eq]
  split <;> simp

/-- When the batch is fixed, none of the open jobs has been looked into. -/
@[simp] theorem unseen_fixBatch :
    (fixBatch plan table).unseen =
      (openJobs table (table.jobsFor plan.cacheKey)).map Stage.copy := by
  rw [fixBatch_eq]
  split
  · rename_i h
    rw [List.isEmpty_iff.1 h, unseen_deleteNext, List.map_nil]
  · exact unseen_listNext _

@[simp] theorem outcomes_fixBatch : (fixBatch plan table).outcomes = [] := by
  rw [fixBatch_eq]
  split <;> simp

/-- If no job is open when the batch is fixed, all that is to be deleted is yet to be deleted. -/
theorem undeleted_fixBatch (h : (fixBatch plan table).isResolved = true) :
    (fixBatch plan table).undeleted = table.jobsToDelete (table.jobsFor plan.cacheKey) := by
  rw [fixBatch_eq] at h ⊢
  split at h
  · rename_i hempty
    rw [if_pos hempty, undeleted_deleteNext]
  · rw [isResolved_listNext] at h
    exact absurd h Bool.false_ne_true

/-! ## Expiry -/

/-- What a pod says of a job changes neither the request nor the status. -/
theorem podReason_eq (result : Result) (pod : Pod) :
    (podReason result pod).request = result.request ∧
      (podReason result pod).status = result.status := by
  rw [podReason]
  split <;> exact ⟨rfl, rfl⟩

/-- To give a reason to a result that has none changes neither of them. -/
theorem orExpired_eq (job : String) (pod : Pod) (result : Result) :
    (orExpired plan job pod result).request = result.request ∧
      (orExpired plan job pod result).status = result.status := by
  rw [orExpired]
  split <;> exact ⟨rfl, rfl⟩

/-- An open job that expires fails, for the same request. -/
theorem expire_eq (job : String) (pod : Pod) (result : Result) :
    (expire plan job pod result).request = result.request ∧
      (expire plan job pod result).status = .failed := by
  rw [expire]
  split
  · split
    · rw [(orExpired_eq job pod _).1, (orExpired_eq job pod _).2, (podReason_eq _ pod).1,
        (podReason_eq _ pod).2]
      exact ⟨rfl, rfl⟩
    · exact ⟨rfl, rfl⟩
  · rw [(orExpired_eq job pod _).1, (orExpired_eq job pod _).2]
    exact ⟨rfl, rfl⟩

/-! ## Steps -/

/-- What a step of a run makes of its stage and of the table, unless it takes the batch out of the table, and
    what passes about the deletion of jobs. -/
inductive Step (plan : RunPlan) (now : Nat) (table : Table) :
    Stage → List Deletion → Table → Stage → Prop
  /-- It does nothing. -/
  | idle (stage : Stage) : Step plan now table stage [] table stage
  /-- It waits on. -/
  | wait {stage : Stage} {deadline : Nat} (wake : Nat) :
      stage.deadline? plan now = some deadline →
      Step plan now table stage [] table (.sleeping deadline wake)
  /-- Its deadline cannot be told. -/
  | stick : Step plan now table .fresh [] table .stuck
  /-- Its wait is over, and it fixes the batch. -/
  | fix {stage : Stage} {deadline : Nat} :
      stage.deadline? plan now = some deadline →
      table.hasPendingFor plan.cacheKey = false ∨ deadline ≤ now →
      Step plan now table stage (fixBatch plan table).call table (fixBatch plan table)
  /-- It fails. -/
  | fail (stage : Stage) (failure : Failure) :
      Step plan now table stage [] table (.ended (.error failure))
  /-- An open job that takes an image off a node has expired. -/
  | expire {batch : List JobId} {job : OpenJob} {rest : List OpenJob}
      {resolved : List (JobId × Result)} (pod : Pod) :
      Step plan now table (.listingPods batch job rest resolved) [] table
        (listNext batch (resolved ++ [Stage.copy (job.1, Run.expire plan job.1 pod job.2)]) rest)
  /-- An open job that pulls an image has expired; there may be events that say why. -/
  | ask {batch : List JobId} {job : OpenJob} {rest : List OpenJob}
      {resolved : List (JobId × Result)} (pod : Pod) :
      Step plan now table (.listingPods batch job rest resolved) [] table
        (.listingEvents batch (job.1, Run.expire plan job.1 pod job.2) pod rest resolved)
  /-- The events of an expired job are known. -/
  | hear {batch : List JobId} {job : OpenJob} {pod : Pod} {rest : List OpenJob}
      {resolved : List (JobId × Result)} (events : List Event) :
      Step plan now table (.listingEvents batch job pod rest resolved) [] table
        (listNext batch (resolved ++ [Stage.copy (job.1, addEvents job.2 events)]) rest)
  /-- The open jobs are resolved. -/
  | resolve {batch : List JobId} {resolved : List (JobId × Result)} :
      Step plan now table (.resolving batch resolved)
        (deleteNext batch ((table.resolveAll resolved).jobsToDelete batch)).call
        (table.resolveAll resolved)
        (deleteNext batch ((table.resolveAll resolved).jobsToDelete batch))
  /-- A job is deleted. -/
  | delete {batch : List JobId} {job : String} {rest : List String} :
      Step plan now table (.deleting batch job rest)
        (.answered job (.ok ()) :: (deleteNext batch rest).call) (table.markDeleted (.real job))
        (deleteNext batch rest)
  /-- A job could not be deleted, and the run fails. -/
  | refuse {batch : List JobId} {job : String} {rest : List String} (cause failure : Failure) :
      Step plan now table (.deleting batch job rest) [.answered job (.error cause)] table
        (.ended (.error failure))

/-- While a run waits no job is being deleted, so that what it calls for next is new. -/
theorem callTo_of_deadline? {deadline : Nat} (h : stage.deadline? plan now = some deadline)
    (stage' : Stage) : stage.callTo stage' = stage'.call := by
  cases stage <;> first | rfl | exact absurd h (Option.some_ne_none _).symm

theorem call_listNext (jobs : List OpenJob) : (listNext batch resolved jobs).call = [] := by
  cases jobs <;> rfl

/-- A run that looks at the table waits on, or fixes its batch. -/
theorem inspect_step {deadline : Nat} (h : stage.deadline? plan now = some deadline) :
    Step plan now table stage (stage.callTo (inspect plan now deadline table)) table
      (inspect plan now deadline table) := by
  rw [inspect, callTo_of_deadline? h]
  split
  · rename_i hover
    rw [Bool.or_eq_true, Bool.not_eq_true', decide_eq_true_eq] at hover
    exact .fix h hover
  · exact .wait _ h

/-- A look that is due is an inspection; one that is not changes nothing. -/
theorem look_step :
    Step plan now table stage (stage.callTo (look plan now table stage)) table
      (look plan now table stage) := by
  cases stage with
  | fresh =>
    rw [look]
    split
    · exact .stick
    · exact inspect_step rfl
  | sleeping deadline wake =>
    rw [look]
    split
    · have hdeadline : (Stage.sleeping deadline wake).deadline? plan now = some deadline := rfl
      exact inspect_step hdeadline
    · exact .idle _
  | _ => exact .idle _

/-- A run is told to stop only while it waits; then it ends. -/
theorem cancel_step :
    Step plan now table stage (stage.callTo (cancel plan stage)) table (cancel plan stage) := by
  cases stage with
  | sleeping => exact .fail _ _
  | _ => exact .idle _

/-- The answer to the listing of pods is taken up by a run that waits for it, and makes no difference to
    others. -/
theorem onPods_step (answer : Outcome (List Pod)) :
    Step plan now table stage (stage.callTo (onPods plan answer stage)) table
      (onPods plan answer stage) := by
  cases stage with
  | listingPods batch job rest resolved =>
    rw [onPods.eq_def]
    dsimp only
    split
    · exact .fail _ _
    · exact .fail _ _
    · split
      · rw [Stage.callTo, call_listNext, ite_self]
        exact .expire _
      · exact .ask _
    · exact .fail _ _
  | _ => exact .idle _

/-- The answer to the listing of events is taken up by a run that waits for it. -/
theorem onEvents_step (answer : Outcome (List Event)) :
    Step plan now table stage (stage.callTo (onEvents plan answer stage)) table
      (onEvents plan answer stage) := by
  cases stage with
  | listingEvents batch job pod rest resolved =>
    cases answer with
    | error failure => exact .fail _ _
    | ok events =>
      rw [onEvents, Stage.callTo, call_listNext, ite_self]
      exact .hear _
  | _ => exact .idle _

/-- Only a run that has looked into all open jobs resolves them. -/
theorem resolve_step :
    Step plan now table stage (stage.callTo (resolve table stage).2) (resolve table stage).1
      (resolve table stage).2 := by
  cases stage with
  | resolving batch resolved => exact .resolve
  | _ => exact .idle _

/-- The answer to a deletion is taken up by a run that waits for it. -/
theorem onDeleted_step (answer : Outcome Unit) :
    Step plan now table stage (stage.answerTo answer (onDeleted plan answer table stage).2)
      (onDeleted plan answer table stage).1 (onDeleted plan answer table stage).2 := by
  cases stage with
  | deleting batch job rest =>
    cases answer with
    | error failure => exact .refuse _ _
    | ok => exact .delete
  | _ => exact .idle _

/-- A batch leaves the table together with its update; otherwise a run that collects takes a step like any
    other. -/
theorem collect_cases (plan : RunPlan) (now : Nat) (table : Table) (stage : Stage) :
    (∃ stage', collect plan table stage = (table, none, stage') ∧
      Step plan now table stage (stage.callTo stage') table stage') ∨
    (∃ batch, stage = .collecting batch ∧ table.results batch ≠ [] ∧
      collect plan table stage =
        (table.without batch, some ⟨plan.cacheKey, table.results batch⟩, .ended (.ok ()))) := by
  cases stage with
  | collecting batch =>
    rw [collect]
    split
    · exact .inl ⟨_, rfl, .fail _ _⟩
    · rename_i h
      exact .inr ⟨batch, rfl, fun hnil => h (List.isEmpty_iff.2 hnil), rfl⟩
  | _ => exact .inl ⟨_, rfl, .idle _⟩

end Run

end NodeImages.Work
