import NodeImages.Proofs.Confinement
import NodeImages.Proofs.Deadline
import NodeImages.Proofs.Ending

/-!
# Why a job has expired

When the deadline has come, a run fails the open jobs of its batch. Why a job has failed is taken from its only pod:
from what the container of the pod waits for, if the pod is pending and has one container, or else from that the pod is
not placed, or that the job took too long. The messages of the events of the pod are added, unless the job takes an
image off the node.

* `Explains`: what a pod says about the failure of its job; it is one reason and one message, and the reason is never
  empty (`explains_iff`);
* `AsRecorded`, `FoundOut`: what a run begins with, and what it has come to by the answers that it was given;
* `Explained`, `founded_after`: whatever a run has come to about an open job is explained, along every course;
* `expired_with_reason`: every open job of a batch is failed with the reason that its pod gives and the messages of
  all its events.
-/

namespace NodeImages

/-! ## What a pod explains -/

namespace Cluster.Pod

/-- What is known of the only container of a pod: what it waits for, or else how it terminated. -/
def detail? (pod : Pod) : Option StateDetail :=
  match pod.containers with
  | [some state] => state.waiting.or state.terminated
  | _ => none

end Cluster.Pod

namespace Work

open Cluster

/-- A pod explains why its job has failed: the reason and the message. -/
inductive Explains (deadlineMs : Nat) (job : String) (pod : Pod) : (reason message : String) → Prop
  /-- The pod is pending, and its only container says why. -/
  | container {detail : StateDetail} {reason : String} (phase : pod.phase = some "Pending")
      (told : pod.detail? = some detail) (given : detail.reason = some reason) (nonempty : reason ≠ "") :
      Explains deadlineMs job pod reason (detail.message.getD "")
  /-- The pod is pending, and has no container yet, or several. -/
  | unplaced (phase : pod.phase = some "Pending") (several : pod.containers.length ≠ 1) :
      Explains deadlineMs job pod "Pending" "Check if node is ready"
  /-- There is nothing to be said but that the job took too long. -/
  | late (rest : pod.phase = some "Pending" → pod.containers.length = 1 ∧
        ∀ detail, pod.detail? = some detail → detail.reason.getD "" = "") :
      Explains deadlineMs job pod "DeadlineExceeded"
        (s!"Job {job} did not complete within {deadlineMs / 1000}s (pod phase: " ++ pod.phase.getD "Unknown" ++ ")")

namespace Explains

variable {deadlineMs : Nat} {job reason reason' message message' : String} {pod : Pod}

theorem reason_ne (explains : Explains deadlineMs job pod reason message) : reason ≠ "" := by
  cases explains with
  | container _ _ _ nonempty => exact nonempty
  | unplaced | late => decide

/-- A pod of which the container is known has one container. -/
theorem length_of_detail? {detail : StateDetail} (told : pod.detail? = some detail) : pod.containers.length = 1 := by
  rw [Pod.detail?] at told
  split at told
  · rename_i one
    rw [one]
    rfl
  · exact absurd told (Option.some_ne_none _).symm

/-- A pod explains a failure in one way. -/
theorem unique (explains : Explains deadlineMs job pod reason message)
    (explains' : Explains deadlineMs job pod reason' message') : reason = reason' ∧ message = message' := by
  -- A container that says why is the only one, and it is no other than itself.
  cases explains with
  | container phase told given nonempty =>
    cases explains' with
    | container _ told' given' =>
      obtain rfl := Option.some.inj (told.symm.trans told')
      exact ⟨Option.some.inj (given.symm.trans given'), rfl⟩
    | unplaced _ several => exact absurd (length_of_detail? told) several
    | late rest =>
      have silent := (rest phase).2 _ told
      rw [given] at silent
      exact absurd silent nonempty
  | unplaced phase several =>
    cases explains' with
    | container _ told => exact absurd (length_of_detail? told) several
    | unplaced => exact ⟨rfl, rfl⟩
    | late rest => exact absurd (rest phase).1 several
  | late rest =>
    cases explains' with
    | container phase told given nonempty =>
      have silent := (rest phase).2 _ told
      rw [given] at silent
      exact absurd silent nonempty
    | unplaced phase several => exact absurd (rest phase).1 several
    | late => exact ⟨rfl, rfl⟩

end Explains

namespace Run

variable {plan : RunPlan} {job : String} {pod : Pod} {found : Result}

theorem podReason_eq_detail (result : Result) (pod : Pod) :
    podReason result pod = (pod.detail?.map fun detail =>
      { result with reason := detail.reason.getD "", message := detail.message.getD "" }).getD result := by
  rw [podReason, Pod.detail?]
  rcases pod.containers with _ | ⟨_ | ⟨_ | _, _ | _⟩, _ | ⟨_, _⟩⟩ <;> rfl

theorem orExpired_of_reason (given : found.reason ≠ "") : orExpired plan job pod found = found := by
  rw [orExpired, if_neg (by simpa using given)]

/-- A job that took too long is given the reason for that, if it has no other. -/
theorem explains_orExpired (blank : found.reason = "")
    (rest : pod.phase = some "Pending" → pod.containers.length = 1 ∧
      ∀ detail, pod.detail? = some detail → detail.reason.getD "" = "") :
    ∃ reason message, Explains plan.deadlineMs job pod reason message ∧
      orExpired plan job pod found = ⟨found.request, found.status, reason, message⟩ := by
  refine ⟨_, _, .late rest, ?_⟩
  rw [orExpired, if_pos (by rw [blank]; rfl)]
  rfl

/-- An open job that has been given no reason yet is failed for the one that its pod explains. -/
theorem explains_expire (plan : RunPlan) (job : String) (pod : Pod) (blank : found.reason = "") :
    ∃ reason message, Explains plan.deadlineMs job pod reason message ∧
      expire plan job pod found = ⟨found.request, .failed, reason, message⟩ := by
  rw [expire]
  by_cases phase : pod.phase = some Pod.pendingPhase
  · rw [if_pos phase]
    by_cases one : pod.containers.length = 1
    · rw [if_pos one, podReason_eq_detail]
      cases told : pod.detail? with
      | none => exact explains_orExpired blank fun _ => ⟨one, fun _ h => absurd (told.symm.trans h) (by simp)⟩
      | some detail =>
        -- The reason of the container counts, unless it is empty.
        by_cases silent : detail.reason.getD "" = ""
        · refine explains_orExpired silent fun _ => ⟨one, fun other h => ?_⟩
          rwa [← Option.some.inj (told.symm.trans h)]
        · obtain ⟨reason, given⟩ : ∃ reason, detail.reason = some reason :=
            Option.ne_none_iff_exists'.1 fun none => silent (by rw [none]; rfl)
          have nonempty : reason ≠ "" := by rwa [given, Option.getD_some] at silent
          refine ⟨reason, _, .container phase told given nonempty, ?_⟩
          rw [Option.map_some, Option.getD_some, orExpired_of_reason silent, given, Option.getD_some]
    · rw [if_neg one]
      exact ⟨_, _, .unplaced phase one, rfl⟩
  · rw [if_neg phase]
    exact explains_orExpired blank fun pending => absurd pending phase

end Run

/-- For every pod, there is one reason and one message, and the reason is not empty. -/
theorem explains_iff (deadlineMs : Nat) (job : String) (pod : Pod) :
    ∃ reason message, reason ≠ "" ∧ ∀ reason' message',
      Explains deadlineMs job pod reason' message' ↔ reason' = reason ∧ message' = message := by
  let plan : RunPlan := { cacheKey := "", deadlineMs, pollMs := 0, lastTime := 0 }
  let found : Result := { request := default, status := .jobCreated }
  have blank : found.reason = "" := rfl
  obtain ⟨reason, message, explains, -⟩ := Run.explains_expire plan job pod blank
  refine ⟨reason, message, explains.reason_ne, fun reason' message' => ⟨fun other => other.unique explains, ?_⟩⟩
  rintro ⟨rfl, rfl⟩
  exact explains

/-! ## What events add -/

/-- The messages of events as they are added to that of a result: those that there are, in order. -/
def eventText (events : List Event) : String :=
  String.join ((events.filterMap (·.message)).map (":" ++ ·))

theorem Run.addEvents_eq (result : Result) (events : List Event) :
    addEvents result events = { result with message := result.message ++ eventText events } := by
  have joined (messages : List String) (text : String) :
      messages.foldl (fun text m => text ++ ":" ++ m) text = text ++ String.join (messages.map (":" ++ ·)) := by
    induction messages generalizing text with
    | nil => rw [List.foldl_nil, List.map_nil, String.join_nil, String.append_empty]
    | cons first rest ih =>
      rw [List.foldl_cons, ih, List.map_cons, String.join_cons, String.append_assoc, String.append_assoc,
        String.append_assoc]
  rw [addEvents, joined, eventText]

/-! ## What a run has found out -/

/-- The entry of a job is as it was recorded when the job was created. -/
structure AsRecorded (notes : List Note) (name : String) (found : Result) : Prop where
  recorded : .recorded (.real name) found ∈ notes
  status : found.status = .jobCreated
  reason : found.reason = ""
  message : found.message = ""

/-- The open entries of a table are as they were recorded. -/
def OpenAsRecorded (notes : List Note) (table : Table) : Prop :=
  ∀ entry ∈ table.entries, entry.isPending = true →
    ∃ name, entry.job = .real name ∧ AsRecorded notes name entry.result

section

variable (start : Engine) (moves : List Move) (number : Nat)

/-- A run was given an answer to a call that it waited for. -/
def Answered (call : Call) (answer : Move) : Prop :=
  Occurs moves fun early move => move = answer ∧ ((start.after early).stageOf number).awaits = some call

/-- A run was given the only pod of a job, and has failed the job for what the pod explains. -/
structure Shown (name : String) (pod : Pod) (result : Result) : Prop where
  open' : ∃ found, AsRecorded (start.notes moves) name found ∧ result.request = found.request
  listed : Answered start moves number (.pods name) (.pods number (.ok [pod]))
  status : result.status = .failed
  explains : Explains start.settings.deadlineMs name pod result.reason result.message

/-- A run has found out why a job has expired. -/
inductive FoundOut (name : String) : Result → Prop
  /-- The job takes an image off the node: what the pod explains is all. -/
  | removal {pod : Pod} {result : Result} (shown : Shown start moves number name pod result)
      (purge : result.request.kind = .purge) : FoundOut name result
  /-- The job pulls an image: the messages of all events of the pod are added. -/
  | pull {pod : Pod} {result : Result} {events : List Event} (shown : Shown start moves number name pod result)
      (pull : result.request.kind ≠ .purge)
      (listed : Answered start moves number (.events name pod) (.events number (.ok events))) :
      FoundOut name { result with message := result.message ++ eventText events }

/-- The results that a run has come to about the open jobs of its batch. -/
def AllFoundOut (resolved : List (JobId × Result)) : Prop :=
  ∀ outcome ∈ resolved, ∃ name, outcome.1 = .real name ∧ FoundOut start moves number name outcome.2

/-- The jobs that a run is yet to look into are as they were recorded. -/
def Awaits (jobs : List OpenJob) : Prop :=
  ∀ job ∈ jobs, AsRecorded (start.notes moves) job.1 job.2

/-- A run keeps account of the open jobs of its batch. -/
def Explained : Stage → Prop
  | .listingPods _ job rest resolved =>
    Awaits start moves (job :: rest) ∧ AllFoundOut start moves number resolved
  | .listingEvents _ job pod rest resolved =>
    (Shown start moves number job.1 pod job.2 ∧ job.2.request.kind ≠ .purge) ∧
      Awaits start moves rest ∧ AllFoundOut start moves number resolved
  | .resolving _ resolved => AllFoundOut start moves number resolved
  | _ => True

end

variable {start : Engine} {moves : List Move} {move : Move} {number : Nat} {name : String} {pod : Pod}
  {result : Result} {stage : Stage} {batch : List JobId} {resolved : List (JobId × Result)}

theorem AsRecorded.append {notes : List Note} (h : AsRecorded notes name result) (late : List Note) :
    AsRecorded (notes ++ late) name result :=
  { h with recorded := List.mem_append_left _ h.recorded }

theorem AsRecorded.concat (h : AsRecorded (start.notes moves) name result) (move : Move) :
    AsRecorded (start.notes (moves ++ [move])) name result := by
  rw [Engine.notes_concat]
  exact h.append _

theorem Shown.concat (h : Shown start moves number name pod result) (move : Move) :
    Shown start (moves ++ [move]) number name pod result :=
  { h with
    open' := let ⟨found, recorded, request⟩ := h.open'; ⟨found, recorded.concat move, request⟩
    listed := Occurs.concat h.listed move }

theorem FoundOut.concat (h : FoundOut start moves number name result) (move : Move) :
    FoundOut start (moves ++ [move]) number name result := by
  cases h with
  | removal shown purge => exact .removal (shown.concat move) purge
  | pull shown pull listed => exact .pull (shown.concat move) pull (Occurs.concat listed move)

theorem FoundOut.status (h : FoundOut start moves number name result) : result.status = .failed := by
  cases h with
  | removal shown | pull shown => exact shown.status

theorem FoundOut.reason_ne (h : FoundOut start moves number name result) : result.reason ≠ "" := by
  cases h with
  | removal shown | pull shown => exact shown.explains.reason_ne

theorem AllFoundOut.concat (h : AllFoundOut start moves number resolved) (move : Move) :
    AllFoundOut start (moves ++ [move]) number resolved := by
  intro outcome houtcome
  obtain ⟨name, hname, found⟩ := h outcome houtcome
  exact ⟨name, hname, found.concat move⟩

/-- One more job has been looked into. -/
theorem AllFoundOut.append (h : AllFoundOut start moves number resolved)
    (found : FoundOut start moves number name result) :
    AllFoundOut start moves number (resolved ++ [(.real name, result)]) := by
  intro outcome houtcome
  rcases List.mem_append.1 houtcome with houtcome | houtcome
  · exact h outcome houtcome
  · rw [List.mem_singleton.1 houtcome]
    exact ⟨name, rfl, found⟩

theorem Awaits.tail {job : OpenJob} {jobs : List OpenJob} (h : Awaits start moves (job :: jobs)) :
    Awaits start moves jobs := fun other hother => h other (.tail _ hother)

theorem Awaits.concat {jobs : List OpenJob} (h : Awaits start moves jobs) (move : Move) :
    Awaits start (moves ++ [move]) jobs := fun job hjob => (h job hjob).concat move

namespace Explained

theorem concat (h : Explained start moves number stage) (move : Move) :
    Explained start (moves ++ [move]) number stage := by
  cases stage with
  | listingPods => exact ⟨h.1.concat move, h.2.concat move⟩
  | listingEvents => exact ⟨⟨h.1.1.concat move, h.1.2⟩, h.2.1.concat move, h.2.2.concat move⟩
  | resolving => exact AllFoundOut.concat h move
  | _ => trivial

theorem listNext {jobs : List OpenJob} (awaits : Awaits start moves jobs)
    (outcomes : AllFoundOut start moves number resolved) :
    Explained start moves number (Run.listNext batch resolved jobs) := by
  cases jobs with
  | nil => exact outcomes
  | cons => exact ⟨awaits, outcomes⟩

theorem deleteNext (jobs : List String) : Explained start moves number (Run.deleteNext batch jobs) := by
  cases jobs <;> trivial

/-- A run whose wait is over takes the open jobs from the table, in which they are as they were recorded. -/
theorem inspect {plan : RunPlan} {table : Table} (now deadline : Nat)
    (open' : OpenAsRecorded (start.notes moves) table) :
    Explained start moves number (Run.inspect plan now deadline table) := by
  rw [Run.inspect]
  split
  · rw [Run.fixBatch_eq]
    split
    · exact deleteNext _
    · refine listNext (fun job hjob => ?_) fun _ h => absurd h List.not_mem_nil
      obtain ⟨-, entry, hentry, hname, pending, hresult⟩ := Run.mem_openJobs.1 hjob
      obtain ⟨name, hname', recorded⟩ := open' entry hentry pending
      obtain rfl := JobId.real.inj (hname.symm.trans hname')
      exact hresult ▸ recorded
  · trivial

end Explained

/-! ## One move -/

theorem Run.kind_expire (plan : RunPlan) (job : String) (pod : Pod) (found : Result) :
    (expire plan job pod found).request.kind = found.request.kind :=
  congrArg Request.kind (expire_eq job pod found).1

/-- The stage that a run comes to when it is given the only pod of a job. -/
theorem Run.onPods_one (plan : RunPlan) (job : OpenJob) (rest : List OpenJob) (pod : Pod) :
    onPods plan (.ok [pod]) (.listingPods batch job rest resolved) =
      if job.2.request.kind = .purge then
        listNext batch (resolved ++ [(.real job.1, expire plan job.1 pod job.2)]) rest
      else .listingEvents batch (job.1, expire plan job.1 pod job.2) pod rest resolved := by
  rw [onPods, kind_expire]
  exact if_congr Kind.removes_iff rfl rfl

/-- A run that is given the only pod of a job fails it for what the pod explains. -/
theorem shown_of_listing {plan : RunPlan} {job : OpenJob} {rest : List OpenJob}
    (deadline : plan.deadlineMs = start.settings.deadlineMs)
    (hstage : (start.after moves).stageOf number = .listingPods batch job rest resolved)
    (open' : AsRecorded (start.notes moves) job.1 job.2) (pod : Pod) :
    Shown start (moves ++ [.pods number (.ok [pod])]) number job.1 pod (Run.expire plan job.1 pod job.2) := by
  obtain ⟨reason, message, explains, expired⟩ := Run.explains_expire plan job.1 pod open'.reason
  rw [expired]
  exact ⟨⟨job.2, open'.concat _, rfl⟩, Occurs.last ⟨rfl, by rw [hstage]; rfl⟩, rfl, deadline ▸ explains⟩

/-- In a move of its own, a run keeps account of the open jobs. -/
theorem explained_nextStage {run : ActiveRun} (own : move.run? = some run.number)
    (hrun : (start.after moves).run? run.number = some run)
    (hsettings : (start.after moves).settings = start.settings)
    (open' : OpenAsRecorded (start.notes moves) (start.after moves).table)
    (explained : Explained start moves run.number run.stage) :
    Explained start (moves ++ [move]) run.number ((start.after moves).nextStage run move) := by
  have advance : Advance (start.after moves) run move _ := advance_of_own own
  have hstage := Engine.stageOf_of_run? hrun
  have deadline : ((start.after moves).plan run.cacheKey).deadlineMs = start.settings.deadlineMs := by
    rw [Engine.plan, hsettings]
  generalize hnext : (start.after moves).nextStage run move = stage at advance
  cases advance with
  | stay => exact explained.concat move
  | inspect => exact (Explained.inspect _ _ open').concat _
  | @expire batch job rest resolved pod hlisting =>
    rw [hlisting] at explained hstage
    have shown := shown_of_listing deadline hstage (explained.1 job (.head _)) pod
    -- The run goes on at once with work that takes an image off the node only.
    have purge : job.2.request.kind = .purge := by
      by_contra pull
      rw [Engine.nextStage, hlisting, Run.onPods_one, if_neg pull] at hnext
      cases rest <;> exact Stage.noConfusion hnext
    refine .listNext (explained.1.tail.concat _) ((explained.2.concat _).append ?_)
    exact .removal shown ((Run.kind_expire ..).trans purge)
  | @ask batch job rest resolved pod hlisting =>
    rw [hlisting] at explained hstage
    have shown := shown_of_listing deadline hstage (explained.1 job (.head _)) pod
    have pull : job.2.request.kind ≠ .purge := by
      intro purge
      rw [Engine.nextStage, hlisting, Run.onPods_one, if_pos purge] at hnext
      cases rest <;> exact Stage.noConfusion hnext
    refine ⟨⟨shown, fun purge => ?_⟩, explained.1.tail.concat _, explained.2.concat _⟩
    exact pull ((Run.kind_expire ..).symm.trans purge)
  | @hear batch job pod rest resolved events hlisting =>
    rw [hlisting] at explained hstage
    obtain ⟨⟨shown, pull⟩, awaits, outcomes⟩ := explained
    refine .listNext (awaits.concat _) ((outcomes.concat _).append ?_)
    rw [Run.addEvents_eq]
    exact .pull (shown.concat _) pull (Occurs.last ⟨rfl, by rw [hstage]; rfl⟩)
  | resolve | delete => exact .deleteNext _
  | _ => trivial

/-! ## Open entries -/

/-- A step of a run opens no entry, and leaves those alone that stay open. -/
theorem Run.Step.mem_open {plan : RunPlan} {now : Nat} {table table' : Table} {stage' : Stage}
    {deletions : List Deletion} (step : Run.Step plan now table stage deletions table' stage')
    (closed : ∀ outcome ∈ stage.outcomes, outcome.2.status = .failed) {entry' : Entry}
    (h : entry' ∈ table'.entries) (pending : entry'.isPending = true) :
    ∃ entry ∈ table.entries, entry.job = entry'.job ∧ entry.result = entry'.result := by
  cases step with
  | @resolve batch resolved =>
    have settled : ∀ outcome ∈ resolved, outcome.2.status.isPending = false := by
      intro outcome houtcome
      rw [closed outcome houtcome]
      rfl
    obtain ⟨entry, hentry, hjob, -, ⟨-, houtcome⟩ | ⟨-, hresult⟩⟩ := Table.mem_resolveAll settled h
    · -- An entry that has just been resolved is not open.
      rw [Entry.isPending, settled _ houtcome] at pending
      exact absurd pending Bool.false_ne_true
    · exact ⟨entry, hentry, hjob.symm, hresult.symm⟩
  | delete =>
    obtain ⟨entry, hentry, hjob, hresult, -⟩ := Table.mem_markDeleted h
    exact ⟨entry, hentry, hjob.symm, hresult.symm⟩
  | _ => exact ⟨entry', h, rfl, rfl⟩

/-- After a move, an open entry has just been recorded, or it was there before. -/
theorem Effect.openAsRecorded {engine engine' : Engine} {notes late : List Note} {deletions : List Deletion}
    (effect : Effect engine move engine' late deletions)
    (closed : ∀ run ∈ engine.runs, ∀ outcome ∈ run.stage.outcomes, outcome.2.status = .failed)
    (open' : OpenAsRecorded notes engine.table) : OpenAsRecorded (notes ++ late) engine'.table := by
  intro entry' hentry' pending
  have before {entry : Entry} (hentry : entry ∈ engine.table.entries) (hjob : entry.job = entry'.job)
      (hresult : entry.result = entry'.result) :
      ∃ name, entry'.job = .real name ∧ AsRecorded (notes ++ late) name entry'.result := by
    obtain ⟨name, hname, recorded⟩ := open' entry hentry (by rwa [Entry.isPending, hresult])
    exact ⟨name, hjob.symm.trans hname, hresult ▸ recorded.append late⟩
  cases effect with
  | rest table | start _ _ _ table => exact before (table ▸ hentry') rfl rfl
  | record job result kind table _ hnotes =>
    rcases Table.mem_put (table ▸ hentry') with rfl | hentry
    · obtain ⟨reason, message, ⟨⟨name, rfl, -⟩, status⟩ | ⟨-, -, status⟩⟩ := kind
      · exact ⟨name, rfl, by simp [hnotes], status, reason, message⟩
      · rw [Entry.isPending, status] at pending
        exact absurd pending Bool.false_ne_true
    · exact before hentry rfl rfl
  | settle pod _ table =>
    obtain ⟨entry, hentry, hjob, -, same | ⟨-, settled, -⟩⟩ := Table.mem_settlePod (table ▸ hentry')
    · exact before hentry hjob.symm same.symm
    · rw [Entry.isPending, Status.isPending_iff] at pending
      rw [pending] at settled
      exact absurd settled (by decide)
  | step run _ mem step =>
    obtain ⟨entry, hentry, hjob, hresult⟩ := step.mem_open (closed run (Engine.mem_of_run? mem).1) hentry' pending
    exact before hentry hjob hresult
  | collect _ batch _ _ _ table =>
    rw [table, Table.mem_without] at hentry'
    exact before hentry'.1 rfl rfl

/-! ## Courses -/

theorem Explained.closed (explained : Explained start moves number stage) :
    ∀ outcome ∈ stage.outcomes, outcome.2.status = .failed := by
  have settled {resolved : List (JobId × Result)} (outcomes : AllFoundOut start moves number resolved) :
      ∀ outcome ∈ resolved, outcome.2.status = .failed := by
    intro outcome houtcome
    obtain ⟨name, -, found⟩ := outcomes outcome houtcome
    exact found.status
  cases stage with
  | listingPods => exact settled explained.2
  | listingEvents =>
    intro outcome houtcome
    rcases List.mem_append.1 houtcome with houtcome | houtcome
    · exact settled explained.2.2 outcome houtcome
    · rw [List.mem_singleton.1 houtcome]
      exact explained.1.1.status
  | resolving => exact settled explained
  | _ => exact fun _ h => absurd h List.not_mem_nil

/-- What a course keeps: open entries are as they were recorded, and what runs have come to is explained. -/
structure Founded (start : Engine) (moves : List Move) : Prop where
  numbered : (start.after moves).Numbered
  entries : OpenAsRecorded (start.notes moves) (start.after moves).table
  runs : ∀ run ∈ (start.after moves).runs, Explained start moves run.number run.stage

theorem founded_after {settings : Settings} {work reports : QueueConfig}
    (inner : ∀ move ∈ moves, move.isInner = true) : Founded (.new settings work reports) moves := by
  induction moves using List.reverseRecOn with
  | nil => exact ⟨⟨.nil, fun _ h => absurd h List.not_mem_nil⟩, fun _ h => absurd h List.not_mem_nil,
      fun _ h => absurd h List.not_mem_nil⟩
  | append_singleton moves move ih =>
    have inner' : ∀ move ∈ moves, move.isInner = true := fun move h => inner move (by simp [h])
    obtain ⟨numbered, entries, runs⟩ := ih inner'
    have effect : Effect ((Engine.new settings work reports).after moves) move _ _ _ :=
      act_effect (inner move (by simp))
    refine ⟨?_, ?_, ?_⟩
    · rw [Engine.after_concat]
      exact effect.numbered numbered
    · rw [Engine.after_concat, Engine.notes_concat]
      exact effect.openAsRecorded (fun run h => (runs run h).closed) entries
    · rw [Engine.after_concat]
      exact effect.forall_runs numbered (fun run h => (runs run h).concat move) (fun _ => trivial)
        fun run h hrun own => explained_nextStage own hrun (settings_after inner') entries (runs run h)

namespace Engine

variable {engine : Engine}

/-- A run that has not ended is there. -/
theorem run?_of_stageOf (h : engine.stageOf number = stage) (going : ∀ outcome, stage ≠ .ended outcome) :
    ∃ run, engine.run? number = some run ∧ run.number = number ∧ run.stage = stage := by
  cases found : engine.run? number with
  | none =>
    rw [stageOf, found] at h
    exact absurd h.symm (going _)
  | some run => exact ⟨run, rfl, (mem_of_run? found).2, (stageOf_of_run? found).symm.trans h⟩

/-- While others move, a run stays where it is. -/
theorem stageOf_after_of_others (h : engine.stageOf number = stage) (going : ∀ outcome, stage ≠ .ended outcome)
    (others : ∀ move ∈ moves, move.run? ≠ some number) : (engine.after moves).stageOf number = stage := by
  induction moves generalizing engine with
  | nil => exact h
  | cons move rest ih =>
    obtain ⟨run, found, rfl, hstage⟩ := run?_of_stageOf h going
    have found' := run?_act_of_other (others move (.head _)) found
    exact ih ((stageOf_of_run? found').trans hstage) fun move hmove => others move (.tail _ hmove)

/-- A run that goes on in a move of its own comes to its next stage. -/
theorem stageOf_act_of_own {run : ActiveRun} (found : engine.run? run.number = some run)
    (own : move.run? = some run.number) (heeds : engine.heeds move = true) (next : engine.nextStage run move = stage)
    (going : ∀ outcome, stage ≠ .ended outcome) : (engine.act move).1.stageOf run.number = stage := by
  subst next
  exact stageOf_of_run? ((Comes.of_own own found heeds).going going)

end Engine

theorem Run.listNext_ne_ended (jobs : List OpenJob) (outcome : Outcome Unit) :
    listNext batch resolved jobs ≠ .ended outcome := by
  cases jobs <;> exact Stage.noConfusion

/-- A run that is given the only pod of an open job goes on, with what the pod explains. -/
theorem stageOf_given_pod {engine : Engine} {found : Result} {rest : List OpenJob} {reason message : String}
    (hstage : engine.stageOf number = .listingPods batch (name, found) rest resolved)
    (blank : found.reason = "") (explains : Explains engine.settings.deadlineMs name pod reason message) :
    (engine.act (.pods number (.ok [pod]))).1.stageOf number =
      if found.request.kind = .purge then
        Run.listNext batch (resolved ++ [(.real name, ⟨found.request, .failed, reason, message⟩)]) rest
      else .listingEvents batch (name, ⟨found.request, .failed, reason, message⟩) pod rest resolved := by
  obtain ⟨run, hrun, rfl, hlisting⟩ := Engine.run?_of_stageOf hstage fun _ => Stage.noConfusion
  obtain ⟨_, _, explains', expired⟩ := Run.explains_expire (engine.plan run.cacheKey) name pod blank
  obtain ⟨rfl, rfl⟩ := explains.unique explains'
  refine Engine.stageOf_act_of_own hrun rfl rfl ?_ fun outcome => ?_
  · rw [Engine.nextStage, hlisting, Run.onPods_one, expired]
  · split
    · exact Run.listNext_ne_ended _ _
    · exact Stage.noConfusion

/-- A run that is given the events of the pod of an open job goes on, with their messages added. -/
theorem stageOf_given_events {engine : Engine} {rest : List OpenJob}
    (hstage : engine.stageOf number = .listingEvents batch (name, result) pod rest resolved) (events : List Event) :
    (engine.act (.events number (.ok events))).1.stageOf number =
      Run.listNext batch
        (resolved ++ [(.real name, { result with message := result.message ++ eventText events })]) rest := by
  obtain ⟨run, hrun, rfl, hlisting⟩ := Engine.run?_of_stageOf hstage fun _ => Stage.noConfusion
  refine Engine.stageOf_act_of_own hrun rfl rfl ?_ (Run.listNext_ne_ended _)
  rw [Engine.nextStage, hlisting, Run.onEvents, Run.addEvents_eq]

/-- When the open jobs of a batch are resolved, each of them that is still open is given the result that the run has
    found out. -/
theorem get?_expire {engine : Engine} (hstage : engine.stageOf number = .resolving batch resolved)
    (outcomes : AllFoundOut start moves number resolved) {job : JobId} (hjob : job ∈ resolved.map Prod.fst)
    (pending : engine.table.isPending job = true) :
    ∃ name result, job = .real name ∧ FoundOut start moves number name result ∧
      (engine.act (.expire number)).1.table.get? job = some result := by
  obtain ⟨run, hrun, rfl, hresolving⟩ := Engine.run?_of_stageOf hstage fun _ => Stage.noConfusion
  obtain ⟨entry, hentry, rfl, hopen⟩ := Table.isPending_iff.1 pending
  rw [table_expire, hrun]
  dsimp only
  rw [hresolving]
  have closed : ∀ outcome ∈ resolved, outcome.2.status.isPending = false := by
    intro outcome houtcome
    obtain ⟨name, -, found⟩ := outcomes outcome houtcome
    rw [found.status]
    rfl
  have hjobs := Table.mem_jobs.2 ⟨entry, hentry, rfl⟩
  rw [← Table.jobs_resolveAll resolved] at hjobs
  obtain ⟨entry', hentry', same⟩ := Table.mem_jobs.1 hjobs
  obtain ⟨other, hother, same', -, ⟨-, houtcome⟩ | ⟨none, -⟩⟩ := Table.mem_resolveAll closed hentry'
  · obtain ⟨name, hname, found⟩ := outcomes _ houtcome
    exact ⟨name, entry'.result, (same.symm.trans same').trans hname, found,
      Table.get?_eq_some_iff.2 ⟨entry', hentry', same, rfl⟩⟩
  · obtain rfl := Table.unique hother hentry (same'.symm.trans same)
    exact absurd hjob (none hopen)

/-- No open entry of the batch has been forgotten when the open jobs are resolved, so long as each job is recorded
    once. -/
theorem mem_resolved_of_pending {settings : Settings} {work reports : QueueConfig}
    (inner : ∀ move ∈ moves, move.isInner = true)
    (distinct : DistinctNames ((Engine.new settings work reports).notes moves))
    (hstage : ((Engine.new settings work reports).after moves).stageOf number = .resolving batch resolved)
    {job : JobId} (hjob : job ∈ batch)
    (pending : ((Engine.new settings work reports).after moves).table.isPending job = true) :
    job ∈ resolved.map Prod.fst := by
  obtain ⟨run, hrun, rfl, hresolving⟩ := Engine.run?_of_stageOf hstage fun _ => Stage.noConfusion
  have accounts := accounts_after inner distinct run (Engine.mem_of_run? hrun).1
  rw [hresolving] at accounts
  obtain ⟨entry, hentry, rfl, hopen⟩ := Table.isPending_iff.1 pending
  exact accounts entry hentry hjob hopen

/-- Why a job has expired is always told. In a course, a run works with open jobs as they were recorded, with no
    reason and no message.

    * When it is given the only pod of such a job, whatever the pod is like, there is one reason that the pod explains,
      which is not empty, and one message. A run that takes an image off the node goes on at once; one that pulls it
      asks for the events of that pod, and adds the messages of all that there are, whatever others do meanwhile.
    * So it never asks for the events of a pod that takes an image off a node.
    * When the open jobs are resolved, each of them that is still open is failed with the reason and the message that
      the run has found out from its only pod, and from its events if it pulls an image. These are all jobs of the
      batch that are still open, so long as each job is recorded once. -/
theorem expired_with_reason (settings : Settings) (work reports : QueueConfig) (moves : List Move)
    (inner : ∀ move ∈ moves, move.isInner = true) :
    let start := Engine.new settings work reports
    let engine := start.after moves
    (∀ number batch name found rest resolved pod,
      engine.stageOf number = .listingPods batch (name, found) rest resolved →
      AsRecorded (start.notes moves) name found ∧ ∃ reason message, reason ≠ "" ∧
        (∀ reason' message', Explains settings.deadlineMs name pod reason' message' ↔
          reason' = reason ∧ message' = message) ∧
        let given := (engine.act (.pods number (.ok [pod]))).1
        (found.request.kind = .purge → given.stageOf number =
          Run.listNext batch (resolved ++ [(.real name, ⟨found.request, .failed, reason, message⟩)]) rest) ∧
        (found.request.kind ≠ .purge → ∀ others, (∀ move ∈ others, move.run? ≠ some number) →
          ((given.after others).stageOf number).awaits = some (.events name pod) ∧
          ∀ events, ((given.after others).act (.events number (.ok events))).1.stageOf number =
            Run.listNext batch
              (resolved ++ [(.real name, ⟨found.request, .failed, reason, message ++ eventText events⟩)]) rest)) ∧
    (∀ number name pod, (engine.stageOf number).awaits = some (.events name pod) →
      ∃ found, AsRecorded (start.notes moves) name found ∧ found.request.kind ≠ .purge) ∧
    ∀ number batch resolved, engine.stageOf number = .resolving batch resolved →
      (∀ job ∈ resolved.map Prod.fst, engine.table.isPending job = true → ∃ name result, job = .real name ∧
        FoundOut start moves number name result ∧ result.status = .failed ∧ result.reason ≠ "" ∧
          (engine.act (.expire number)).1.table.get? job = some result) ∧
      (DistinctNames (start.notes moves) → ∀ job ∈ batch, engine.table.isPending job = true →
        job ∈ resolved.map Prod.fst) := by
  intro start engine
  have account {number : Nat} {stage : Stage} (h : engine.stageOf number = stage)
      (going : ∀ outcome, stage ≠ .ended outcome) : Explained start moves number stage := by
    obtain ⟨run, hrun, rfl, rfl⟩ := Engine.run?_of_stageOf h going
    exact (founded_after inner).runs run (Engine.mem_of_run? hrun).1
  refine ⟨fun number batch name found rest resolved pod hstage => ?_, fun number name pod hawaits => ?_,
    fun number batch resolved hstage =>
      ⟨fun job hjob pending => ?_, fun distinct job => mem_resolved_of_pending inner distinct hstage⟩⟩
  · have recorded : AsRecorded (start.notes moves) name found :=
      (account hstage fun _ => Stage.noConfusion).1 (name, found) (.head _)
    obtain ⟨reason, message, nonempty, only⟩ := explains_iff settings.deadlineMs name pod
    have explains := (only reason message).2 ⟨rfl, rfl⟩
    have hsettings : engine.settings = settings := settings_after inner
    have given := stageOf_given_pod hstage recorded.reason (hsettings ▸ explains)
    refine ⟨recorded, reason, message, nonempty, only, fun purge => ?_, fun pull others hothers => ?_⟩
    · rw [given, if_pos purge]
    · rw [if_neg pull] at given
      have waits := Engine.stageOf_after_of_others given (fun _ => Stage.noConfusion) hothers
      exact ⟨by rw [waits]; rfl, stageOf_given_events waits⟩
  · -- A run that waits for events has been given the pod of work that pulls an image.
    cases hstage : engine.stageOf number with
    | listingEvents batch job listed rest resolved =>
      rw [hstage] at hawaits
      obtain ⟨rfl, -⟩ := Call.events.inj (Option.some.inj hawaits)
      obtain ⟨⟨shown, pull⟩, -⟩ := account hstage fun _ => Stage.noConfusion
      obtain ⟨found, recorded, request⟩ := shown.open'
      exact ⟨found, recorded, request ▸ pull⟩
    | _ =>
      rw [hstage] at hawaits
      cases hawaits
  · have outcomes : AllFoundOut start moves number resolved := account hstage fun _ => Stage.noConfusion
    obtain ⟨name, result, hname, found, hresult⟩ := get?_expire hstage outcomes hjob pending
    exact ⟨name, result, hname, found, found.status, found.reason_ne, hresult⟩

/-- A course in which a run looks into a job whose image cannot be pulled. -/
def unpullable : List Move :=
  let pull : Request :=
    { image := "x:1", node := .named "a", runtimeVersion := "", kind := .create, cache := .named "w" }
  let waiting : StateDetail := { reason := some "ErrImagePull", message := some "not found" }
  [.dispatch pull, .presence (.ok false), .job (.ok "j"), .start pull.cacheKey, .look 0,
    .pods 0 (.ok [{ phase := some "Pending", containers := [some { waiting := some waiting }] }]),
    .events 0 (.ok [{ message := some "Pulling" }, {}, { message := some "Back-off" }])]

theorem expired_with_reason_unpullable :
    ∃ result, FoundOut .hasty unpullable 0 "j" result ∧ result.status = .failed ∧
      (((Engine.hasty.after unpullable).act (.expire 0)).1.table.get? (.real "j")) = some result ∧
      result.reason = "ErrImagePull" ∧ result.message = "not found:Pulling:Back-off" := by
  have told : ((((Engine.hasty.after unpullable).act (.expire 0)).1.table.get? (.real "j")).map
      fun result => (result.reason, result.message)) = some ("ErrImagePull", "not found:Pulling:Back-off") := by
    rw [table_expire]
    decide +kernel
  have pending : (Engine.hasty.after unpullable).table.isPending (.real "j") = true := by decide +kernel
  obtain ⟨resolved, hstage⟩ : ∃ resolved,
      (Engine.hasty.after unpullable).stageOf 0 = .resolving [.real "j"] resolved := by
    with_unfolding_all exact ⟨_, rfl⟩
  obtain ⟨-, -, expired⟩ :=
    expired_with_reason { deadlineMs := 0 } {} {} unpullable (by decide)
  obtain ⟨expired, all⟩ := expired 0 _ _ hstage
  have distinct : DistinctNames (Engine.hasty.notes unpullable) := by decide +kernel
  obtain ⟨name, result, hname, found, status, -, hresult⟩ := expired _ (all distinct _ (.head _) pending) pending
  obtain rfl := JobId.real.inj hname
  have told' : ((((Engine.hasty.after unpullable).act (.expire 0)).1.table.get? (.real "j")).map
      fun result => (result.reason, result.message)) = some (result.reason, result.message) :=
    congrArg (Option.map _) hresult
  obtain ⟨reason, message⟩ := Prod.mk.inj (Option.some.inj (told'.symm.trans told))
  exact ⟨result, found, status, hresult, reason, message⟩

end Work

end NodeImages
