import NodeImages.Proofs.Ledger
import NodeImages.Proofs.Queue

/-!
# Reporting exactly once

An entry that was recorded has one place: it is in the table until a run takes its batch from there, and from
then on in the one update that the run puts up for reporting. The ledger knows both places together
(`Ledger.partition`); as names are distinct, no job is in two of them.

* `Engine.reportsTaken`: what the queue of reports hands out in a course;
* `Engine.items_append_updates`: the updates that were put up are those that were handed out and those that are still in
  the queue, in this order;
* `reported_exactly_once`: what was recorded is in the table or in exactly one of them, at every moment.
-/

namespace NodeImages.Work

/-! ## The queue of reports -/

namespace Engine

/-- What the queue of reports hands out in a move. -/
def handedOut (engine : Engine) : Move → List Report
  | .takeReport =>
    match engine.reports.take with
    | (_, .item report) => [report]
    | _ => []
  | _ => []

/-- What the queue of reports hands out in a row of moves, one report after the other. -/
def reportsTaken (engine : Engine) : List Move → List Report
  | [] => []
  | move :: rest => engine.handedOut move ++ (engine.act move).1.reportsTaken rest

variable {engine : Engine} {item : Option Item}

@[simp] theorem reports_finish : (engine.finish item).reports = engine.reports := by
  cases item <;> rfl

@[simp] theorem reports_giveBack : (engine.giveBack item).reports = engine.reports := by
  cases item <;> rfl

@[simp] theorem reports_handle (dispatch : Dispatch) :
    (engine.handle item dispatch).1.reports = engine.reports := by
  cases dispatch <;> simp [handle, record]

@[simp] theorem reports_stand (run : ActiveRun) (stage : Stage) :
    (engine.stand run stage).1.reports = engine.reports := by
  cases stage <;> rfl

@[simp] theorem updates_handle (dispatch : Dispatch) :
    updates (engine.handle item dispatch).2 = [] := by
  cases dispatch <;> rfl

/-- The work on an item reports nothing. -/
theorem reports_handleItem (item : Item) :
    (engine.handleItem item).1.reports = engine.reports ∧
      updates (engine.handleItem item).2 = [] := by
  cases item with
  | flush cache =>
    rw [handleItem, handleFlush, startRun]
    dsimp only
    split
    · exact ⟨rfl, rfl⟩
    · split <;> exact ⟨rfl, rfl⟩
  | image request =>
    rw [handleItem]
    split
    · exact ⟨reports_finish, rfl⟩
    · exact ⟨reports_handle _, updates_handle _⟩

/-- A run that moves on reports nothing. -/
theorem reports_advance (number : Nat) (move : RunPlan → Stage → Stage) :
    (engine.advance number move).1.reports = engine.reports ∧
      updates (engine.advance number move).2 = [] := by
  rw [advance]
  split
  · exact ⟨rfl, rfl⟩
  · exact ⟨reports_stand _ _, updates_stand⟩

/-- Nor does one that changes the table in the same step. -/
theorem reports_advanceTable (number : Nat)
    (move : RunPlan → Table → Stage → Table × Stage) :
    (engine.advanceTable number move).1.reports = engine.reports ∧
      updates (engine.advanceTable number move).2 = [] := by
  rw [advanceTable]
  split
  · exact ⟨rfl, rfl⟩
  · exact ⟨reports_stand _ _, updates_stand⟩

/-- What becomes of an open queue of reports in a move: the updates of the move come in behind, and what is handed out
    was in front. -/
structure ReportsGrow (engine engine' : Engine) (notes : List Note) (taken : List Report) : Prop where
  opened : engine'.reports.closed = engine.reports.closed
  items : engine.reports.closed = false →
    engine.reports.items ++ (updates notes).map .status = taken ++ engine'.reports.items

theorem ReportsGrow.of_eq {engine' : Engine} {notes : List Note}
    (h : engine'.reports = engine.reports ∧ updates notes = []) : ReportsGrow engine engine' notes [] :=
  ⟨by rw [h.1], fun _ => by rw [h.1, h.2, List.map_nil, List.append_nil, List.nil_append]⟩

/-- Nothing comes into the queue of reports but the updates of the move, and nothing leaves it but what is handed
    out. -/
theorem reportsGrow_act (engine : Engine) (move : Move) :
    ReportsGrow engine (engine.act move).1 (engine.act move).2 (engine.handedOut move) := by
  cases move with
  | add | addAfter | fire | tick | stop | close | observe | settle | insert | resolve
  | startUnguarded =>
    exact .of_eq ⟨rfl, rfl⟩
  | take =>
    rw [act]
    split
    · exact .of_eq ⟨rfl, rfl⟩
    · split
      · exact .of_eq (reports_handleItem _)
      · exact .of_eq ⟨rfl, rfl⟩
  | dispatch request =>
    rw [act]
    split
    · exact .of_eq ⟨rfl, rfl⟩
    · exact .of_eq ⟨reports_handle _, updates_handle _⟩
  | presence answer | job answer =>
    rw [act]
    split
    · exact .of_eq ⟨reports_handle _, updates_handle _⟩
    · exact .of_eq ⟨rfl, rfl⟩
  | start cacheKey =>
    rw [act, startRun]
    split <;> exact .of_eq ⟨rfl, rfl⟩
  | look | pods | events => exact .of_eq (reports_advance _ _)
  | expire | deleted => exact .of_eq (reports_advanceTable _ _)
  | cancel number =>
    rw [act]
    split
    · exact .of_eq (reports_advance _ _)
    · exact .of_eq ⟨rfl, rfl⟩
  | collect number =>
    rw [act]
    split
    · exact .of_eq ⟨rfl, rfl⟩
    · split
      · exact .of_eq ⟨reports_stand _ _, updates_stand⟩
      · rename_i table update stage _
        refine ⟨?_, fun hopen => ?_⟩
        · dsimp only
          rw [reports_stand, Queue.add, Queue.accept]
          split <;> rfl
        · have hupdates : updates (.emitted number update ::
              ({ engine with table, reports := engine.reports.add (.status update) }.stand ‹_›
                stage).2) = [update] := by
            rw [updates, List.filterMap_cons]
            exact congrArg (update :: ·) updates_stand
          dsimp only
          rw [hupdates, reports_stand, Queue.add, Queue.accept, if_neg (by simp [hopen])]
          rfl
  | takeReport =>
    rw [act, handedOut]
    cases hitems : engine.reports.items with
    | nil =>
      rw [Queue.take_of_nil hitems]
      cases engine.reports.closed <;> exact .of_eq ⟨rfl, rfl⟩
    | cons report rest =>
      rw [Queue.take_of_cons hitems]
      exact ⟨rfl, fun _ => by rw [hitems]; exact List.append_nil _⟩

/-- What was in the queue of reports in the beginning and what has been put up since has been handed out, or is still in
    it. The order is kept. -/
theorem items_append_updates (engine : Engine) (hopen : engine.reports.closed = false) (moves : List Move) :
    engine.reports.items ++ (updates (engine.notes moves)).map .status =
      engine.reportsTaken moves ++ (engine.after moves).reports.items := by
  induction moves generalizing engine with
  | nil => exact List.append_nil _
  | cons move rest ih =>
    obtain ⟨opened, items⟩ := reportsGrow_act engine move
    rw [notes, updates_append, List.map_append, ← List.append_assoc, items hopen, List.append_assoc,
      ih _ (opened.trans hopen), reportsTaken, after_cons, List.append_assoc]

end Engine

/-! ## Where an entry is -/

/-- The table has an entry of a job for a request. -/
def Engine.Holds (engine : Engine) (job : JobId) (request : Request) : Prop :=
  ∃ entry ∈ engine.table.entries, entry.job = job ∧ entry.result.request = request

/-- The results of exactly one of a row of updates have a job, once, for a request; that update is of the
    image cache of the request. -/
def ReportedOnce (updates : List Update) (job : JobId) (request : Request) : Prop :=
  ∃ before update after, updates = before ++ update :: after ∧ update.key = request.cacheKey ∧
    (∃ result, (job, result) ∈ update.results ∧ result.request = request) ∧
    update.jobs.count job = 1 ∧ ∀ other ∈ before ++ after, job ∉ other.jobs

/-- At every moment of every course, what was recorded is either in the table or in the results of exactly
    one update, whose key is that of its image cache. The updates are those that have come into the queue of
    reports: it has handed out the first of them, in this order, and holds the others. -/
theorem reported_exactly_once (settings : Settings) (work reports : QueueConfig) (moves : List Move)
    (inner : ∀ move ∈ moves, move.isInner = true)
    (distinct : DistinctNames ((Engine.new settings work reports).notes moves)) :
    let start := Engine.new settings work reports
    let engine := start.after moves
    let notes := start.notes moves
    (updates notes).map Report.status = start.reportsTaken moves ++ engine.reports.items ∧
    ∀ job result, .recorded job result ∈ notes →
      (engine.Holds job result.request ∧ ∀ update ∈ updates notes, job ∉ update.jobs) ∨
      (job ∉ engine.table.jobs ∧ ReportedOnce (updates notes) job result.request) := by
  intro start engine notes
  have ledger : Ledger engine notes := ledger_after inner distinct
  refine ⟨start.items_append_updates rfl moves, fun job result hrecorded => ?_⟩
  have hmem : (job, result) ∈ recordings notes := mem_recordings.2 hrecorded
  -- No job occurs twice among those in the table and those that were reported.
  have hnodup : (engine.table.jobs ++ (updates notes).flatMap Update.jobs).Nodup :=
    ledger.partition.nodup_iff.2 distinct.nodup
  have hjob : job ∈ engine.table.jobs ++ (updates notes).flatMap Update.jobs :=
    ledger.partition.mem_iff.2 (List.mem_map.2 ⟨_, hmem, rfl⟩)
  rcases List.mem_append.1 hjob with htable | hreported
  · left
    obtain ⟨entry, hentry, rfl⟩ := Table.mem_jobs.1 htable
    refine ⟨⟨entry, hentry, rfl, ?_⟩, fun update hupdate hin => ?_⟩
    · exact distinct.unique_request _ _ _ (ledger.requested entry hentry) ⟨result, hmem, rfl⟩
    · exact List.disjoint_of_nodup_append hnodup htable
        (List.mem_flatMap.2 ⟨update, hupdate, hin⟩)
  · right
    refine ⟨fun htable => List.disjoint_of_nodup_append hnodup htable hreported, ?_⟩
    obtain ⟨update, hupdate, hin⟩ := List.mem_flatMap.1 hreported
    obtain ⟨⟨_, found⟩, hrow, rfl⟩ := List.mem_map.1 hin
    obtain ⟨result', hmem', hbecomes, hkey⟩ := ledger.reported update hupdate _ hrow
    obtain rfl := distinct.unique hmem hmem'
    obtain ⟨before, after, hsplit⟩ := List.append_of_mem hupdate
    have hflat := hnodup.of_append_right
    rw [hsplit, List.flatMap_append, List.flatMap_cons] at hflat
    refine ⟨before, update, after, hsplit, hkey.symm, ⟨found, hrow, hbecomes.request_eq⟩, ?_, ?_⟩
    · -- The jobs of the update have no doubles, as they are among those that were reported.
      exact List.count_eq_one_of_mem hflat.of_append_right.of_append_left hin
    · intro other hother hin'
      rw [List.nodup_append, List.nodup_append] at hflat
      obtain ⟨-, ⟨-, -, hafter⟩, hbefore⟩ := hflat
      rcases List.mem_append.1 hother with h | h
      · exact hbefore _ (List.mem_flatMap.2 ⟨other, h, hin'⟩) _ (List.mem_append_left _ hin) rfl
      · exact hafter _ hin _ (List.mem_flatMap.2 ⟨other, h, hin'⟩) rfl

/-- When the table and the queue of reports are empty in the end, all that was recorded has been handed out once. -/
theorem reported_exactly_once_resumption :
    let moves := resumption ++ [.takeReport]
    let notes := Engine.hasty.notes moves
    DistinctNames notes ∧ (recordings notes).map Prod.fst = [.real "j", .fresh 0] ∧
      (Engine.hasty.reportsTaken moves).length = 1 ∧
      Engine.hasty.reportsTaken moves = (updates notes).map Report.status ∧
      ∀ job result, .recorded job result ∈ notes →
        ReportedOnce (updates notes) job result.request := by
  intro moves notes
  have distinct : DistinctNames notes := by decide +kernel
  have hempty : (Engine.hasty.after moves).table.jobs = [] := by decide +kernel
  have hdone : (Engine.hasty.after moves).reports.items = [] := List.isEmpty_iff.1 (by decide +kernel)
  obtain ⟨htaken, hall⟩ := reported_exactly_once _ _ _ moves (by decide) distinct
  refine ⟨distinct, by decide +kernel, by decide +kernel, ?_, fun job result hrecorded => ?_⟩
  · exact (htaken.trans ((congrArg _ hdone).trans (List.append_nil _))).symm
  · rcases hall job result hrecorded with ⟨⟨entry, hentry, -⟩, -⟩ | ⟨-, honce⟩
    · exact absurd (Table.mem_jobs.2 ⟨entry, hentry, rfl⟩) (hempty ▸ List.not_mem_nil)
    · exact honce

end NodeImages.Work
