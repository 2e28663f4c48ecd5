import NodeImages.Proofs.Batch
import NodeImages.Proofs.Items
import NodeImages.Work.Summary

/-!
# What a success covers

When the report of a batch is a success, the work that was put in before the flush has been done: it is among
the results of the batch, all of which are successes, or it has been reported before. There is one exception.
Work that was dropped because it failed too often leaves no entry in the table, and so the report knows nothing
of it.

* `Update.not_failed_of_succeeded`: no result of a success has failed;
* `requested_subperm`: what was put in before a flush has been recorded or dropped when the run is started;
* `recorded_subperm_reported`: what was recorded by then is in the update of the run or in an earlier one;
* `success_covers_batch`: both together;
* `success_misses_dropped`: the exception, and what goes wrong if names are not distinct.
-/

namespace NodeImages.Work

open Cluster

/-! ## Summaries -/

theorem isEmpty_insertEntry {α : Type} (name : String) (value : α) (entries : List (String × α)) :
    (Dictionary.insertEntry name value entries).isEmpty = false := by
  cases entries with
  | nil => rfl
  | cons entry rest =>
    obtain ⟨n, v⟩ := entry
    rw [Dictionary.insertEntry]
    split
    · rfl
    · split <;> rfl

theorem not_failed_of_isEmpty {results : List (JobId × Result)}
    (h : (failuresByImage results).isEmpty = true) :
    ∀ row ∈ results, row.2.status ≠ .failed := by
  -- A failure that has been noted is not forgotten.
  have key (failures : Dictionary (List NodeFailure)) (results : List (JobId × Result))
      (h : (results.foldl (fun failures row =>
        if row.2.status = .failed then
          failures.insert row.2.request.image
            ((failures.get? row.2.request.image).getD [] ++ [row.2.nodeFailure])
        else failures) failures).isEmpty = true) :
      failures.isEmpty = true ∧ ∀ row ∈ results, row.2.status ≠ .failed := by
    induction results generalizing failures with
    | nil => exact ⟨h, fun _ hrow => absurd hrow List.not_mem_nil⟩
    | cons first rest ih =>
      obtain ⟨hempty, hrest⟩ := ih _ h
      dsimp only at hempty
      split at hempty
      · exact absurd (hempty.symm.trans (isEmpty_insertEntry _ _ _)) Bool.noConfusion
      · rename_i hfirst
        exact ⟨hempty, List.forall_mem_cons.2 ⟨hfirst, hrest⟩⟩
  exact (key _ results h).2

theorem Update.not_failed_of_succeeded {update : Update} {now : String}
    (h : (update.summarize now).status = some .succeeded) :
    ∀ row ∈ update.results, row.2.status ≠ .failed := by
  refine not_failed_of_isEmpty ?_
  rw [Update.summarize] at h
  dsimp only at h
  split at h
  · rename_i hempty
    rwa [Dictionary.isEmpty, Dictionary.map, List.isEmpty_map] at hempty
  · exact absurd (Option.some.inj h) (by decide)

/-! ## Requests -/

/-- The request of an item, if it is work for an image cache that belongs into the queue. -/
def Item.requestFor? (cacheKey : String) : Item → Option Request
  | .image request =>
    if request.cacheKey = cacheKey ∧ request.kind ≠ .statusUpdate then some request else none
  | .flush _ => none

/-- The work for an image cache among items. -/
def requestsFor (cacheKey : String) (items : List Item) : List Request :=
  items.filterMap (Item.requestFor? cacheKey)

/-- The items that have met with a fate. -/
def settledAs (fate : Fate) (settled : List (Item × Fate)) : List Item :=
  (settled.filter (·.2 = fate)).map Prod.fst

/-- The entries of an image cache. -/
def entriesOf (cacheKey : String) (entries : List (JobId × Result)) : List (JobId × Result) :=
  entries.filter (·.2.request.cacheKey = cacheKey)

/-- The requests of the results of an update. -/
def Update.requests (update : Update) : List Request := update.results.map (·.2.request)

/-- The requests that have been reported for an image cache. -/
def reportedFor (cacheKey : String) (updates : List Update) : List Request :=
  (updates.filter (·.key = cacheKey)).flatMap Update.requests

section

variable {settings : Settings} {work reports : QueueConfig} {moves : List Move} {cacheKey : String}

/-- Only status updates are discarded, and only flushes start runs. -/
theorem requestFor?_eq_none_of_settled (opens : ∀ move ∈ moves, move.keepsOpen = true) {item : Item}
    {fate : Fate} (h : (item, fate) ∈ (Engine.new settings work reports).settled moves)
    (hfate : fate = .discarded ∨ fate = .started) : item.requestFor? cacheKey = none := by
  induction moves using List.reverseRecOn with
  | nil => exact absurd h List.not_mem_nil
  | append_singleton moves move ih =>
    have opens' : ∀ move ∈ moves, move.keepsOpen = true := fun move h => opens move (by simp [h])
    rw [Engine.settled_concat] at h
    rcases List.mem_append.1 h with h | h
    · exact ih opens' h
    · have hkeeps := Engine.keeps_act (opens move (by simp))
        (tidy_after settings work reports opens')
      rcases hfate with rfl | rfl
      · obtain ⟨request, rfl, hkind⟩ := hkeeps.discarded item h
        exact if_neg fun h => h.2 hkind
      · obtain ⟨cache, rfl⟩ := hkeeps.started item h
        rfl

/-- The items that were recorded are among the entries. -/
theorem settledAs_recorded_sublist (opens : ∀ move ∈ moves, move.keepsOpen = true) :
    (settledAs .recorded ((Engine.new settings work reports).settled moves)).Sublist
      ((recordings ((Engine.new settings work reports).notes moves)).map
        fun entry => .image entry.2.request) := by
  induction moves using List.reverseRecOn with
  | nil => exact .slnil
  | append_singleton moves move ih =>
    have opens' : ∀ move ∈ moves, move.keepsOpen = true := fun move h => opens move (by simp [h])
    have hkeeps := Engine.keeps_act (opens move (by simp))
      (tidy_after settings work reports opens')
    rw [Engine.settled_concat, Engine.notes_concat, recordings_append, List.map_append, settledAs,
      List.filter_append, List.map_append]
    refine (ih opens').append ?_
    by_cases h : ∃ item, (item, .recorded) ∈
        ((Engine.new settings work reports).after moves).settledBy move
    · obtain ⟨item, hmem⟩ := h
      obtain ⟨job, result, hsettled, hnotes, rfl⟩ := hkeeps.recorded item hmem
      rw [hsettled, hnotes]
      exact .refl _
    · have hnone : (((Engine.new settings work reports).after moves).settledBy move).filter
          (·.2 = .recorded) = [] := by
        refine List.filter_eq_nil_iff.2 fun pair hpair => ?_
        rw [decide_eq_true_eq]
        exact fun hfate => h ⟨pair.1, hfate ▸ hpair⟩
      rw [hnone]
      exact List.nil_sublist _

theorem requestsFor_map_image_sublist (entries : List (JobId × Result)) :
    (requestsFor cacheKey (entries.map fun entry => .image entry.2.request)).Sublist
      ((entriesOf cacheKey entries).map (·.2.request)) := by
  induction entries with
  | nil => exact .slnil
  | cons entry rest ih =>
    rw [requestsFor, entriesOf] at ih ⊢
    rw [List.map_cons, List.filterMap_cons, List.filter_cons, Item.requestFor?]
    by_cases hkey : entry.2.request.cacheKey = cacheKey
    · by_cases hkind : entry.2.request.kind = .statusUpdate
      · simpa [hkey, hkind] using ih.cons _
      · simpa [hkey, hkind] using ih
    · simpa [hkey] using ih

/-- Of the items that are settled, work is either recorded or dropped. -/
theorem requestsFor_settled {settled : List (Item × Fate)}
    (other : ∀ item fate, (item, fate) ∈ settled → fate = .discarded ∨ fate = .started →
      item.requestFor? cacheKey = none) :
    (requestsFor cacheKey (settled.map Prod.fst)).Perm
      (requestsFor cacheKey (settledAs .dropped settled) ++
        requestsFor cacheKey (settledAs .recorded settled)) := by
  induction settled with
  | nil => exact .nil
  | cons pair rest ih =>
    obtain ⟨item, fate⟩ := pair
    have hrest := ih fun item fate h => other item fate (.tail _ h)
    have hhead := other item fate (.head _)
    simp only [requestsFor, settledAs, List.map_cons, List.filter_cons] at hrest ⊢
    cases fate with
    | recorded =>
      cases h : item.requestFor? cacheKey with
      | none => simpa [h] using hrest
      | some request => simpa [h] using (hrest.cons request).trans List.perm_middle.symm
    | dropped =>
      cases h : item.requestFor? cacheKey with
      | none => simpa [h] using hrest
      | some request => simpa [h] using hrest
    | discarded => simpa [hhead (.inl rfl)] using hrest
    | started => simpa [hhead (.inr rfl)] using hrest

/-- When a flush starts a run, the work for its image cache that was put in so far has been recorded or
    dropped. -/
theorem requested_subperm (opens : ∀ move ∈ moves, move.keepsOpen = true) {number : Nat}
    (started : .started number cacheKey ∈
      (((Engine.new settings work reports).after moves).act .take).2) :
    (requestsFor cacheKey (moves.flatMap Move.added)).Subperm
      (requestsFor cacheKey (settledAs .dropped ((Engine.new settings work reports).settled moves)) ++
        (entriesOf cacheKey
          (recordings ((Engine.new settings work reports).notes moves))).map (·.2.request)) := by
  have tidy := tidy_after settings work reports opens
  -- Nothing that is held is work for the image cache.
  have hnone : ((Engine.new settings work reports).after moves).held.filterMap
      (Item.requestFor? cacheKey) = 0 := by
    refine Multiset.eq_zero_of_forall_notMem fun request hmem => ?_
    obtain ⟨item, hitem, h⟩ := (Multiset.mem_filterMap _ _).1 hmem
    cases item with
    | flush => cases h
    | image other =>
      rw [Item.requestFor?] at h
      split at h
      · rename_i hfor
        exact ne_of_mem_held_of_started tidy started hitem hfor.1
      · cases h
  have hperm : (requestsFor cacheKey (moves.flatMap Move.added)).Perm
      (requestsFor cacheKey (((Engine.new settings work reports).settled moves).map Prod.fst)) := by
    have hadded := congrArg (Multiset.filterMap (Item.requestFor? cacheKey))
      (added_eq_settled_add_held settings work reports opens)
    rw [Multiset.filterMap_add, hnone, add_zero, Multiset.filterMap_coe, Multiset.filterMap_coe]
      at hadded
    exact Multiset.coe_eq_coe.1 hadded
  refine (hperm.trans (requestsFor_settled fun item fate h hfate =>
    requestFor?_eq_none_of_settled opens h hfate)).subperm.trans ?_
  refine List.Sublist.subperm ((List.Sublist.refl _).append ?_)
  exact ((settledAs_recorded_sublist opens).filterMap _).trans (requestsFor_map_image_sublist _)

/-! ## Reports -/

/-- What was recorded for an image cache is in the results of a batch that covers it, or it has been reported
    before. -/
theorem exists_row_of_recorded {engine : Engine} {notes : List Note} (ledger : Ledger engine notes)
    (distinct : DistinctNames notes) {jobs batch : List JobId}
    (covers : (Stage.collecting batch).Covers jobs cacheKey engine.table) {job : JobId}
    {result : Result} (hrecorded : (job, result) ∈ recordings notes) (hjob : job ∈ jobs)
    (hkey : result.request.cacheKey = cacheKey) :
    ∃ found, found.request = result.request ∧
      ((∃ update ∈ updates notes, update.key = cacheKey ∧ (job, found) ∈ update.results) ∨
        (job, found) ∈ engine.table.results batch) := by
  rcases List.mem_append.1 (ledger.partition.mem_iff.2 (List.mem_map.2 ⟨_, hrecorded, rfl⟩)) with
    htable | hreported
  · obtain ⟨entry, hentry, rfl⟩ := Table.mem_jobs.1 htable
    have hrequest : entry.result.request = result.request :=
      distinct.unique_request _ _ _ (ledger.requested entry hentry) ⟨result, hrecorded, rfl⟩
    have hbatch : entry.job ∈ batch :=
      covers rfl entry hentry hjob (by rw [Entry.cacheKey, hrequest, hkey])
    exact ⟨_, hrequest, .inr (Table.mem_results.2 ⟨hbatch, entry, hentry, rfl, rfl⟩)⟩
  · obtain ⟨update, hupdate, hin⟩ := List.mem_flatMap.1 hreported
    obtain ⟨⟨_, found⟩, hrow, rfl⟩ := List.mem_map.1 hin
    obtain ⟨result', hrecorded', hbecomes, hkey'⟩ := ledger.reported update hupdate _ hrow
    obtain rfl := distinct.unique hrecorded hrecorded'
    exact ⟨found, hbecomes.request_eq, .inl ⟨update, hupdate, hkey'.symm.trans hkey, hrow⟩⟩

variable {early between : List Move} {move : Move} {number : Nat} {update : Update}

/-- What was recorded for an image cache before a run of it was started is reported with the batch of the run
    at the latest. -/
theorem recorded_subperm_reported
    (inner : ∀ m ∈ early ++ .take :: between ++ [move], m.isInner = true)
    (distinct : DistinctNames
      ((Engine.new settings work reports).notes (early ++ .take :: between ++ [move])))
    (started : .started number cacheKey ∈
      (((Engine.new settings work reports).after early).act .take).2)
    (emitted : .emitted number update ∈
      (((Engine.new settings work reports).after (early ++ .take :: between)).act move).2) :
    update.key = cacheKey ∧
    ((entriesOf cacheKey (recordings ((Engine.new settings work reports).notes early))).map
      (·.2.request)).Subperm
        (reportedFor cacheKey
          (updates ((Engine.new settings work reports).notes (early ++ .take :: between))) ++
            update.requests) := by
  have inner' : ∀ m ∈ early ++ .take :: between, m.isInner = true := fun m h =>
    inner m (List.mem_append_left _ h)
  rw [Engine.notes_concat] at distinct
  have ledger := ledger_after inner' distinct.early
  obtain ⟨run, batch, hrun, hnumber, hstage, rfl⟩ :=
    (act_effect (inner move (by simp))).collecting_of_emitted emitted
  obtain ⟨-, hcovers⟩ := covers_after inner' distinct.early started
  obtain ⟨rfl, hcovers⟩ := hcovers run hrun hnumber
  rw [hstage] at hcovers
  refine ⟨rfl, ?_⟩
  set earlier := updates ((Engine.new settings work reports).notes (early ++ .take :: between))
  set table := ((Engine.new settings work reports).after (early ++ .take :: between)).table
  have hnotes : (Engine.new settings work reports).notes (early ++ .take :: between) =
      (Engine.new settings work reports).notes early ++
        ((Engine.new settings work reports).after early).notes (.take :: between) :=
    Engine.notes_append _ _
  -- Requests may be equal, but their jobs tell them apart.
  let row (entry : JobId × Result) : JobId × Request := (entry.1, entry.2.request)
  have hpairs : ((entriesOf run.cacheKey
      (recordings ((Engine.new settings work reports).notes early))).map row).Subperm
        (((earlier.filter (·.key = run.cacheKey)).flatMap Update.results ++
          table.results batch).map row) := by
    refine List.Nodup.subperm (.of_map Prod.fst ?_) fun pair hpair => ?_
    · rw [List.map_map]
      exact (hnotes ▸ distinct.early).early.nodup.sublist (List.filter_sublist.map _)
    · obtain ⟨⟨job, result⟩, hentry, rfl⟩ := List.mem_map.1 hpair
      obtain ⟨hmem, hkey⟩ := List.mem_filter.1 hentry
      have hrecorded : (job, result) ∈
          recordings ((Engine.new settings work reports).notes (early ++ .take :: between)) := by
        rw [hnotes, recordings_append]
        exact List.mem_append_left _ hmem
      obtain ⟨found, hrequest, h⟩ := exists_row_of_recorded ledger distinct.early hcovers hrecorded
        (List.mem_map.2 ⟨_, hmem, rfl⟩) (of_decide_eq_true hkey)
      refine List.mem_map.2 ⟨(job, found), List.mem_append.2 ?_, Prod.ext rfl hrequest⟩
      rcases h with ⟨other, hother, hkey', hrow⟩ | hrow
      · exact .inl (List.mem_flatMap.2
          ⟨other, List.mem_filter.2 ⟨hother, decide_eq_true hkey'⟩, hrow⟩)
      · exact .inr hrow
  obtain ⟨rows, hperm, hsub⟩ := hpairs
  have hrequests := (hperm.symm.map Prod.snd).subperm.trans (hsub.map Prod.snd).subperm
  rw [List.map_map, List.map_map, List.map_append, List.map_flatMap] at hrequests
  exact hrequests

/-- The results of a batch that is reported as a success are successes. -/
theorem succeeded_of_emitted {moves : List Move}
    (inner : ∀ m ∈ moves ++ [move], m.isInner = true)
    (distinct : DistinctNames ((Engine.new settings work reports).notes (moves ++ [move])))
    (emitted : .emitted number update ∈
      (((Engine.new settings work reports).after moves).act move).2) {now : String}
    (success : (update.summarize now).status = some .succeeded) :
    ∀ row ∈ update.results, row.2.status = .succeeded ∨ row.2.status = .alreadyPulled := by
  have inner' : ∀ m ∈ moves, m.isInner = true := fun m h => inner m (List.mem_append_left _ h)
  rw [Engine.notes_concat] at distinct
  intro row hrow
  have hfailed := Update.not_failed_of_succeeded success row hrow
  obtain ⟨run, batch, hrun, -, hstage, rfl⟩ :=
    (act_effect (inner move (by simp))).collecting_of_emitted emitted
  obtain ⟨hbatch, entry, hentry, hjob, hresult⟩ := Table.mem_results.1 hrow
  have hclosed := closed_of_collecting inner' distinct.early hrun hstage hentry (hjob ▸ hbatch)
  rw [hresult] at hclosed
  cases h : row.2.status with
  | jobCreated => exact absurd h hclosed
  | failed => exact absurd h hfailed
  | succeeded => exact .inl rfl
  | alreadyPulled => exact .inr rfl

/-- Whenever a run that a flush started reports a success, all its results are successes, and all work for its
    image cache that was put in before is in the update or in an earlier one for the image cache, each request as
    often as it was put in, unless it was dropped because it failed too often. -/
theorem success_covers_batch (settings : Settings) (work reports : QueueConfig)
    (early between : List Move) (move : Move) (number : Nat) (cacheKey now : String) (update : Update)
    (inner : ∀ m ∈ early ++ .take :: between ++ [move], m.isInner = true)
    (opens : ∀ m ∈ early, m.keepsOpen = true)
    (distinct : DistinctNames
      ((Engine.new settings work reports).notes (early ++ .take :: between ++ [move])))
    (started : .started number cacheKey ∈
      (((Engine.new settings work reports).after early).act .take).2)
    (emitted : .emitted number update ∈
      (((Engine.new settings work reports).after (early ++ .take :: between)).act move).2)
    (success : (update.summarize now).status = some .succeeded) :
    let start := Engine.new settings work reports
    update.key = cacheKey ∧
    (∀ row ∈ update.results, row.2.status = .succeeded ∨ row.2.status = .alreadyPulled) ∧
    (requestsFor cacheKey (early.flatMap Move.added)).Subperm
      (requestsFor cacheKey (settledAs .dropped (start.settled early)) ++
        (reportedFor cacheKey (updates (start.notes (early ++ .take :: between))) ++
          update.requests)) := by
  intro start
  obtain ⟨hkey, hrecorded⟩ := recorded_subperm_reported inner distinct started emitted
  refine ⟨hkey, succeeded_of_emitted inner distinct emitted success, ?_⟩
  exact (requested_subperm opens started).trans (.append (.refl _) hrecorded)

end

/-! ## A course in which work is dropped -/

/-- An engine that does not try again what has failed, and whose runs do not wait for open jobs. -/
def Engine.strict : Engine := .new { deadlineMs := 0 } { maxRetries := 0 } {}

/-- A course in which work on two images is put in with a flush. The first job meets with an answer of the
    cluster, the second one succeeds. -/
def removals (answer : Outcome String) : List Move :=
  let removal (image : String) : Request :=
    { image, node := .named "a", runtimeVersion := "", kind := .purge, cache := .named "w" }
  let pod : Pod :=
    { metadata := { labels := some (.ofList [(Pod.jobLabel, "j")]) }, phase := some Pod.succeededPhase }
  [.add (.image (removal "x:1")), .add (.image (removal "y:1")), .add (.flush (.named "w")),
    .take, .job answer, .take, .job (.ok "j"), .settle pod]

/-- The steps of a run up to the report, when there is one job to delete. -/
def conclusion : List Move := [.look 0, .deleted 0 (.ok ())]

/-- What was not dropped is in the update. -/
theorem success_covers_batch_removals :
    let early := removals (.error .missing)
    (requestsFor "w" (early.flatMap Move.added)).map Request.image = ["x:1", "y:1"] ∧
    (requestsFor "w" (settledAs .dropped (Engine.strict.settled early))).map Request.image = ["x:1"] ∧
    ∃ update, .emitted 0 update ∈
        ((Engine.strict.after (early ++ .take :: conclusion)).act (.collect 0)).2 ∧
      (update.summarize "").status = some .succeeded ∧
      ∃ request ∈ update.requests, request.image = "y:1" := by
  intro early
  have hadded : (requestsFor "w" (early.flatMap Move.added)).map Request.image = ["x:1", "y:1"] := by
    decide +kernel
  have hdropped : (requestsFor "w"
      (settledAs .dropped (Engine.strict.settled early))).map Request.image = ["x:1"] := by
    decide +kernel
  have hearlier : reportedFor "w" (updates (Engine.strict.notes (early ++ .take :: conclusion))) = [] :=
    List.eq_nil_of_length_eq_zero (by decide +kernel)
  obtain ⟨update, hnotes⟩ : ∃ update,
      ((Engine.strict.after (early ++ .take :: conclusion)).act (.collect 0)).2 =
        [.emitted 0 update, .ended 0 (.ok ())] := by
    with_unfolding_all exact ⟨_, rfl⟩
  have emitted : .emitted 0 update ∈
      ((Engine.strict.after (early ++ .take :: conclusion)).act (.collect 0)).2 :=
    hnotes ▸ .head _
  have success : (update.summarize "").status = some .succeeded := by
    refine (?_ : ∀ update ∈ updates
      ((Engine.strict.after (early ++ .take :: conclusion)).act (.collect 0)).2,
      (update.summarize "").status = some .succeeded) update (mem_updates.2 ⟨0, emitted⟩)
    decide +kernel
  refine ⟨hadded, hdropped, update, emitted, success, ?_⟩
  have hcovers : (requestsFor "w" (early.flatMap Move.added)).Subperm
      (requestsFor "w" (settledAs .dropped (Engine.strict.settled early)) ++
        (reportedFor "w" (updates (Engine.strict.notes (early ++ .take :: conclusion))) ++
          update.requests)) :=
    (success_covers_batch _ _ _ early conclusion (.collect 0) 0 "w" "" update (by decide)
      (by decide) (by decide +kernel) (List.mem_singleton_self _) emitted success).2.2
  have himage : "y:1" ∈ (requestsFor "w" (early.flatMap Move.added)).map Request.image := by
    rw [hadded]
    decide
  obtain ⟨request, hrequest, himage⟩ := List.mem_map.1 himage
  rw [hearlier, List.nil_append] at hcovers
  rcases List.mem_append.1 (hcovers.subset hrequest) with hmem | hmem
  · have hmem' := List.mem_map.2 ⟨request, hmem, himage⟩
    rw [hdropped] at hmem'
    exact absurd hmem' (by decide)
  · exact ⟨request, hmem, himage⟩

/-- A run that a flush started reports a success, but there is work for its image cache that was put in before
    and is in no update. -/
def Overlooks (start : Engine) (early late : List Move) (cacheKey : String) : Prop :=
  ∃ number update, .started number cacheKey ∈ ((start.after early).act .take).2 ∧
    .emitted number update ∈ ((start.after (early ++ .take :: late)).act (.collect number)).2 ∧
    (update.summarize "").status = some .succeeded ∧
    ∃ request ∈ requestsFor cacheKey (early.flatMap Move.added),
      ∀ other ∈ updates (start.notes (early ++ .take :: late ++ [.collect number])),
        request ∉ other.requests

/-- Work is overlooked if no update names its image. -/
theorem overlooks_of_image {start : Engine} {early late : List Move} {cacheKey : String}
    {update : Update} {rest : List Note} (image : String)
    (started : ((start.after early).act .take).2 = [.started 0 cacheKey])
    (emitted : ((start.after (early ++ .take :: late)).act (.collect 0)).2 = .emitted 0 update :: rest)
    (success : ∀ update ∈ updates (start.notes (early ++ .take :: late ++ [.collect 0])),
      (update.summarize "").status = some .succeeded)
    (added : image ∈ (requestsFor cacheKey (early.flatMap Move.added)).map Request.image)
    (missed : ∀ update ∈ updates (start.notes (early ++ .take :: late ++ [.collect 0])),
      image ∉ update.requests.map Request.image) :
    Overlooks start early late cacheKey := by
  have hemitted : .emitted 0 update ∈ ((start.after (early ++ .take :: late)).act (.collect 0)).2 :=
    emitted ▸ .head _
  obtain ⟨request, hrequest, rfl⟩ := List.mem_map.1 added
  refine ⟨0, update, started ▸ List.mem_singleton_self _, hemitted, success update ?_, request, hrequest,
    fun other hother hmem => missed other hother (List.mem_map.2 ⟨request, hmem, rfl⟩)⟩
  rw [Engine.notes_concat, mem_updates]
  exact ⟨0, List.mem_append_right _ hemitted⟩

/-- Work that was dropped is in no update, nor is work whose job has the name of another one. -/
theorem success_misses_dropped :
    (DistinctNames
        (Engine.strict.notes (removals (.error .missing) ++ .take :: conclusion ++ [.collect 0])) ∧
      Overlooks .strict (removals (.error .missing)) conclusion "w") ∧
    (settledAs .dropped (Engine.strict.settled (removals (.ok "j"))) = [] ∧
      Overlooks .strict (removals (.ok "j")) conclusion "w") := by
  refine ⟨⟨by decide +kernel, ?_⟩, rfl, ?_⟩ <;>
    refine overlooks_of_image "x:1" rfl (by with_unfolding_all rfl) ?_ ?_ ?_ <;> decide +kernel

end NodeImages.Work
