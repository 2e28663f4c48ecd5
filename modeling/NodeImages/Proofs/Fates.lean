import NodeImages.Proofs.Success

/-!
# Fates and notes

What has become of an item of work can be noticed from the outside: an entry was recorded for it, the failure of
its dispatch was noted when it might not be tried again, or a run was started for it.

* `Settles`, `settles_of_mem_settledBy`: what goes with the fate of an item;
* `Books`, `books_act`: so long as all work goes through the queue, what is noted also goes back to an item, so
  that as many entries are recorded and as many runs are started as items have that fate.
-/

namespace NodeImages.Work

/-! ## What goes with a fate -/

/-- What can be noticed of a move that settles an item. -/
inductive Settles (engine : Engine) (move : Move) : Item → Fate → Prop
  /-- An entry is put into the table for the request. -/
  | recorded {job : JobId} {result : Result} (note : .recorded job result ∈ (engine.act move).2)
      (table : (engine.act move).1.table = engine.table.put job result) :
      Settles engine move (.image result.request) .recorded
  /-- It is a status update, and nothing is made of it. -/
  | discarded {request : Request} (kind : request.kind = .statusUpdate) (nothing : (engine.act move).2 = []) :
      Settles engine move (.image request) .discarded
  /-- Its dispatch failed, and it has been tried as often as it may be. -/
  | dropped {request : Request} {failure : Failure} (note : .refused failure ∈ (engine.act move).2)
      (spent : engine.work.config.maxRetries ≤ engine.work.requeues (.image request)) :
      Settles engine move (.image request) .dropped
  /-- A run is started. -/
  | started {cache : Cluster.ImageCache} {number : Nat}
      (note : .started number cache.key ∈ (engine.act move).2) :
      Settles engine move (.flush cache) .started

section

variable {engine : Engine} {move : Move} {item : Item} {fate : Fate}

/-- An answer settles the item in hand when an entry is recorded, or when the dispatch fails and the item may not
    be tried again. -/
theorem settles_of_answer (tidy : engine.Tidy)
    (answers : (∃ answer, move = .presence answer) ∨ ∃ answer, move = .job answer)
    (h : (item, fate) ∈ engine.settledBy move) : Settles engine move item fate := by
  rcases tidy.answer_cases answers with
    ⟨-, hsettled⟩ | ⟨inHand, request, _, dispatch, -, isOf, own, hact, hsettled⟩ <;> rw [hsettled] at h
  · exact absurd h List.not_mem_nil
  · cases inHand with
    | none => cases dispatch <;> exact absurd h List.not_mem_nil
    | some i =>
      obtain ⟨rfl, -⟩ := own i rfl
      cases dispatch with
      | asking | creating => exact absurd h List.not_mem_nil
      | created | needless =>
        cases isOf
        cases List.mem_singleton.1 h
        exact .recorded (by rw [hact]; exact List.mem_singleton_self _) (by rw [hact]; rfl)
      | failed failure =>
        rw [Engine.settledOf] at h
        split at h
        · exact absurd h List.not_mem_nil
        · rename_i hspent
          cases List.mem_singleton.1 h
          refine .dropped (by rw [hact]; exact List.mem_singleton_self _) ?_
          rwa [Queue.mayRetry, decide_eq_true_eq, Nat.not_lt] at hspent

/-- What a move makes of an item that it settles. -/
theorem settles_of_mem_settledBy (tidy : engine.Tidy) (h : (item, fate) ∈ engine.settledBy move) :
    Settles engine move item fate := by
  cases move with
  | take =>
    rcases engine.take_cases with ⟨-, hsettled⟩ | ⟨work, first, -, -, hact, hsettled⟩ <;> rw [hsettled] at h
    · exact absurd h List.not_mem_nil
    · cases first with
      | flush cache =>
        rcases { engine with work }.handleFlush_cases cache with
          ⟨-, hsettled'⟩ | ⟨-, -, hflush, hsettled'⟩ <;> rw [hsettled'] at h
        · exact absurd h List.not_mem_nil
        · cases List.mem_singleton.1 h
          have note : .started engine.nextRun cache.key ∈ (engine.act .take).2 := by
            rw [hact, Engine.handleItem, hflush]
            exact List.mem_singleton_self _
          exact .started note
      | image request =>
        rw [Engine.settledTaken] at h
        split at h
        · rename_i hkind
          cases List.mem_singleton.1 h
          exact .discarded hkind (by rw [hact, Engine.handleItem, if_pos hkind])
        · exact absurd h List.not_mem_nil
  | presence answer => exact settles_of_answer tidy (.inl ⟨answer, rfl⟩) h
  | job answer => exact settles_of_answer tidy (.inr ⟨answer, rfl⟩) h
  -- The other moves are not of the dispatcher, and settle nothing.
  | _ => exact absurd h List.not_mem_nil

/-- What was settled in a course was settled in one of its moves. -/
theorem settles_of_mem_settled {settings : Settings} {work reports : QueueConfig} {moves : List Move}
    (opens : ∀ move ∈ moves, move.keepsOpen = true)
    (h : (item, fate) ∈ (Engine.new settings work reports).settled moves) :
    Occurs moves fun early move =>
      Settles ((Engine.new settings work reports).after early) move item fate := by
  induction moves using List.reverseRecOn with
  | nil => exact absurd h List.not_mem_nil
  | append_singleton moves move ih =>
    have opens' : ∀ move ∈ moves, move.keepsOpen = true := fun move h => opens move (by simp [h])
    rw [Engine.settled_concat] at h
    rcases List.mem_append.1 h with h | h
    · exact (ih opens' h).concat move
    · exact .last (settles_of_mem_settledBy (tidy_after settings work reports opens') h)

end

/-! ## What goes back to an item -/

/-- Whether a move leaves it to the work queue and its consumer to take up work and to start runs, and leaves
    the queue open and the table alone. -/
def Move.isQueued : Move → Bool
  | .insert _ _ | .resolve _ _ _ _ | .dispatch _ | .start _ | .startUnguarded _ | .close => false
  | _ => true

/-- The image cache of a run that was started. -/
def Note.started? : Note → Option String
  | started _ cacheKey => some cacheKey
  | _ => none

/-- The image caches of the runs that were started. -/
def starts (notes : List Note) : List String := notes.filterMap Note.started?

theorem starts_append (early late : List Note) : starts (early ++ late) = starts early ++ starts late :=
  List.filterMap_append

theorem starts_stand {engine : Engine} {run : ActiveRun} {stage : Stage} :
    starts (engine.stand run stage).2 = [] := by
  cases stage <;> rfl

theorem settledAs_append (fate : Fate) (early late : List (Item × Fate)) :
    settledAs fate (early ++ late) = settledAs fate early ++ settledAs fate late := by
  rw [settledAs, List.filter_append, List.map_append]
  rfl

/-- What the dispatcher has in hand is from the queue. -/
def Engine.HandsQueued (engine : Engine) : Prop := ∀ hand ∈ engine.inHand, hand.item.isSome = true

theorem Engine.handsQueued_of_idle {engine : Engine} (h : engine.inHand = none) : engine.HandsQueued :=
  fun _ hmem => by rw [h] at hmem; cases hmem

/-- Each entry that is recorded and each run that is started is for an item, and no item goes without. -/
structure Books (engine' : Engine) (notes : List Note) (settled : List (Item × Fate)) : Prop where
  recorded : (recordings notes).map (fun entry => .image entry.2.request) = settledAs .recorded settled
  started : starts notes = (settledAs .started settled).map Item.cacheKey
  handsQueued : engine'.HandsQueued

namespace Books

variable {engine engine' : Engine} {notes : List Note} {settled : List (Item × Fate)}

theorem of_nothing (recorded : recordings notes = []) (started : starts notes = [])
    (handsQueued : engine'.HandsQueued) : Books engine' notes [] :=
  ⟨by rw [recorded]; rfl, by rw [started]; rfl, handsQueued⟩

/-- What is noted of a row of moves goes back to items, if what is noted of each part does. -/
theorem append {engine'' : Engine} {notes' : List Note} {settled' : List (Item × Fate)}
    (early : Books engine' notes settled) (late : Books engine'' notes' settled') :
    Books engine'' (notes ++ notes') (settled ++ settled') where
  recorded := by
    rw [recordings_append, settledAs_append, List.map_append, early.recorded, late.recorded]
  started := by rw [starts_append, settledAs_append, List.map_append, early.started, late.started]
  handsQueued := late.handsQueued

theorem of_stand {run : ActiveRun} {stage : Stage} (handsQueued : engine.HandsQueued) :
    Books (engine.stand run stage).1 (engine.stand run stage).2 [] :=
  of_nothing Engine.recordings_stand starts_stand (by rwa [Engine.HandsQueued, Engine.inHand_stand])

theorem of_advance {number : Nat} {next : RunPlan → Stage → Stage} (handsQueued : engine.HandsQueued) :
    Books (engine.advance number next).1 (engine.advance number next).2 [] := by
  rw [Engine.advance]
  split
  · exact of_nothing rfl rfl handsQueued
  · exact of_stand handsQueued

theorem of_advanceTable {number : Nat} {next : RunPlan → Table → Stage → Table × Stage}
    (handsQueued : engine.HandsQueued) :
    Books (engine.advanceTable number next).1 (engine.advanceTable number next).2 [] := by
  rw [Engine.advanceTable]
  split
  · exact of_nothing rfl rfl handsQueued
  · exact of_stand handsQueued

/-- What becomes of the dispatch of an item is noted. -/
theorem of_handle {item : Item} {dispatch : Dispatch} {request : Request}
    (isOf : dispatch.IsOf request) (own : item = .image request) :
    Books (engine.handle (some item) dispatch).1 (engine.handle (some item) dispatch).2
      (engine.settledOf (some item) dispatch) := by
  have held (dispatch : Dispatch) :
      ({ engine with inHand := some ⟨some item, dispatch⟩ } : Engine).HandsQueued :=
    fun _ hmem => by cases hmem; rfl
  cases dispatch with
  | asking | creating => exact of_nothing rfl rfl (held _)
  | created | needless =>
    cases isOf
    exact ⟨by rw [own]; rfl, rfl, Engine.handsQueued_of_idle rfl⟩
  | failed failure =>
    rw [Engine.settledOf]
    split
    · exact of_nothing rfl rfl (Engine.handsQueued_of_idle rfl)
    · exact ⟨rfl, rfl, Engine.handsQueued_of_idle rfl⟩

/-- Nothing is noted of a request that is taken up from the queue before it is answered. -/
theorem of_handleItem_image {request : Request} :
    Books (engine.handleItem (.image request)).1 (engine.handleItem (.image request)).2
      (engine.settledTaken (.image request)) := by
  rw [Engine.handleItem, Engine.settledTaken]
  split
  · exact ⟨rfl, rfl, Engine.handsQueued_of_idle rfl⟩
  · rw [← engine.settledOf_first (some (.image request)) engine.settings.policy request]
    exact of_handle (Dispatch.isOf_first _ _) rfl

/-- Of a flush, the run that it starts is noted. -/
theorem of_handleFlush {cache : Cluster.ImageCache} (idle : engine.inHand = none) :
    Books (engine.handleFlush (.flush cache)).1 (engine.handleFlush (.flush cache)).2
      (engine.settledTaken (.flush cache)) := by
  rcases engine.handleFlush_cases cache with ⟨hflush, hsettled⟩ | ⟨-, -, hflush, hsettled⟩ <;>
    rw [hflush, hsettled]
  · exact of_nothing rfl rfl (Engine.handsQueued_of_idle idle)
  · exact ⟨rfl, rfl, Engine.handsQueued_of_idle idle⟩

/-- What is noted of an answer goes back to the item in hand. -/
theorem of_answer {move : Move} (tidy : engine.Tidy) (handsQueued : engine.HandsQueued)
    (answers : (∃ answer, move = .presence answer) ∨ ∃ answer, move = .job answer) :
    Books (engine.act move).1 (engine.act move).2 (engine.settledBy move) := by
  rcases tidy.answer_cases answers with
    ⟨hact, hsettled⟩ | ⟨item, request, _, dispatch, hand, isOf, own, hact, hsettled⟩ <;>
    rw [hact, hsettled]
  · exact of_nothing rfl rfl handsQueued
  · obtain ⟨item, rfl⟩ := Option.isSome_iff_exists.1 (handsQueued _ hand)
    exact of_handle isOf (own item rfl).1

end Books

/-- So long as all work goes through the queue, what is noted of a move goes back to the items that it settles. -/
theorem books_act {engine : Engine} {move : Move} (queued : move.isQueued = true) (tidy : engine.Tidy)
    (handsQueued : engine.HandsQueued) :
    Books (engine.act move).1 (engine.act move).2 (engine.settledBy move) := by
  cases move with
  | take =>
    rcases engine.take_cases with ⟨hact, hsettled⟩ | ⟨work, item, idle, -, hact, hsettled⟩ <;>
      rw [hact, hsettled]
    · exact .of_nothing rfl rfl handsQueued
    · cases item with
      | flush cache => exact .of_handleFlush idle
      | image request => exact .of_handleItem_image
  | presence answer => exact .of_answer tidy handsQueued (.inl ⟨answer, rfl⟩)
  | job answer => exact .of_answer tidy handsQueued (.inr ⟨answer, rfl⟩)
  -- Runs record nothing and start no runs, and no other part takes work from the queue.
  | look | pods | events => exact .of_advance handsQueued
  | expire | deleted => exact .of_advanceTable handsQueued
  | cancel number =>
    rw [Engine.act]
    split
    · exact .of_advance handsQueued
    · exact .of_nothing rfl rfl handsQueued
  | collect number =>
    rw [Engine.act]
    split
    · exact .of_nothing rfl rfl handsQueued
    · split
      · exact .of_stand handsQueued
      · exact .of_nothing Engine.recordings_stand starts_stand (by rwa [Engine.HandsQueued, Engine.inHand_stand])
  | takeReport =>
    rw [Engine.act]
    split <;> exact .of_nothing rfl rfl handsQueued
  | insert | resolve | dispatch | start | startUnguarded | close => exact absurd queued Bool.false_ne_true
  | add | addAfter | fire | observe | settle | tick | stop => exact .of_nothing rfl rfl handsQueued

theorem Move.keepsOpen_of_isQueued {move : Move} (queued : move.isQueued = true) :
    move.keepsOpen = true := by
  cases move <;> first | rfl | exact absurd queued Bool.false_ne_true

theorem Move.isInner_of_isQueued {move : Move} (queued : move.isQueued = true) :
    move.isInner = true := by
  cases move <;> first | rfl | exact absurd queued Bool.false_ne_true

theorem Move.isGuarded_of_isQueued {move : Move} (queued : move.isQueued = true) :
    move.isGuarded = true := by
  cases move <;> first | rfl | exact absurd queued Bool.false_ne_true

/-- In a course in which all work goes through the queue, as many entries are recorded and as many runs are
    started as items have that fate, and in the same order. -/
theorem books_after {settings : Settings} {work reports : QueueConfig} {moves : List Move}
    (queued : ∀ move ∈ moves, move.isQueued = true) :
    Books ((Engine.new settings work reports).after moves)
      ((Engine.new settings work reports).notes moves)
      ((Engine.new settings work reports).settled moves) := by
  induction moves using List.reverseRecOn with
  | nil => exact .of_nothing rfl rfl (Engine.handsQueued_of_idle rfl)
  | append_singleton moves move ih =>
    have queued' : ∀ move ∈ moves, move.isQueued = true := fun move h => queued move (by simp [h])
    have tidy := tidy_after settings work reports fun move h => Move.keepsOpen_of_isQueued (queued' move h)
    rw [Engine.after_concat, Engine.notes_concat, Engine.settled_concat]
    exact (ih queued').append (books_act (queued move (by simp)) tidy (ih queued').handsQueued)

end NodeImages.Work
