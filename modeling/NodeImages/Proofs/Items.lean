import NodeImages.Proofs.Course
import NodeImages.Proofs.Queue

/-!
# Items of work

An item that was put into the work queue waits there, in its row or for a timer, or is in the hands of the
dispatcher, until something becomes of it for good (`Fate`): an entry is recorded for it, it is discarded as
work that does not belong into the queue, it is dropped because it failed too often, or, if it is a flush, a run
is started for it. On the way it may be put in again any number of times.

* `keeps_act`: in a move, an item that the engine holds stays there or is settled;
* `added_eq_settled_add_held`: in a course, so does every item that was put in, each as often as it was;
* `started_of_take`: when a flush starts a run, no work on images is held for its image cache.
-/

namespace NodeImages.Work

/-- What becomes of an item in the end. -/
inductive Fate
  /-- An entry is recorded for it. -/
  | recorded
  /-- It is a status update, which does not belong into the queue. -/
  | discarded
  /-- The work on it failed, and it may not be tried again. -/
  | dropped
  /-- It is a flush, and a run is started. -/
  | started
  deriving DecidableEq

/-- The items that a move puts into the work queue. -/
def Move.added : Move → List Item
  | .add item | .addAfter item _ => [item]
  | _ => []

/-- Whether a move leaves the work queue open. -/
def Move.keepsOpen : Move → Bool
  | .close => false
  | _ => true

namespace Engine

/-- What becomes of an item whose dispatch has come to a point. -/
def settledOf (engine : Engine) (item : Option Item) (dispatch : Dispatch) : List (Item × Fate) :=
  match item, dispatch with
  | some item, .created _ _ | some item, .needless _ => [(item, .recorded)]
  | some item, .failed _ => if engine.work.mayRetry item then [] else [(item, .dropped)]
  | _, _ => []

/-- What becomes of an item that has been taken from the queue. -/
def settledTaken (engine : Engine) (item : Item) : List (Item × Fate) :=
  match item with
  | .flush _ => if (engine.handleFlush item).2.isEmpty then [] else [(item, .started)]
  | .image request => if request.kind = .statusUpdate then [(item, .discarded)] else []

/-- The items that are settled in a move. -/
def settledBy (engine : Engine) (move : Move) : List (Item × Fate) :=
  match move with
  | .take =>
    if engine.stopping || engine.inHand.isSome then []
    else
      match engine.work.take with
      | (work, .item item) => { engine with work }.settledTaken item
      | _ => []
  | .presence answer =>
    match engine.inHand with
    | some ⟨item, .asking request⟩ =>
      engine.settledOf item ((Dispatch.asking request).onPresence answer)
    | _ => []
  | .job answer =>
    match engine.inHand with
    | some ⟨item, .creating request⟩ =>
      engine.settledOf item ((Dispatch.creating request).onJob answer)
    | _ => []
  | _ => []

/-- The items that are settled in a row of moves. -/
def settled (engine : Engine) : List Move → List (Item × Fate)
  | [] => []
  | move :: rest => engine.settledBy move ++ (engine.act move).1.settled rest

variable {engine : Engine}

theorem settled_append (early late : List Move) :
    engine.settled (early ++ late) = engine.settled early ++ (engine.after early).settled late := by
  induction early generalizing engine with
  | nil => rfl
  | cons move rest ih => rw [List.cons_append, settled, ih, settled, List.append_assoc, after_cons]

theorem settled_concat (moves : List Move) (move : Move) :
    engine.settled (moves ++ [move]) = engine.settled moves ++ (engine.after moves).settledBy move := by
  rw [settled_append, settled, settled, List.append_nil]

/-- The items that wait in the work queue or are in the hands of the dispatcher. -/
def held (engine : Engine) : Multiset Item :=
  engine.work.held + ((engine.inHand.bind (·.item)).toList : List Item)

end Engine

/-- What is in the hands of the dispatcher is a request between two calls; if it is from the queue, it is the
    one of its item, which belongs there. -/
def Job.InHand.Sound (inHand : Job.InHand) : Prop :=
  ∃ request, (inHand.dispatch = .asking request ∨ inHand.dispatch = .creating request) ∧
    ∀ item ∈ inHand.item, item = .image request ∧ request.kind ≠ .statusUpdate

/-- What the engine keeps about the items that it holds. -/
structure Engine.Tidy (engine : Engine) : Prop where
  opened : engine.work.closed = false
  sound : engine.work.Sound
  inHand : ∀ inHand ∈ engine.inHand, inHand.Sound

theorem Engine.Tidy.new (settings : Settings) (work reports : QueueConfig) :
    (Engine.new settings work reports).Tidy where
  opened := rfl
  sound := .new work
  inHand _ h := absurd h (Option.some_ne_none _).symm

/-- What becomes of the items in a move: they are settled or held on to. -/
structure Keeps (engine engine' : Engine) (notes : List Note) (added : List Item)
    (settled : List (Item × Fate)) : Prop where
  tidy : engine'.Tidy
  held : (added : Multiset Item) + engine.held = (settled.map Prod.fst : List Item) + engine'.held
  /-- What is recorded is the request of the item. -/
  recorded : ∀ item, (item, .recorded) ∈ settled →
    ∃ job result, settled = [(item, .recorded)] ∧ notes = [.recorded job result] ∧
      item = .image result.request
  discarded : ∀ item, (item, .discarded) ∈ settled →
    ∃ request, item = .image request ∧ request.kind = .statusUpdate
  started : ∀ item, (item, .started) ∈ settled → ∃ cache, item = .flush cache

/-! ## Dispatches -/

/-- A dispatch is of a request. -/
def Dispatch.IsOf (request : Request) : Dispatch → Prop
  | asking r | creating r | created r _ | needless r => r = request
  | failed _ => True

namespace Dispatch

variable {request : Request}

theorem isOf_first (policy : PullPolicy) (request : Request) : (first policy request).IsOf request := by
  rw [first]
  split <;> rfl

theorem isOf_onPresence (answer : Outcome Bool) (request : Request) :
    ((asking request).onPresence answer).IsOf request := by
  rcases answer with _ | _ | _ <;> trivial

theorem isOf_onJob (answer : Outcome String) (request : Request) :
    ((creating request).onJob answer).IsOf request := by
  cases answer <;> trivial

end Dispatch

namespace Engine

/-- The dispatcher takes an item from the queue when it has none in hand, or nothing happens. -/
theorem take_cases (engine : Engine) :
    (engine.act .take = (engine, []) ∧ engine.settledBy .take = []) ∨
      ∃ work item, engine.inHand = none ∧ engine.work.take = (work, .item item) ∧
        engine.act .take = { engine with work }.handleItem item ∧
        engine.settledBy .take = { engine with work }.settledTaken item := by
  rw [act, settledBy]
  split
  · exact .inl ⟨rfl, rfl⟩
  · rename_i hidle
    rw [Bool.or_eq_true, not_or, Bool.not_eq_true, Bool.not_eq_true, Option.isSome_eq_false_iff,
      Option.isNone_iff_eq_none] at hidle
    rcases engine.work.take with ⟨work, item | _ | _⟩
    · exact .inr ⟨work, item, hidle.2, rfl, rfl, rfl⟩
    · exact .inl ⟨rfl, rfl⟩
    · exact .inl ⟨rfl, rfl⟩

/-- A request that has just been taken up is not settled. -/
theorem settledOf_first (engine : Engine) (item : Option Item) (policy : PullPolicy) (request : Request) :
    engine.settledOf item (.first policy request) = [] := by
  rw [Dispatch.first]
  cases item <;> split <;> rfl

/-- A flush is held back, or it starts a run. -/
theorem handleFlush_cases (engine : Engine) (cache : Cluster.ImageCache) :
    let flush := Item.flush cache
    (engine.handleFlush flush =
        ({ engine with
            work := ((engine.work.forget flush).addAfter engine.now flush
              engine.settings.flushRetryMs).done flush },
          []) ∧
      engine.settledTaken flush = []) ∨
    (engine.work.hasOutstanding (Item.isImageKey · cache.key) = false ∧
      engine.isBarred cache.key = false ∧
      engine.handleFlush flush =
        ({ (engine.addRun cache.key true).1 with work := (engine.work.forget flush).done flush },
          [.started engine.nextRun cache.key]) ∧
      engine.settledTaken flush = [(flush, .started)]) := by
  intro flush
  rw [settledTaken, handleFlush]
  dsimp only
  split
  · exact .inl ⟨rfl, rfl⟩
  · rename_i hclear
    rw [Bool.or_eq_true, not_or, Bool.not_eq_true, Bool.not_eq_true] at hclear
    have hstart : ({ engine with work := engine.work.forget flush } : Engine).startRun flush.cacheKey =
        ({ engine with work := engine.work.forget flush } : Engine).addRun flush.cacheKey true :=
      if_neg (by rw [hclear.2]; exact Bool.false_ne_true)
    rw [hstart]
    exact .inr ⟨hclear.1, hclear.2, rfl, rfl⟩

/-- An answer to the dispatcher is that to the call it waits for, which is for the item in hand, or nothing
    happens. -/
theorem Tidy.answer_cases {engine : Engine} (tidy : engine.Tidy) {move : Move}
    (answers : (∃ answer, move = .presence answer) ∨ ∃ answer, move = .job answer) :
    (engine.act move = (engine, []) ∧ engine.settledBy move = []) ∨
      ∃ item request dispatch dispatch', engine.inHand = some ⟨item, dispatch⟩ ∧
        Dispatch.IsOf request dispatch' ∧
        (∀ i ∈ item, i = .image request ∧ request.kind ≠ .statusUpdate) ∧
        engine.act move = engine.handle item dispatch' ∧
        engine.settledBy move = engine.settledOf item dispatch' := by
  rcases hand : engine.inHand with _ | ⟨item, dispatch⟩
  · left
    rcases answers with ⟨answer, rfl⟩ | ⟨answer, rfl⟩ <;>
      exact ⟨by rw [act, hand], by rw [settledBy, hand]⟩
  · obtain ⟨request, of, own⟩ := tidy.inHand _ hand
    have of : dispatch = .asking request ∨ dispatch = .creating request := of
    -- An answer to the other call than the one that is waited for is of no use.
    rcases answers with ⟨answer, rfl⟩ | ⟨answer, rfl⟩ <;> rcases of with rfl | rfl
    · exact .inr ⟨item, request, _, _, rfl, Dispatch.isOf_onPresence answer request, own,
        by rw [act, hand], by rw [settledBy, hand]⟩
    · exact .inl ⟨by rw [act, hand], by rw [settledBy, hand]⟩
    · exact .inl ⟨by rw [act, hand], by rw [settledBy, hand]⟩
    · exact .inr ⟨item, request, _, _, rfl, Dispatch.isOf_onJob answer request, own,
        by rw [act, hand], by rw [settledBy, hand]⟩

end Engine

namespace Keeps

variable {engine engine' : Engine} {notes : List Note}

/-- When nothing happens to the work queue and the dispatcher, all items are held on to. -/
theorem of_same (tidy : engine.Tidy) (work : engine'.work = engine.work)
    (inHand : engine'.inHand = engine.inHand) : Keeps engine engine' notes [] [] where
  tidy := ⟨work ▸ tidy.opened, work ▸ tidy.sound, inHand ▸ tidy.inHand⟩
  held := by rw [Engine.held, Engine.held, work, inHand]; rfl
  recorded _ h := absurd h List.not_mem_nil
  discarded _ h := absurd h List.not_mem_nil
  started _ h := absurd h List.not_mem_nil

section

variable {base : Engine} {item : Item} {request : Request} (opened : engine.work.closed = false)
  (sound : engine.work.Sound) (hbase : base.held = engine.work.held + {item})

include opened sound hbase

/-- The work on an item went well, and its entry is recorded. -/
theorem of_finish {job : JobId} {result : Result} (hitem : item = .image result.request)
    (work : engine'.work = (engine.finish (some item)).work) (inHand : engine'.inHand = none) :
    Keeps base engine' [.recorded job result] [] [(item, .recorded)] where
  tidy := ⟨work ▸ opened, work ▸ sound.of_eq rfl rfl rfl, fun _ h => by rw [inHand] at h; cases h⟩
  held := by
    rw [hbase, Engine.held, work, inHand]
    show 0 + (engine.work.held + {item}) = {item} + (engine.work.held + 0)
    rw [zero_add, add_zero, add_comm]
  recorded i hi := by
    obtain ⟨rfl, -⟩ := Prod.mk.inj (List.mem_singleton.1 hi)
    exact ⟨job, result, rfl, rfl, hitem⟩
  discarded i hi := by simp at hi
  started i hi := by simp at hi

/-- The work on an item failed, and it is put in again or dropped. -/
theorem of_giveBack :
    Keeps base (engine.giveBack (some item)) notes []
      (if engine.work.mayRetry item then [] else [(item, .dropped)]) := by
  have opened' : (engine.work.done item).closed = false := opened
  have sound' : (engine.work.done item).Sound := sound.of_eq rfl rfl rfl
  have hheld : (engine.giveBack (some item)).held =
      if engine.work.mayRetry item then item ::ₘ engine.work.held else engine.work.held := by
    rw [Engine.held]
    show ((engine.work.done item).requeue engine.now item).held + 0 = _
    rw [Queue.held_requeue opened', add_zero]
    rfl
  refine ⟨⟨Queue.closed_requeue.trans opened', sound'.requeue _ _,
    fun _ h => absurd h (Option.some_ne_none _).symm⟩, ?_, ?_, ?_, ?_⟩
  · rw [hbase, hheld]
    split
    · rw [add_comm engine.work.held, Multiset.singleton_add]
      rfl
    · rw [add_comm engine.work.held]
      rfl
  all_goals
    intro i hi
    split at hi <;> simp at hi

end

/-- An item that is handed over to a dispatch is recorded, put in again, dropped or held in hand. -/
theorem of_handle {base : Engine} {item : Option Item} {dispatch : Dispatch} {request : Request}
    (opened : engine.work.closed = false) (sound : engine.work.Sound)
    (hbase : base.held = engine.work.held + (item.toList : List Item))
    (isOf : dispatch.IsOf request)
    (own : ∀ i ∈ item, i = .image request ∧ request.kind ≠ .statusUpdate) :
    Keeps base (engine.handle item dispatch).1 (engine.handle item dispatch).2 []
      (engine.settledOf item dispatch) := by
  have inHand (h : dispatch = .asking request ∨ dispatch = .creating request) :
      Keeps base { engine with inHand := some ⟨item, dispatch⟩ } [] [] [] := by
    refine ⟨⟨opened, sound, fun _ h' => ?_⟩, by rw [hbase]; rfl, fun _ h => absurd h List.not_mem_nil,
      fun _ h => absurd h List.not_mem_nil, fun _ h => absurd h List.not_mem_nil⟩
    cases h'
    exact ⟨request, h, own⟩
  -- What becomes of a request that is not from the queue does not concern the items.
  have elsewhere (hnone : item = none) {engine' : Engine} {notes : List Note}
      (work : engine'.work = engine.work) (free : engine'.inHand = none) :
      Keeps base engine' notes [] [] := by
    subst hnone
    exact ⟨⟨work ▸ opened, work ▸ sound, fun _ h => by rw [free] at h; cases h⟩,
      by rw [hbase, Engine.held, work, free]; rfl, fun _ h => absurd h List.not_mem_nil,
      fun _ h => absurd h List.not_mem_nil, fun _ h => absurd h List.not_mem_nil⟩
  cases dispatch with
  | asking r =>
    cases isOf
    cases item <;> exact inHand (.inl rfl)
  | creating r =>
    cases isOf
    cases item <;> exact inHand (.inr rfl)
  | created r name =>
    cases isOf
    cases item with
    | none => exact elsewhere rfl rfl rfl
    | some item => exact of_finish opened sound hbase (own item rfl).1 rfl rfl
  | needless r =>
    cases isOf
    cases item with
    | none => exact elsewhere rfl rfl rfl
    | some item => exact of_finish opened sound hbase (own item rfl).1 rfl rfl
  | failed failure =>
    cases item with
    | none => exact elsewhere rfl rfl rfl
    | some item => exact of_giveBack opened sound hbase

/-- A flush that is held back is put in again. -/
theorem of_handleFlush {base : Engine} {cache : Cluster.ImageCache}
    (opened : engine.work.closed = false) (sound : engine.work.Sound) (free : engine.inHand = none)
    (hbase : base.held = engine.work.held + {.flush cache}) :
    Keeps base (engine.handleFlush (.flush cache)).1 (engine.handleFlush (.flush cache)).2 []
      (engine.settledTaken (.flush cache)) := by
  have hand : ∀ hand ∈ engine.inHand, hand.Sound := fun _ h => by rw [free] at h; cases h
  rcases engine.handleFlush_cases cache with ⟨hflush, hsettled⟩ | ⟨-, -, hflush, hsettled⟩ <;>
    rw [hflush, hsettled]
  · have opened' : (engine.work.forget (.flush cache)).closed = false := opened
    have sound' : (engine.work.forget (.flush cache)).Sound := sound.of_eq rfl rfl rfl
    have hheld := Queue.held_addAfter opened' engine.now (.flush cache) engine.settings.flushRetryMs
    refine ⟨⟨Queue.closed_addAfter.trans opened', ?_, hand⟩, ?_, fun _ h => ?_, fun _ h => ?_,
      fun _ h => ?_⟩
    · exact (sound'.addAfter _ _ _).of_eq rfl rfl rfl
    · rw [hbase, Engine.held, free]
      show 0 + (engine.work.held + {.flush cache}) = 0 +
        (((engine.work.forget (.flush cache)).addAfter engine.now (.flush cache)
          engine.settings.flushRetryMs).held + 0)
      rw [hheld, add_zero, add_comm engine.work.held, Multiset.singleton_add]
      rfl
    all_goals exact absurd h List.not_mem_nil
  · refine ⟨⟨opened, sound.of_eq rfl rfl rfl, hand⟩, ?_, fun _ h => ?_, fun _ h => ?_,
      fun _ h => ?_⟩
    · rw [hbase, Engine.held]
      show 0 + (engine.work.held + {.flush cache}) = {.flush cache} +
        (engine.work.held + ((engine.inHand.bind (·.item)).toList : List Item))
      rw [free, zero_add, add_comm engine.work.held]
      exact congrArg _ (add_zero _).symm
    · cases List.mem_singleton.1 h
    · cases List.mem_singleton.1 h
    · cases List.mem_singleton.1 h
      exact ⟨cache, rfl⟩

theorem of_handleItem {base : Engine} {item : Item} (opened : engine.work.closed = false)
    (sound : engine.work.Sound) (free : engine.inHand = none)
    (hbase : base.held = engine.work.held + {item}) :
    Keeps base (engine.handleItem item).1 (engine.handleItem item).2 []
      (engine.settledTaken item) := by
  cases item with
  | flush cache => exact of_handleFlush opened sound free hbase
  | image request =>
    rw [Engine.handleItem, Engine.settledTaken]
    split
    · rename_i hkind
      refine ⟨⟨opened, sound.of_eq rfl rfl rfl, fun _ h => absurd h (Option.some_ne_none _).symm⟩, ?_,
        fun _ h => ?_, fun _ h => ?_, fun _ h => ?_⟩
      · show 0 + base.held = {.image request} + (engine.work.held + 0)
        rw [hbase, zero_add, add_zero, add_comm]
      · simp at h
      · obtain ⟨rfl, -⟩ := Prod.mk.inj (List.mem_singleton.1 h)
        exact ⟨request, rfl, hkind⟩
      · simp at h
    · rename_i hkind
      rw [← engine.settledOf_first (some (.image request)) engine.settings.policy request]
      refine of_handle opened sound hbase (Dispatch.isOf_first _ _) fun item h => ?_
      cases h
      exact ⟨rfl, hkind⟩

/-- An item that is taken from the queue was held there. -/
theorem of_take (tidy : engine.Tidy) :
    Keeps engine (engine.act .take).1 (engine.act .take).2 [] (engine.settledBy .take) := by
  rcases engine.take_cases with ⟨hact, hsettled⟩ | ⟨work, item, hfree, htake, hact, hsettled⟩
  · rw [hact, hsettled]
    exact of_same tidy rfl rfl
  · have hheld := Queue.held_take htake
    obtain ⟨rest, processing, hitems, rfl⟩ := Queue.take_eq_item htake
    rw [hact, hsettled]
    refine of_handleItem tidy.opened (tidy.sound.of_eq rfl rfl rfl) hfree ?_
    rw [Engine.held, hfree, hheld]
    exact (add_zero _).trans ((Multiset.singleton_add item _).symm.trans (add_comm _ _))

/-- The call that is waited for is answered. -/
theorem of_answer (tidy : engine.Tidy) {move : Move}
    (answers : (∃ answer, move = .presence answer) ∨ ∃ answer, move = .job answer) :
    Keeps engine (engine.act move).1 (engine.act move).2 [] (engine.settledBy move) := by
  rcases tidy.answer_cases answers with
    ⟨hact, hsettled⟩ | ⟨item, request, dispatch, dispatch', hand, isOf, own, hact, hsettled⟩ <;>
    rw [hact, hsettled]
  · exact of_same tidy rfl rfl
  · exact of_handle tidy.opened tidy.sound (by rw [Engine.held, hand]; rfl) isOf own

end Keeps

namespace Engine

variable {engine : Engine}

@[simp] theorem work_stand (run : ActiveRun) (stage : Stage) :
    (engine.stand run stage).1.work = engine.work := by
  cases stage <;> rfl

@[simp] theorem inHand_stand (run : ActiveRun) (stage : Stage) :
    (engine.stand run stage).1.inHand = engine.inHand := by
  cases stage <;> rfl

theorem keeps_advance (tidy : engine.Tidy) (number : Nat) (next : RunPlan → Stage → Stage) :
    Keeps engine (engine.advance number next).1 (engine.advance number next).2 [] [] := by
  rw [advance]
  split
  · exact .of_same tidy rfl rfl
  · exact .of_same tidy (work_stand _ _) (inHand_stand _ _)

theorem keeps_advanceTable (tidy : engine.Tidy) (number : Nat)
    (next : RunPlan → Table → Stage → Table × Stage) :
    Keeps engine (engine.advanceTable number next).1 (engine.advanceTable number next).2 [] [] := by
  rw [advanceTable]
  split
  · exact .of_same tidy rfl rfl
  · exact .of_same tidy (work_stand _ _) (inHand_stand _ _)

/-- An item that is put in is held. -/
theorem keeps_addAfter (tidy : engine.Tidy) (item : Item) (delay : Nat) :
    Keeps engine { engine with work := engine.work.addAfter engine.now item delay } [] [item] [] where
  tidy := ⟨Queue.closed_addAfter.trans tidy.opened, tidy.sound.addAfter _ _ _, tidy.inHand⟩
  held := by
    show {item} + engine.held = 0 + Engine.held { engine with work := _ }
    rw [held, held, Queue.held_addAfter tidy.opened, zero_add, Multiset.singleton_add,
      Multiset.cons_add]
  recorded _ h := absurd h List.not_mem_nil
  discarded _ h := absurd h List.not_mem_nil
  started _ h := absurd h List.not_mem_nil

/-- So long as the work queue stays open, a move settles items or holds on to them. -/
theorem keeps_act {move : Move} (opens : move.keepsOpen = true) (tidy : engine.Tidy) :
    Keeps engine (engine.act move).1 (engine.act move).2 move.added (engine.settledBy move) := by
  cases move with
  | add item => exact keeps_addAfter tidy item 0
  | addAfter item delay => exact keeps_addAfter tidy item delay
  | fire number =>
    refine ⟨⟨Queue.closed_fire.trans tidy.opened, tidy.sound.fire _, tidy.inHand⟩, ?_,
      fun _ h => absurd h List.not_mem_nil, fun _ h => absurd h List.not_mem_nil,
      fun _ h => absurd h List.not_mem_nil⟩
    have hheld := Queue.held_fire tidy.sound tidy.opened number
    show 0 + engine.held = 0 + Engine.held { engine with work := engine.work.fire number }
    rw [held, held, hheld]
  | close => exact absurd opens Bool.false_ne_true
  | take => exact .of_take tidy
  | dispatch request =>
    rw [act]
    split
    · exact .of_same tidy rfl rfl
    · rename_i hidle
      rw [Bool.not_eq_true, Option.isSome_eq_false_iff, Option.isNone_iff_eq_none] at hidle
      refine .of_handle tidy.opened tidy.sound (by rw [held, hidle]; rfl)
        (Dispatch.isOf_first engine.settings.policy request) fun _ h => ?_
      exact absurd h (Option.some_ne_none _).symm
  | presence answer => exact .of_answer tidy (.inl ⟨answer, rfl⟩)
  | job answer => exact .of_answer tidy (.inr ⟨answer, rfl⟩)
  | start cacheKey =>
    rw [act, startRun]
    split <;> exact .of_same tidy rfl rfl
  | look | pods | events => exact keeps_advance tidy _ _
  | expire | deleted => exact keeps_advanceTable tidy _ _
  | cancel number =>
    rw [act]
    split
    · exact keeps_advance tidy _ _
    · exact .of_same tidy rfl rfl
  | collect number =>
    rw [act]
    split
    · exact .of_same tidy rfl rfl
    · split <;> exact .of_same tidy (work_stand _ _) (inHand_stand _ _)
  | takeReport =>
    rw [act]
    split <;> exact .of_same tidy rfl rfl
  | observe | settle | insert | resolve | startUnguarded | tick | stop =>
    exact .of_same tidy rfl rfl

end Engine

/-! ## Courses -/

section

variable (settings : Settings) (work reports : QueueConfig) {moves : List Move}

theorem tidy_after (opens : ∀ move ∈ moves, move.keepsOpen = true) :
    ((Engine.new settings work reports).after moves).Tidy := by
  induction moves using List.reverseRecOn with
  | nil => exact .new settings work reports
  | append_singleton moves move ih =>
    rw [Engine.after_concat]
    exact (Engine.keeps_act (opens move (by simp)) (ih fun move h => opens move (by simp [h]))).tidy

/-- In a course in which the work queue stays open, what was put in has been settled or is held, each item as
    often as it was put in. -/
theorem added_eq_settled_add_held (opens : ∀ move ∈ moves, move.keepsOpen = true) :
    (moves.flatMap Move.added : Multiset Item) =
      (((Engine.new settings work reports).settled moves).map Prod.fst : List Item) +
        ((Engine.new settings work reports).after moves).held := by
  induction moves using List.reverseRecOn with
  | nil => rfl
  | append_singleton moves move ih =>
    have opens' : ∀ move ∈ moves, move.keepsOpen = true := fun move h => opens move (by simp [h])
    have hkeeps := Engine.keeps_act (opens move (by simp))
      (tidy_after settings work reports opens')
    rw [Engine.after_concat, Engine.settled_concat, List.flatMap_append, List.map_append,
      ← Multiset.coe_add, ← Multiset.coe_add, ih opens', List.flatMap_singleton, add_assoc, add_assoc,
      ← hkeeps.held, add_comm (_ : Multiset Item) (Engine.held _)]

end

/-! ## Flushes -/

/-- The key of work on an image starts with the key of its image cache and a slash. -/
theorem Item.isImageKey_key (request : Request) :
    Item.isImageKey (Item.key (.image request)) request.cacheKey = true := by
  rw [Item.isImageKey, Item.key, Item.imageKey, List.isPrefixOf_iff_prefix]
  refine ⟨(request.kind.name ++ "/" ++ request.image ++ "@" ++ request.nodeName).toList, ?_⟩
  simp

/-- When a flush starts a run, the dispatcher has nothing in hand, and no work on images is outstanding for its
    image cache. -/
theorem started_of_take {engine : Engine} {number : Nat} {cacheKey : String}
    (h : .started number cacheKey ∈ (engine.act .take).2) :
    number = engine.nextRun ∧ engine.inHand = none ∧ engine.isBarred cacheKey = false ∧
      ∃ cache work, cache.key = cacheKey ∧ engine.work.take = (work, .item (.flush cache)) ∧
        work.hasOutstanding (Item.isImageKey · cacheKey) = false := by
  rcases engine.take_cases with ⟨hact, -⟩ | ⟨work, item, hfree, htake, hact, -⟩ <;> rw [hact] at h
  · exact absurd h List.not_mem_nil
  · cases item with
    | image request =>
      rw [Engine.handleItem] at h
      split at h
      · exact absurd h List.not_mem_nil
      · rw [Dispatch.first] at h
        split at h <;> exact absurd h List.not_mem_nil
    | flush cache =>
      rw [Engine.handleItem] at h
      rcases { engine with work }.handleFlush_cases cache with
        ⟨hflush, -⟩ | ⟨hclear, hfree', hflush, -⟩ <;> rw [hflush] at h
      · exact absurd h List.not_mem_nil
      · cases List.mem_singleton.1 h
        exact ⟨rfl, hfree, hfree', cache, work, rfl, htake, hclear⟩

/-- When a flush starts a run, no work on images is held for its image cache. -/
theorem ne_of_mem_held_of_started {engine : Engine} (tidy : engine.Tidy) {number : Nat}
    {cacheKey : String} (h : .started number cacheKey ∈ (engine.act .take).2) {request : Request}
    (hheld : .image request ∈ engine.held) : request.cacheKey ≠ cacheKey := by
  obtain ⟨-, hfree, -, cache, work, rfl, htake, hclear⟩ := started_of_take h
  rw [Engine.held, hfree, Queue.held_take htake] at hheld
  obtain ⟨rest, processing, hitems, rfl⟩ := Queue.take_eq_item htake
  rintro hkey
  have hmem : Item.image request ∈
      ({ engine.work with items := rest, processing } : Queue Item).held := by
    simpa using hheld
  have sound : ({ engine.work with items := rest, processing } : Queue Item).Sound :=
    tidy.sound.of_eq rfl rfl rfl
  have houtstanding := sound.not_of_mem_held hclear hmem
  rw [← hkey] at houtstanding
  exact Bool.false_ne_true (houtstanding.symm.trans (Item.isImageKey_key request))

end NodeImages.Work
