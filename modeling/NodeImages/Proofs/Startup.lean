import NodeImages.Proofs.Calls
import NodeImages.Proofs.Queue
import NodeImages.Proofs.Surroundings
import NodeImages.Work.Manager

/-!
# The start of a manager

A manager that has been started waits until the watch has listed all pods. Its tasks may go on in any order, with any
choice between the things that each waits for, whatever comes out of the stream of the watch and whatever is put into
the work queue meanwhile (`ManagerMove.isOfRun`).

* `engine_act_cases`: what the tasks of a manager have its engine do;
* `Manager.Unlisted`, `Unlisted.act`: what holds until the watch has listed all pods;
* `nothing_before_listing`: until then nothing is taken from the queue, no call is made, and the table stays empty;
  if the manager is told to stop by then, or the watch ends, so it is for ever; and once it has been told to stop,
  nothing more is taken from the queue.
-/

namespace NodeImages.Work

open Cluster

/-- Whether a move of an engine is left to its surroundings when it has a manager. The others are those of the tasks
    of the manager, or reach past them. -/
def Move.isAmbient : Move → Bool
  | .take | .dispatch _ | .observe _ | .settle _ | .insert _ _ | .resolve _ _ _ _ | .start _
  | .startUnguarded _ => false
  | _ => true

/-- Whether a move may be made while a manager is under way. -/
def ManagerMove.isOfRun : ManagerMove → Bool
  | .start => false
  | .engine move => move.isAmbient
  | _ => true

namespace Manager

/-- The manager after a row of moves. -/
def after (manager : Manager) (moves : List ManagerMove) : Manager :=
  moves.foldl (fun manager move => (manager.act move).1) manager

/-- What the watch takes out of its stream in a move. -/
def observed? (manager : Manager) (move : ManagerMove) : Option WatchItem :=
  match move with
  | .watch _ =>
    if (manager.act move).1.stream.length < manager.stream.length then manager.stream.head? else none
  | _ => none

/-- What the watch takes out of its stream in a row of moves. -/
def observed (manager : Manager) : List ManagerMove → List WatchItem
  | [] => []
  | move :: rest => (manager.observed? move).toList ++ (manager.act move).1.observed rest

/-- The item that the dispatcher takes from the work queue in a move. -/
def handed? (manager : Manager) : ManagerMove → Option Item
  | .dispatcher =>
    if manager.dispatcher = .running && manager.engine.inHand.isNone && !manager.dispatcherIsDone then
      match manager.engine.work.take.2 with
      | .item item => some item
      | _ => none
    else none
  | _ => none

/-- The items that the dispatcher takes from the work queue in a row of moves. -/
def handed (manager : Manager) : List ManagerMove → List Item
  | [] => []
  | move :: rest => (manager.handed? move).toList ++ (manager.act move).1.handed rest

variable {manager : Manager} {move : ManagerMove} {moves early late : List ManagerMove}

@[simp] theorem after_nil : manager.after [] = manager := rfl

@[simp] theorem after_cons (move : ManagerMove) (rest : List ManagerMove) :
    manager.after (move :: rest) = (manager.act move).1.after rest := rfl

theorem after_append (early late : List ManagerMove) :
    manager.after (early ++ late) = (manager.after early).after late := List.foldl_append

end Manager

/-! ## Quiet engines -/

/-- An engine that knows of no job and has nothing to do. -/
structure Engine.Quiet (engine : Engine) : Prop where
  table : engine.table = .empty
  inHand : engine.inHand = none
  runs : engine.runs = []

/-- There is nothing to be resolved in an empty table. -/
theorem Table.settlePod_empty (pod : Pod) : Table.empty.settlePod pod = .empty := by
  rw [Table.settlePod]
  split
  · rfl
  · split
    · rfl
    · split <;> rfl

/-- A run that is not there has no part in a move of its own. -/
theorem Engine.act_of_gone {engine : Engine} {move : Move} {number : Nat} (own : move.run? = some number)
    (gone : engine.run? number = none) : engine.act move = (engine, []) := by
  cases move with
  | look | pods | events =>
    obtain rfl := Option.some.inj own
    rw [Engine.act, Engine.advance, gone]
  | cancel =>
    obtain rfl := Option.some.inj own
    rw [Engine.act, Engine.advance, gone, ite_self]
  | expire | deleted =>
    obtain rfl := Option.some.inj own
    rw [Engine.act, Engine.advanceTable, gone]
  | collect =>
    obtain rfl := Option.some.inj own
    rw [Engine.act, gone]
  | _ => exact absurd own (Option.some_ne_none _).symm

namespace Engine.Quiet

variable {engine : Engine} {move : Move}

theorem awaited (quiet : engine.Quiet) : engine.awaited = [] := by
  rw [Engine.awaited, quiet.inHand, quiet.runs]
  rfl

theorem run? (quiet : engine.Quiet) (number : Nat) : engine.run? number = none := by
  rw [Engine.run?, quiet.runs]
  rfl

/-- Its surroundings leave it so. -/
theorem act (quiet : engine.Quiet) (ambient : move.isAmbient = true) : (engine.act move).1.Quiet := by
  cases hown : move.run? with
  | some number =>
    rw [Engine.act_of_gone hown (quiet.run? number)]
    exact quiet
  | none =>
    obtain ⟨table, inHand, runs⟩ := quiet
    cases move with
    | add | addAfter | fire | tick | stop | close => exact ⟨table, inHand, runs⟩
    | presence answer | job answer =>
      rw [Engine.act, inHand]
      exact ⟨table, inHand, runs⟩
    | takeReport =>
      rw [Engine.act]
      split <;> exact ⟨table, inHand, runs⟩
    | look | cancel | pods | events | expire | deleted | collect =>
      exact absurd hown (Option.some_ne_none _)
    | _ => exact absurd ambient Bool.false_ne_true

/-- So does news of pods. -/
theorem observe (quiet : engine.Quiet) (event : WatchEvent) :
    (engine.act (.observe event)).1.Quiet := by
  have see (memory : Memory) (pod : Pod) : (memory.see pod .empty).2 = .empty := by
    rw [Memory.see]
    dsimp only
    split
    · exact Table.settlePod_empty pod
    · rfl
  refine ⟨?_, quiet.inHand, quiet.runs⟩
  rw [Engine.act, quiet.table]
  cases event with
  | listed pod | changed pod => exact see _ pod
  | _ => rfl

end Engine.Quiet

namespace Manager

variable {manager : Manager} {move : ManagerMove} {moves early late : List ManagerMove}

/-! ## Moves -/

/-- What the manager itself does when it goes on. -/
inductive Stride (manager : Manager) (choice : Choice) : Manager → Prop
  /-- Nothing. -/
  | stay : Stride manager choice manager
  /-- It returns, because it is told to stop before all pods are listed. -/
  | abort (stage : manager.stage = .syncing) (stopping : manager.engine.stopping = true)
      (heeds : choice = .stop ∨ manager.signal = .awaited) :
      Stride manager choice (manager.closeWork.finish (.ok ()))
  /-- All pods are listed, and it has work dispatched. -/
  | work (stage : manager.stage = .syncing) (signal : manager.signal = .given) :
      Stride manager choice { manager with stage := .working, dispatcher := .running }
  /-- The watch has ended before all pods were listed. -/
  | fail (stage : manager.stage = .syncing) (signal : manager.signal = .lost)
      (heeds : manager.engine.stopping = true → choice = .other) :
      Stride manager choice
        (manager.finish (.error (.of .unavailable "Pod watch ended before syncing")))
  /-- It is told to stop while work is dispatched. -/
  | drain (stage : manager.stage = .working) (stopping : manager.engine.stopping = true) :
      Stride manager choice { manager.closeWork with stage := .draining }
  /-- The dispatcher has stopped. -/
  | close (stage : manager.stage = .draining) (dispatcher : manager.dispatcher = .ended) :
      Stride manager choice { manager with stage := .closing }
  /-- So has the watch. -/
  | finish (stage : manager.stage = .closing) (watch : manager.watch = .ended) :
      Stride manager choice (manager.finish (.ok ()))

theorem stepManager_stride (manager : Manager) (choice : Choice) :
    Stride manager choice (manager.stepManager choice) := by
  rw [stepManager]
  split
  · rename_i stage
    split
    · rename_i h
      simp only [Bool.and_eq_true, Bool.or_eq_true, beq_iff_eq] at h
      exact .abort stage h.1 h.2
    · rename_i h
      simp only [Bool.and_eq_true, Bool.or_eq_true, beq_iff_eq, not_and, not_or] at h
      split
      · exact .stay
      · exact .work stage ‹_›
      · refine .fail stage ‹_› fun stopping => ?_
        cases choice with
        | stop => exact absurd rfl (h stopping).1
        | other => rfl
  · split
    · exact .drain ‹_› ‹_›
    · exact .stay
  · split
    · exact .close ‹_› ‹_›
    · exact .stay
  · split
    · exact .finish ‹_› ‹_›
    · exact .stay
  · exact .stay
  · exact .stay

/-- A manager that has returned leaves nothing behind that goes on. -/
theorem finish_idle (outcome : Outcome Unit) :
    (manager.finish outcome).dispatcher ≠ .running ∧ (manager.finish outcome).watch ≠ .running := by
  have idle (stage : TaskStage) :
      (if stage = .running then TaskStage.ended else stage) ≠ .running := by
    cases stage <;> decide
  exact ⟨idle _, idle _⟩

/-- What the watch takes up concerns the engine and the signal. -/
theorem takeUp_frame (manager : Manager) (item : WatchItem) :
    (manager.takeUp item).stage = manager.stage ∧ (manager.takeUp item).watch = manager.watch ∧
      (manager.takeUp item).dispatcher = manager.dispatcher ∧
      (manager.takeUp item).stream = manager.stream := by
  cases item with
  | fault => exact ⟨rfl, rfl, rfl, rfl⟩
  | event event => cases event <;> exact ⟨rfl, rfl, rfl, rfl⟩

@[simp] theorem stream_takeUp (item : WatchItem) : (manager.takeUp item).stream = manager.stream :=
  (takeUp_frame manager item).2.2.2

/-- What the watch does when it goes on: nothing, or it ends, or it takes up what comes next. -/
theorem stepWatch_cases (manager : Manager) (choice : Choice) :
    (manager.stepWatch choice = manager ∧ manager.observed? (.watch choice) = none) ∨
    (manager.watch = .running ∧ manager.stepWatch choice = manager.endWatch ∧
      manager.observed? (.watch choice) = none) ∨
    ∃ item rest, manager.watch = .running ∧ manager.stream = item :: rest ∧
      manager.stepWatch choice = { manager with stream := rest }.takeUp item ∧
      manager.observed? (.watch choice) = some item := by
  have unread {manager' : Manager} (h : manager.stepWatch choice = manager')
      (same : manager'.stream = manager.stream) : manager.observed? (.watch choice) = none := by
    rw [observed?, act, h, same]
    exact if_neg (Nat.lt_irrefl _)
  have read {item : WatchItem} {rest : List WatchItem} (hstream : manager.stream = item :: rest)
      (h : manager.stepWatch choice = { manager with stream := rest }.takeUp item) :
      manager.observed? (.watch choice) = some item := by
    rw [observed?, act, h, stream_takeUp, hstream]
    exact if_pos (Nat.lt_succ_self _)
  by_cases hwatch : manager.watch = .running
  · by_cases hstop : (manager.engine.stopping &&
        (choice == .stop || manager.stream.isEmpty && !manager.streamOver)) = true
    · have h : manager.stepWatch choice = manager.endWatch := by
        rw [stepWatch, hwatch]
        exact if_pos hstop
      exact .inr (.inl ⟨hwatch, h, unread h rfl⟩)
    · cases hstream : manager.stream with
      | cons item rest =>
        have h : manager.stepWatch choice = { manager with stream := rest }.takeUp item := by
          rw [stepWatch, hwatch]
          dsimp only
          rw [if_neg hstop, hstream]
        exact .inr (.inr ⟨item, rest, hwatch, rfl, h, read hstream h⟩)
      | nil =>
        have h : manager.stepWatch choice = if manager.streamOver then manager.endWatch else manager := by
          rw [stepWatch, hwatch]
          dsimp only
          rw [if_neg hstop, hstream]
        split at h
        · exact .inr (.inl ⟨hwatch, h, unread h rfl⟩)
        · exact .inl ⟨h, unread h rfl⟩
  · have h : manager.stepWatch choice = manager := by
      rw [stepWatch]
      split
      · exact absurd ‹_› hwatch
      · rfl
    exact .inl ⟨h, unread h rfl⟩

/-- What the tasks of a manager have its engine do: the work queue is closed, news of pods is taken up, or the
    dispatcher takes an item; or it is what the surroundings do. -/
theorem engine_act_cases (ofRun : move.isOfRun = true) :
    (manager.act move).1.engine = manager.engine ∨
    (∃ inner, (inner.isAmbient = true ∨ ∃ event, inner = .observe event) ∧
      (manager.act move).1.engine = (manager.engine.act inner).1) ∨
    ∃ item, manager.handed? move = some item ∧
      (manager.act move).1.engine = (manager.engine.act .take).1 := by
  cases move with
  | start => exact absurd ofRun Bool.false_ne_true
  | arrive | endStream => exact .inl rfl
  | engine inner => exact .inr (.inl ⟨inner, .inl ofRun, rfl⟩)
  | manager choice =>
    rw [act]
    have stride := stepManager_stride manager choice
    generalize manager.stepManager choice = next at stride ⊢
    cases stride with
    | abort | drain => exact .inr (.inl ⟨.close, .inl rfl, rfl⟩)
    | _ => exact .inl rfl
  | watch choice =>
    rw [act]
    rcases stepWatch_cases manager choice with ⟨h, -⟩ | ⟨-, h, -⟩ | ⟨item, rest, -, -, h, -⟩
    · exact .inl (by rw [h])
    · exact .inl (by rw [h]; rfl)
    · rw [h]
      cases item with
      | fault failure => exact .inl rfl
      | event event =>
        refine .inr (.inl ⟨.observe event, .inr ⟨event, rfl⟩, ?_⟩)
        cases event <;> rfl
  | dispatcher =>
    rw [act, stepDispatcher, handed?]
    split
    · rename_i hready
      split
      · exact .inl rfl
      · rename_i hgoing
        have hgoing' : (manager.dispatcher = .running && manager.engine.inHand.isNone &&
            !manager.dispatcherIsDone) = true := by
          rw [hready, Bool.eq_false_of_not_eq_true hgoing]
          rfl
        cases hitems : manager.engine.work.items with
        | cons item rest =>
          refine .inr (.inr ⟨item, ?_, rfl⟩)
          rw [if_pos hgoing', Queue.take_of_cons hitems]
        | nil =>
          refine .inl ?_
          rw [Engine.act, Queue.take_of_nil hitems]
          cases manager.engine.work.closed <;> exact congrArg Prod.fst (ite_self _)
    · exact .inl rfl

/-- A dispatcher that is not running takes nothing. -/
theorem handed?_of_idle (idle : manager.dispatcher ≠ .running) : manager.handed? move = none := by
  cases move with
  | dispatcher => simp [handed?, idle]
  | _ => rfl

/-- Nor does one that has been told to stop. -/
theorem handed?_of_stopping (stopping : manager.engine.stopping = true) :
    manager.handed? move = none := by
  cases move with
  | dispatcher => simp [handed?, dispatcherIsDone, stopping]
  | _ => rfl

theorem stopping_act (stopping : manager.engine.stopping = true) (ofRun : move.isOfRun = true) :
    (manager.act move).1.engine.stopping = true := by
  rcases engine_act_cases ofRun with h | ⟨inner, -, h⟩ | ⟨item, -, h⟩
  · rw [h, stopping]
  · rw [h]
    exact Engine.stopping_act stopping inner
  · rw [h]
    exact Engine.stopping_act stopping .take

/-- A quiet engine stays so until the dispatcher takes an item. -/
theorem quiet_act (quiet : manager.engine.Quiet) (ofRun : move.isOfRun = true)
    (idle : manager.handed? move = none) : (manager.act move).1.engine.Quiet := by
  rcases engine_act_cases ofRun with h | ⟨inner, ambient | ⟨event, rfl⟩, h⟩ | ⟨item, hitem, -⟩
  · rwa [h]
  · rw [h]
    exact quiet.act ambient
  · rw [h]
    exact quiet.observe event
  · rw [idle] at hitem
    exact absurd hitem.symm (Option.some_ne_none _)

/-! ## Until all pods are listed -/

/-- A manager whose watch has not listed all pods. -/
structure Unlisted (manager : Manager) : Prop where
  quiet : manager.engine.Quiet
  dispatcher : manager.dispatcher ≠ .running
  signal : manager.signal ≠ .given
  /-- While the watch goes on, it may yet list them. -/
  watch : manager.watch = .running → manager.signal = .awaited
  /-- The manager waits for that, unless it has been told to stop. -/
  stage : manager.signal = .awaited → manager.engine.stopping = false → manager.stage = .syncing

theorem Unlisted.start (quiet : manager.engine.Quiet) : (manager.act .start).1.Unlisted where
  quiet := quiet
  dispatcher := nofun
  signal := nofun
  watch _ := rfl
  stage _ _ := rfl

/-- What the manager itself does leaves it waiting for the list, or on its way to return. -/
theorem Unlisted.stride (unlisted : manager.Unlisted) {choice : Choice} {next : Manager}
    (stride : Stride manager choice next) (quiet : next.engine.Quiet) : next.Unlisted := by
  obtain ⟨-, dispatcher, signal, watch, stage⟩ := unlisted
  -- Only a manager that waits for the list can have been left waiting.
  have late {manager' : Manager} (hstage : manager.stage ≠ .syncing)
      (hsignal : manager'.signal = .awaited → manager.signal = .awaited)
      (going : manager'.engine.stopping = false → manager.engine.stopping = false) :
      manager'.signal = .awaited → manager'.engine.stopping = false → manager'.stage = .syncing :=
    fun h h' => absurd (stage (hsignal h) (going h')) hstage
  cases stride with
  | stay => exact ⟨quiet, dispatcher, signal, watch, stage⟩
  | abort _ stopping =>
    exact ⟨quiet, (finish_idle _).1, signal, fun h => absurd h (finish_idle _).2,
      fun _ going => absurd (stopping.symm.trans going) nofun⟩
  | work _ given => exact absurd given signal
  | fail _ lost _ =>
    exact ⟨quiet, (finish_idle _).1, signal, fun h => absurd h (finish_idle _).2,
      fun awaited => absurd (lost.symm.trans awaited) nofun⟩
  | drain _ stopping =>
    exact ⟨quiet, dispatcher, signal, watch, fun _ going => absurd (stopping.symm.trans going) nofun⟩
  | close hstage =>
    exact ⟨quiet, dispatcher, signal, watch, late (hstage ▸ nofun) id id⟩
  | finish hstage =>
    exact ⟨quiet, (finish_idle _).1, signal, fun h => absurd h (finish_idle _).2, late (hstage ▸ nofun) id id⟩

/-- What the watch does, short of listing all pods, gives no signal. -/
theorem Unlisted.stepWatch (unlisted : manager.Unlisted) {choice : Choice}
    (quiet : (manager.stepWatch choice).engine.Quiet)
    (unseen : manager.observed? (.watch choice) ≠ some (.event .listComplete)) :
    (manager.stepWatch choice).Unlisted := by
  obtain ⟨-, dispatcher, signal, watch, stage⟩ := unlisted
  rcases stepWatch_cases manager choice with ⟨h, -⟩ | ⟨-, h, -⟩ | ⟨item, rest, hwatch, -, h, hitem⟩
  · rw [h] at quiet ⊢
    exact ⟨quiet, dispatcher, signal, watch, stage⟩
  · rw [h] at quiet ⊢
    have lost : manager.endWatch.signal ≠ .given ∧ manager.endWatch.signal ≠ .awaited := by
      rw [endWatch]
      cases hsignal : manager.signal <;> simp_all
    exact ⟨quiet, dispatcher, lost.1, nofun, fun h => absurd h lost.2⟩
  · rw [h] at quiet ⊢
    rw [hitem] at unseen
    cases item with
    | fault => exact ⟨quiet, dispatcher, signal, watch, stage⟩
    | event event =>
      cases event with
      | listComplete => exact absurd rfl unseen
      | _ => exact ⟨quiet, dispatcher, signal, watch, stage⟩

theorem Unlisted.act (unlisted : manager.Unlisted) (ofRun : move.isOfRun = true)
    (unseen : manager.observed? move ≠ some (.event .listComplete)) : (manager.act move).1.Unlisted := by
  have quiet := quiet_act unlisted.quiet ofRun (handed?_of_idle unlisted.dispatcher)
  cases move with
  | start => exact absurd ofRun Bool.false_ne_true
  | manager choice => exact unlisted.stride (stepManager_stride manager choice) quiet
  | watch choice => exact unlisted.stepWatch quiet unseen
  | arrive | endStream => exact ⟨quiet, unlisted.dispatcher, unlisted.signal, unlisted.watch, unlisted.stage⟩
  | engine inner =>
    refine ⟨quiet, unlisted.dispatcher, unlisted.signal, unlisted.watch, fun hsignal going => ?_⟩
    refine unlisted.stage hsignal ?_
    cases hstopping : manager.engine.stopping with
    | false => rfl
    | true => exact (stopping_act hstopping ofRun).symm.trans going
  | dispatcher =>
    have h : manager.act .dispatcher = (manager, []) := by
      rw [Manager.act, stepDispatcher]
      exact if_neg (by simp [unlisted.dispatcher])
    rw [h]
    exact unlisted

/-! ## Courses -/

/-- A manager that has been told to stop takes nothing from the queue. -/
theorem handed_of_stopping (stopping : manager.engine.stopping = true)
    (ofRun : ∀ move ∈ moves, move.isOfRun = true) : manager.handed moves = [] := by
  induction moves generalizing manager with
  | nil => rfl
  | cons move rest ih =>
    rw [handed, handed?_of_stopping stopping,
      ih (stopping_act stopping (ofRun move (by simp))) fun move h => ofRun move (by simp [h])]
    rfl

theorem quiet_after (quiet : manager.engine.Quiet) (ofRun : ∀ move ∈ moves, move.isOfRun = true)
    (idle : manager.handed moves = []) : (manager.after moves).engine.Quiet := by
  induction moves generalizing manager with
  | nil => exact quiet
  | cons move rest ih =>
    obtain ⟨hmove, hrest⟩ := List.append_eq_nil_iff.1 idle
    exact ih (quiet_act quiet (ofRun move (by simp)) (Option.toList_eq_nil_iff.1 hmove))
      (fun move h => ofRun move (by simp [h])) hrest

/-- Until all pods are listed, nothing is taken from the queue. -/
theorem Unlisted.after (unlisted : manager.Unlisted) (ofRun : ∀ move ∈ moves, move.isOfRun = true)
    (unseen : .event .listComplete ∉ manager.observed moves) :
    manager.handed moves = [] ∧ (manager.after moves).Unlisted := by
  induction moves generalizing manager with
  | nil => exact ⟨rfl, unlisted⟩
  | cons move rest ih =>
    rw [observed, List.mem_append, Option.mem_toList, not_or] at unseen
    obtain ⟨hhanded, hafter⟩ := ih (unlisted.act (ofRun move (by simp)) unseen.1)
      (fun move h => ofRun move (by simp [h])) unseen.2
    rw [handed, handed?_of_idle unlisted.dispatcher, hhanded]
    exact ⟨rfl, hafter⟩

/-- A watch that has ended does not go on. -/
theorem watch_act (ended : manager.watch = .ended) (ofRun : move.isOfRun = true) :
    (manager.act move).1.watch = .ended ∧ manager.observed? move = none := by
  cases move with
  | start => exact absurd ofRun Bool.false_ne_true
  | arrive | endStream | engine => exact ⟨ended, rfl⟩
  | manager choice =>
    refine ⟨?_, rfl⟩
    have stride := stepManager_stride manager choice
    rw [act]
    generalize manager.stepManager choice = next at stride ⊢
    cases stride with
    | abort | fail | finish => simp [finish, closeWork, ended]
    | _ => exact ended
  | watch choice =>
    rw [act]
    rcases stepWatch_cases manager choice with ⟨h, hnone⟩ | ⟨h, -⟩ | ⟨_, _, h, -⟩
    · exact ⟨by rw [h, ended], hnone⟩
    · exact absurd (ended.symm.trans h) nofun
    · exact absurd (ended.symm.trans h) nofun
  | dispatcher =>
    refine ⟨?_, rfl⟩
    rw [act, stepDispatcher]
    split
    · split <;> exact ended
    · exact ended

theorem observed_of_ended (ended : manager.watch = .ended) (ofRun : ∀ move ∈ moves, move.isOfRun = true) :
    manager.observed moves = [] := by
  induction moves generalizing manager with
  | nil => rfl
  | cons move rest ih =>
    obtain ⟨hended, hnone⟩ := watch_act ended (ofRun move (by simp))
    rw [observed, hnone, ih hended fun move h => ofRun move (by simp [h])]
    rfl

theorem mem_stream_act {item : WatchItem} (h : item ∈ (manager.act move).1.stream) :
    item ∈ manager.stream ∨ move = .arrive item := by
  cases move with
  | start | endStream | engine => exact .inl h
  | arrive other =>
    rcases List.mem_append.1 h with h | h
    · exact .inl h
    · exact .inr (by rw [List.mem_singleton.1 h])
  | manager choice =>
    have stride := stepManager_stride manager choice
    rw [act] at h
    generalize manager.stepManager choice = next at stride h
    cases stride <;> exact .inl h
  | watch choice =>
    rw [act] at h
    rcases stepWatch_cases manager choice with
      ⟨hstep, -⟩ | ⟨-, hstep, -⟩ | ⟨_, rest, -, hstream, hstep, -⟩
    · exact .inl (hstep ▸ h)
    · rw [hstep] at h
      exact .inl h
    · rw [hstep, stream_takeUp] at h
      exact .inl (hstream ▸ List.mem_cons_of_mem _ h)
  | dispatcher =>
    rw [act, stepDispatcher] at h
    split at h
    · split at h <;> exact .inl h
    · exact .inl h

/-- What the watch takes out of its stream was there, or has come in. -/
theorem mem_observed {item : WatchItem} (h : item ∈ manager.observed moves) :
    item ∈ manager.stream ∨ .arrive item ∈ moves := by
  induction moves generalizing manager with
  | nil => exact absurd h List.not_mem_nil
  | cons move rest ih =>
    rw [observed, List.mem_append, Option.mem_toList] at h
    rcases h with h | h
    · cases move with
      | watch choice =>
        rw [observed?] at h
        split at h
        · exact .inl (List.mem_of_head? h)
        · exact absurd h (Option.some_ne_none _).symm
      | _ => exact absurd h (Option.some_ne_none _).symm
    · rcases ih h with h | h
      · exact (mem_stream_act h).imp_right fun heq => by simp [heq]
      · exact .inr (List.mem_cons_of_mem _ h)

end Manager

/-- From the start of a manager, until the watch has listed all pods, nothing is taken from the work queue, no call is
    made, and the table stays empty. If the manager is told to stop by then, or the watch ends, or its stream brings
    no complete list any more, so it is at every later moment. And once a manager has been told to stop, nothing is
    taken from the work queue any more. -/
theorem nothing_before_listing {start : Manager} (quiet : start.engine.Quiet)
    {early late : List ManagerMove} (ofRun : ∀ move ∈ early ++ late, move.isOfRun = true) :
    let run := (start.act .start).1
    let halfway := run.after early
    (.event .listComplete ∉ run.observed early →
      run.handed early = [] ∧ halfway.engine.awaited = [] ∧ halfway.engine.table = .empty ∧
      (halfway.engine.stopping = true ∨ halfway.watch = .ended ∨
          .event .listComplete ∉ halfway.stream ∧ .arrive (.event .listComplete) ∉ late →
        halfway.handed late = [] ∧ (halfway.after late).engine.awaited = [] ∧
          (halfway.after late).engine.table = .empty)) ∧
    (halfway.engine.stopping = true → halfway.handed late = []) := by
  intro run halfway
  have ofEarly : ∀ move ∈ early, move.isOfRun = true := fun move h => ofRun move (by simp [h])
  have ofLate : ∀ move ∈ late, move.isOfRun = true := fun move h => ofRun move (by simp [h])
  have stopped (stopping : halfway.engine.stopping = true) : halfway.handed late = [] :=
    Manager.handed_of_stopping stopping ofLate
  refine ⟨fun unseen => ?_, stopped⟩
  obtain ⟨hhanded, unlisted⟩ := (Manager.Unlisted.start quiet).after ofEarly unseen
  refine ⟨hhanded, unlisted.quiet.awaited, unlisted.quiet.table, fun hover => ?_⟩
  have idle : halfway.handed late = [] := by
    rcases hover with stopping | ended | ⟨hstream, harrive⟩
    · exact stopped stopping
    · -- A watch that has ended lists nothing.
      refine (unlisted.after ofLate ?_).1
      rw [Manager.observed_of_ended ended ofLate]
      exact List.not_mem_nil
    · refine (unlisted.after ofLate fun h => ?_).1
      rcases Manager.mem_observed h with h | h
      · exact hstream h
      · exact harrive h
  have quiet := Manager.quiet_after unlisted.quiet ofLate idle
  exact ⟨idle, quiet.awaited, quiet.table⟩

/-- A course in which a manager is told to stop before the watch has listed all pods. -/
def stopEarly : List ManagerMove :=
  [.engine (.add (.flush (.named "w"))), .arrive (.event .listBegins), .watch .other, .engine .stop]

/-- The watch lists them nevertheless, and the dispatcher is started and stops. -/
def listedLate : List ManagerMove :=
  [.arrive (.event .listComplete), .watch .other, .manager .other, .dispatcher, .manager .stop]

theorem nothing_before_listing_late :
    let run := (({} : Manager).act .start).1
    let halfway := run.after stopEarly
    halfway.observed listedLate = [.event .listComplete] ∧ halfway.handed listedLate = [] ∧
      (halfway.after listedLate).engine.awaited = [] ∧
      (halfway.after listedLate).engine.table = .empty := by
  have quiet : ({} : Manager).engine.Quiet := ⟨rfl, rfl, rfl⟩
  have ofRun : ∀ move ∈ stopEarly ++ listedLate, move.isOfRun = true := by decide
  have unseen : .event .listComplete ∉ (({} : Manager).act .start).1.observed stopEarly := by
    have hobserved : (({} : Manager).act .start).1.observed stopEarly = [.event .listBegins] := rfl
    simp [hobserved]
  obtain ⟨-, -, -, later⟩ := (nothing_before_listing quiet ofRun).1 unseen
  exact ⟨rfl, later (.inl rfl)⟩

end NodeImages.Work
