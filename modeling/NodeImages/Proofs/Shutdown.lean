import NodeImages.Proofs.Startup

/-!
# Stopping a manager that is starting

A manager may be told to stop while it waits for the watch to list all pods. It returns then, and the work queue is
closed, but for one course: the watch hears the word first and ends, which the manager may take for the failure
of the watch.

* `Manager.Bidden`, `Bidden.act`: what holds once a manager has been told to stop;
* `returned_act_cases`: how it returns;
* `stopped_in_startup`: that it does, with which outcome, and after which of its steps.
-/

namespace NodeImages.Work

/-- The failure of a watch that ends before it has listed all pods. -/
def watchLost : Failure := .of .unavailable "Pod watch ended before syncing"

/-- What the surroundings of a quiet engine do does not open its work queue, nor does news of pods. -/
theorem Engine.Quiet.closed_act {engine : Engine} {move : Move} (quiet : engine.Quiet)
    (tame : move.isAmbient = true ∨ ∃ event, move = .observe event) (closed : engine.work.closed = true) :
    (engine.act move).1.work.closed = true := by
  cases hown : move.run? with
  | some number =>
    rw [Engine.act_of_gone hown (quiet.run? number)]
    exact closed
  | none =>
    cases move with
    | add => exact Queue.closed_accept.trans closed
    | addAfter => exact Queue.closed_addAfter.trans closed
    | fire => exact Queue.closed_fire.trans closed
    | observe | tick | stop => exact closed
    | close => rfl
    | presence answer | job answer =>
      rw [Engine.act, quiet.inHand]
      exact closed
    | takeReport =>
      rw [Engine.act]
      split <;> exact closed
    | look | cancel | pods | events | expire | deleted | collect =>
      exact absurd hown (Option.some_ne_none _)
    | _ =>
      rcases tame with ambient | ⟨event, hevent⟩
      · exact absurd ambient Bool.false_ne_true
      · cases hevent

/-- How far a manager has come. -/
def ManagerStage.rank : ManagerStage → Nat
  | absent => 0
  | syncing => 1
  | working => 2
  | draining => 3
  | closing => 4
  | returned _ => 5

namespace Manager

variable {manager : Manager} {move : ManagerMove} {moves early late : List ManagerMove}

/-- A manager that was told to stop before it had anything to do. -/
structure Bidden (manager : Manager) : Prop where
  stopping : manager.engine.stopping = true
  quiet : manager.engine.Quiet
  stage : manager.stage ≠ .absent
  watch : manager.watch ≠ .absent
  /-- The dispatcher has been started if the pods have been listed. -/
  dispatcher : manager.stage = .working ∨ manager.stage = .draining → manager.dispatcher ≠ .absent
  /-- The work queue is closed before the manager waits for its tasks. -/
  closed : manager.stage = .draining ∨ manager.stage = .closing ∨ manager.stage = .returned (.ok ()) →
    manager.engine.work.closed = true

/-- A dispatcher that has been told to stop ends, if it is running and has nothing in hand. -/
theorem stepDispatcher_of_stopping (stopping : manager.engine.stopping = true) :
    manager.stepDispatcher = (manager, []) ∨
      manager.dispatcher = .running ∧ manager.stepDispatcher = ({ manager with dispatcher := .ended }, []) := by
  rw [stepDispatcher]
  split
  · rename_i hready
    rw [Bool.and_eq_true, decide_eq_true_eq] at hready
    exact .inr ⟨hready.1, if_pos (by rw [dispatcherIsDone, stopping, Bool.true_or])⟩
  · exact .inl rfl

/-- A manager that returns well has closed the work queue; nothing else is left to be seen to. -/
theorem bidden_finish {outcome : Outcome Unit} (stopping : (manager.finish outcome).engine.stopping = true)
    (quiet : (manager.finish outcome).engine.Quiet) (watch : manager.watch ≠ .absent)
    (closed : outcome = .ok () → manager.engine.work.closed = true) : (manager.finish outcome).Bidden := by
  have stage : (manager.finish outcome).stage = .returned outcome := rfl
  refine ⟨stopping, quiet, ?_, ?_, ?_, ?_⟩
  · rw [stage]
    exact ManagerStage.noConfusion
  · rw [finish]
    cases hwatch : manager.watch with
    | absent => exact absurd hwatch watch
    | _ => simp
  · rw [stage]
    rintro (h | h) <;> cases h
  · rw [stage]
    rintro (h | h | h)
    · cases h
    · cases h
    · exact closed (ManagerStage.returned.inj h)

/-- The manager closes the work queue before it waits for its tasks, and returns when they have ended. -/
theorem Bidden.stride (bidden : manager.Bidden) {choice : Choice} {next : Manager}
    (stride : Stride manager choice next) (stopping : next.engine.stopping = true)
    (quiet : next.engine.Quiet) : next.Bidden := by
  obtain ⟨-, -, stage, watch, dispatcher, closed⟩ := bidden
  cases stride with
  | stay => exact ⟨stopping, quiet, stage, watch, dispatcher, closed⟩
  | abort => exact bidden_finish stopping quiet watch fun _ => rfl
  | work => exact ⟨stopping, quiet, by simp, watch, by simp, by simp⟩
  | fail => exact bidden_finish stopping quiet watch fun returned => by cases returned
  | drain hstage => exact ⟨stopping, quiet, by simp, watch, fun _ => dispatcher (.inl hstage), fun _ => rfl⟩
  | close hstage => exact ⟨stopping, quiet, by simp, watch, by simp, fun _ => closed (.inl hstage)⟩
  | finish hstage => exact bidden_finish stopping quiet watch fun _ => closed (.inr (.inl hstage))

theorem Bidden.act (bidden : manager.Bidden) (ofRun : move.isOfRun = true) :
    (manager.act move).1.Bidden := by
  have stopping := stopping_act bidden.stopping ofRun
  have quiet := quiet_act bidden.quiet ofRun (handed?_of_stopping bidden.stopping)
  have closed (h : manager.engine.work.closed = true) : (manager.act move).1.engine.work.closed = true := by
    rcases engine_act_cases ofRun with heq | ⟨inner, tame, heq⟩ | ⟨item, hitem, -⟩
    · rwa [heq]
    · rw [heq]
      exact bidden.quiet.closed_act tame h
    · rw [handed?_of_stopping bidden.stopping] at hitem
      exact absurd hitem.symm (Option.some_ne_none _)
  cases move with
  | start => exact absurd ofRun Bool.false_ne_true
  | manager choice => exact bidden.stride (stepManager_stride manager choice) stopping quiet
  | arrive | endStream | engine =>
    exact ⟨stopping, quiet, bidden.stage, bidden.watch, bidden.dispatcher, fun h => closed (bidden.closed h)⟩
  | watch choice =>
    rw [Manager.act] at stopping quiet closed ⊢
    rcases stepWatch_cases manager choice with ⟨h, -⟩ | ⟨-, h, -⟩ | ⟨item, rest, -, -, h, -⟩
    · rw [h]
      exact bidden
    · rw [h]
      exact ⟨bidden.stopping, bidden.quiet, bidden.stage, by simp [endWatch], bidden.dispatcher, bidden.closed⟩
    · rw [h] at stopping quiet closed ⊢
      obtain ⟨hstage, hwatch, hdispatcher, -⟩ := takeUp_frame { manager with stream := rest } item
      refine ⟨stopping, quiet, ?_, ?_, ?_, ?_⟩
      · rw [hstage]
        exact bidden.stage
      · rw [hwatch]
        exact bidden.watch
      · rw [hstage, hdispatcher]
        exact bidden.dispatcher
      · rw [hstage]
        exact fun h => closed (bidden.closed h)
  | dispatcher =>
    rw [Manager.act]
    rcases stepDispatcher_of_stopping bidden.stopping with h | ⟨-, h⟩
    · rw [h]
      exact bidden
    · rw [h]
      exact ⟨bidden.stopping, bidden.quiet, bidden.stage, bidden.watch, by simp, bidden.closed⟩

theorem Bidden.after (bidden : manager.Bidden) (ofRun : ∀ move ∈ moves, move.isOfRun = true) :
    (manager.after moves).Bidden :=
  List.foldlRecOn moves _ bidden fun _ bidden move hmove => bidden.act (ofRun move hmove)

/-! ## How a manager returns -/

/-- Only the manager itself goes on to another stage. -/
theorem stage_act (ofRun : move.isOfRun = true) (other : ∀ choice, move ≠ .manager choice) :
    (manager.act move).1.stage = manager.stage := by
  cases move with
  | start => exact absurd ofRun Bool.false_ne_true
  | manager choice => exact absurd rfl (other choice)
  | arrive | endStream | engine => rfl
  | watch choice =>
    rw [Manager.act]
    rcases stepWatch_cases manager choice with ⟨h, -⟩ | ⟨-, h, -⟩ | ⟨item, rest, -, -, h, -⟩
    · rw [h]
    · rw [h]
      rfl
    · rw [h]
      exact (takeUp_frame _ item).1
  | dispatcher =>
    rw [Manager.act, stepDispatcher]
    split
    · split <;> rfl
    · rfl

/-- Only the watch gives the signal that all pods have been listed, or fails to. -/
theorem signal_act (ofRun : move.isOfRun = true) (other : ∀ choice, move ≠ .watch choice) :
    (manager.act move).1.signal = manager.signal := by
  cases move with
  | start => exact absurd ofRun Bool.false_ne_true
  | watch choice => exact absurd rfl (other choice)
  | arrive | endStream | engine => rfl
  | manager choice =>
    have stride := stepManager_stride manager choice
    rw [Manager.act]
    generalize manager.stepManager choice = next at stride ⊢
    cases stride <;> rfl
  | dispatcher =>
    rw [Manager.act, stepDispatcher]
    split
    · split <;> rfl
    · rfl

/-- A manager returns in good order, unless it finds that the watch has ended. -/
theorem returned_act_cases (ofRun : move.isOfRun = true) (stopping : manager.engine.stopping = true)
    {outcome : Outcome Unit} (returned : (manager.act move).1.stage = .returned outcome) :
    manager.stage = .returned outcome ∨ outcome = .ok () ∨
      outcome = .error watchLost ∧ move = .manager .other ∧ manager.stage = .syncing ∧
        manager.signal = .lost := by
  by_cases h : ∃ choice, move = .manager choice
  · obtain ⟨choice, rfl⟩ := h
    have stride := stepManager_stride manager choice
    rw [Manager.act] at returned
    generalize manager.stepManager choice = next at stride returned
    cases stride with
    | stay => exact .inl returned
    | abort | finish => exact .inr (.inl (ManagerStage.returned.inj returned).symm)
    | fail stage signal heeds =>
      exact .inr (.inr ⟨(ManagerStage.returned.inj returned).symm, by rw [heeds stopping], stage, signal⟩)
    | work | drain | close => cases returned
  · rw [stage_act ofRun fun choice heq => h ⟨choice, heq⟩] at returned
    exact .inl returned

/-- A manager that has returned does not go on. -/
theorem returned_act (ofRun : move.isOfRun = true) {outcome : Outcome Unit}
    (returned : manager.stage = .returned outcome) : (manager.act move).1.stage = .returned outcome := by
  by_cases h : ∃ choice, move = .manager choice
  · obtain ⟨choice, rfl⟩ := h
    rw [Manager.act, stepManager, returned]
    exact returned
  · rw [stage_act ofRun fun choice heq => h ⟨choice, heq⟩, returned]

theorem returned_after {outcome : Outcome Unit} (returned : manager.stage = .returned outcome)
    (ofRun : ∀ move ∈ moves, move.isOfRun = true) : (manager.after moves).stage = .returned outcome :=
  List.foldlRecOn (motive := fun manager : Manager => manager.stage = .returned outcome) moves _ returned
    fun _ returned move hmove => returned_act (ofRun move hmove) returned

/-- If a manager that has been told to stop returns with a failure, it found that the watch had ended. -/
theorem Bidden.outcome_of_returned (bidden : manager.Bidden)
    (going : ∀ outcome, manager.stage ≠ .returned outcome) (ofRun : ∀ move ∈ moves, move.isOfRun = true)
    {outcome : Outcome Unit} (returned : (manager.after moves).stage = .returned outcome) :
    outcome = .ok () ∨ outcome = .error watchLost ∧ ∃ before rest,
      moves = before ++ .manager .other :: rest ∧ (manager.after before).stage = .syncing ∧
        (manager.after before).signal = .lost := by
  induction moves generalizing manager with
  | nil => exact absurd returned (going outcome)
  | cons move rest ih =>
    have ofMove := ofRun move (by simp)
    have ofRest : ∀ move ∈ rest, move.isOfRun = true := fun move h => ofRun move (by simp [h])
    by_cases hnow : ∃ outcome', (manager.act move).1.stage = .returned outcome'
    · obtain ⟨outcome', hnow⟩ := hnow
      obtain rfl : outcome' = outcome :=
        ManagerStage.returned.inj ((returned_after hnow ofRest).symm.trans returned)
      rcases returned_act_cases ofMove bidden.stopping hnow with h | h | ⟨h, rfl, hstage, hsignal⟩
      · exact absurd h (going _)
      · exact .inl h
      · exact .inr ⟨h, [], rest, rfl, hstage, hsignal⟩
    · rcases ih (bidden.act ofMove) (fun outcome' h => hnow ⟨outcome', h⟩) ofRest returned with
        h | ⟨h, before, rest', rfl, hlost⟩
      · exact .inl h
      · exact .inr ⟨h, move :: before, rest', rfl, hlost⟩

theorem stage_after (ofRun : ∀ move ∈ moves, move.isOfRun = true) (others : ∀ c, .manager c ∉ moves) :
    (manager.after moves).stage = manager.stage := by
  refine List.foldlRecOn (motive := fun later : Manager => later.stage = manager.stage) moves _ rfl ?_
  intro later unmoved move hmove
  exact (stage_act (ofRun move hmove) fun c h => others c (h ▸ hmove)).trans unmoved

theorem signal_after (ofRun : ∀ move ∈ moves, move.isOfRun = true) (others : ∀ c, .watch c ∉ moves) :
    (manager.after moves).signal = manager.signal := by
  refine List.foldlRecOn (motive := fun later : Manager => later.signal = manager.signal) moves _ rfl ?_
  intro later unmoved move hmove
  exact (signal_act (ofRun move hmove) fun c h => others c (h ▸ hmove)).trans unmoved

/-- A manager that waits for the list returns in good order when it goes on first, if it heeds the word to stop or the
    watch has not gone on before. -/
theorem Bidden.returned_first (bidden : manager.Bidden) (syncing : manager.stage = .syncing)
    (awaited : manager.signal = .awaited) (ofRun : ∀ move ∈ moves, move.isOfRun = true)
    (first : ∀ c, .manager c ∉ moves) {choice : Choice} (heeds : choice = .stop ∨ ∀ c, .watch c ∉ moves) :
    ((manager.after moves).act (.manager choice)).1.stage = .returned (.ok ()) := by
  have hstage := (stage_after ofRun first).trans syncing
  have hheeds : (choice == .stop || (manager.after moves).signal == .awaited) = true := by
    rcases heeds with rfl | blind
    · rfl
    · rw [signal_after ofRun blind, awaited]
      exact Bool.or_true _
  rw [Manager.act, stepManager, hstage, (bidden.after ofRun).stopping, hheeds]
  rfl

/-! ## That it returns -/

theorem rank_le_act (ofRun : move.isOfRun = true) :
    manager.stage.rank ≤ (manager.act move).1.stage.rank := by
  by_cases h : ∃ choice, move = .manager choice
  · obtain ⟨choice, rfl⟩ := h
    have stride := stepManager_stride manager choice
    rw [Manager.act]
    generalize manager.stepManager choice = next at stride ⊢
    cases stride with
    | stay => exact Nat.le_refl _
    | abort stage | work stage | fail stage | drain stage | close stage | finish stage =>
      rw [stage]
      exact Nat.le_of_ble_eq_true rfl
  · exact Nat.le_of_eq (congrArg _ (stage_act ofRun fun choice heq => h ⟨choice, heq⟩).symm)

/-- A manager that has been told to stop goes on, when the task that it waits for has ended. -/
theorem rank_lt_act (bidden : manager.Bidden) (choice : Choice) (going : manager.stage.rank < 5)
    (dispatcher : manager.stage = .draining → manager.dispatcher = .ended)
    (watch : manager.stage = .closing → manager.watch = .ended) :
    manager.stage.rank < (manager.act (.manager choice)).1.stage.rank := by
  rw [Manager.act, stepManager]
  cases hstage : manager.stage with
  | absent => exact absurd hstage bidden.stage
  | syncing =>
    dsimp only
    split
    · exact Nat.le_of_ble_eq_true rfl
    · rename_i hheeds
      split
      · rename_i hsignal
        -- It waits neither for the signal nor for the word to stop.
        rw [bidden.stopping, hsignal] at hheeds
        exact absurd (by simp) hheeds
      · exact Nat.le_of_ble_eq_true rfl
      · exact Nat.le_of_ble_eq_true rfl
  | working =>
    dsimp only
    rw [if_pos bidden.stopping]
    exact Nat.le_of_ble_eq_true rfl
  | draining =>
    dsimp only
    rw [if_pos (dispatcher hstage)]
    exact Nat.le_of_ble_eq_true rfl
  | closing =>
    dsimp only
    rw [if_pos (watch hstage)]
    exact Nat.le_of_ble_eq_true rfl
  | returned outcome =>
    rw [hstage] at going
    exact absurd going (Nat.lt_irrefl _)

/-- However far a manager has come that has been told to stop, it is further when it has gone on. -/
theorem rank_succ_le_act (bidden : manager.Bidden) (choice : Choice) {rank : Nat} (low : rank < 5)
    (reached : rank ≤ manager.stage.rank)
    (dispatcher : rank = 3 → manager.stage = .draining → manager.dispatcher = .ended)
    (watch : rank = 4 → manager.stage = .closing → manager.watch = .ended) :
    rank + 1 ≤ (manager.act (.manager choice)).1.stage.rank := by
  rcases Nat.lt_or_eq_of_le reached with further | rfl
  · exact Nat.le_trans further (rank_le_act rfl)
  · exact rank_lt_act bidden choice low (fun h => dispatcher (congrArg ManagerStage.rank h) h)
      fun h => watch (congrArg ManagerStage.rank h) h

theorem Bidden.dispatcher_ended (bidden : manager.Bidden) (draining : manager.stage = .draining) :
    (manager.act .dispatcher).1.dispatcher = .ended := by
  rw [Manager.act, stepDispatcher, bidden.quiet.inHand, dispatcherIsDone, bidden.stopping]
  cases h : manager.dispatcher with
  | absent => exact absurd h (bidden.dispatcher (.inr draining))
  | running => rfl
  | ended => exact h

theorem Bidden.watch_ended (bidden : manager.Bidden) : (manager.act (.watch .stop)).1.watch = .ended := by
  rw [Manager.act, stepWatch, bidden.stopping]
  cases h : manager.watch with
  | absent => exact absurd h bidden.watch
  | running => rfl
  | ended => exact h

/-- When each task has had its turns, the manager has returned. -/
theorem Bidden.returns (bidden : manager.Bidden) (a b c d : Choice) :
    ∃ outcome, (manager.after [.manager a, .manager b, .dispatcher, .manager c, .watch .stop,
      .manager d]).stage = .returned outcome := by
  have present : 1 ≤ manager.stage.rank := by
    have := bidden.stage
    cases h : manager.stage <;> first | exact absurd h this | exact Nat.le_of_ble_eq_true rfl
  let first := (manager.act (.manager a)).1
  let second := (first.act (.manager b)).1
  let third := (second.act .dispatcher).1
  let fourth := (third.act (.manager c)).1
  let fifth := (fourth.act (.watch .stop)).1
  have bidden₁ : first.Bidden := bidden.act rfl
  have bidden₂ : second.Bidden := bidden₁.act rfl
  have bidden₃ : third.Bidden := bidden₂.act rfl
  have bidden₄ : fourth.Bidden := bidden₃.act rfl
  have bidden₅ : fifth.Bidden := bidden₄.act rfl
  have rank₁ : 2 ≤ first.stage.rank := rank_succ_le_act bidden a (by decide) present nofun nofun
  have rank₂ : 3 ≤ second.stage.rank := rank_succ_le_act bidden₁ b (by decide) rank₁ nofun nofun
  have stage₃ : third.stage = second.stage := stage_act rfl nofun
  have rank₄ : 4 ≤ fourth.stage.rank := by
    refine rank_succ_le_act bidden₃ c (by decide) (stage₃ ▸ rank₂) (fun _ h => ?_) nofun
    exact bidden₂.dispatcher_ended (stage₃.symm.trans h)
  have stage₅ : fifth.stage = fourth.stage := stage_act rfl nofun
  have rank₆ : 5 ≤ (fifth.act (.manager d)).1.stage.rank :=
    rank_succ_le_act bidden₅ d (by decide) (stage₅ ▸ rank₄) nofun fun _ _ => bidden₄.watch_ended
  have returned {stage : ManagerStage} (h : 5 ≤ stage.rank) : ∃ outcome, stage = .returned outcome := by
    cases stage with
    | returned outcome => exact ⟨outcome, rfl⟩
    | _ => exact absurd h (by decide)
  exact returned rank₆

end Manager

/-- A manager is told to stop before its watch has listed all pods or has ended. However its tasks go on, it returns
    when each has had its turns. It returns without a failure and closes the work queue, unless it does not heed the
    word to stop and finds that the watch has ended; so it does if it heeds that word when it goes on first, or goes
    on before the watch. -/
theorem stopped_in_startup {start : Manager} (quiet : start.engine.Quiet) {early late : List ManagerMove}
    (ofRun : ∀ move ∈ early ++ late, move.isOfRun = true)
    (unlisted : .event .listComplete ∉ (start.act .start).1.observed early)
    (watching : ((start.act .start).1.after early).watch = .running)
    (going : ((start.act .start).1.after early).engine.stopping = false) :
    let stopped := (((start.act .start).1.after early).act (.engine .stop)).1
    (∀ a b c d, ∃ outcome,
      (stopped.after (late ++ [.manager a, .manager b, .dispatcher, .manager c, .watch .stop,
        .manager d])).stage = .returned outcome) ∧
    (∀ outcome, (stopped.after late).stage = .returned outcome →
      outcome = .ok () ∧ (stopped.after late).engine.work.closed = true ∨
      outcome = .error watchLost ∧ ∃ before rest, late = before ++ .manager .other :: rest ∧
        (stopped.after before).stage = .syncing ∧ (stopped.after before).signal = .lost) ∧
    (∀ before choice rest, late = before ++ .manager choice :: rest →
      (∀ c, .manager c ∉ before) → (choice = .stop ∨ ∀ c, .watch c ∉ before) →
      (stopped.after late).stage = .returned (.ok ()) ∧
        (stopped.after late).engine.work.closed = true) := by
  intro stopped
  have ofEarly : ∀ move ∈ early, move.isOfRun = true := fun move h => ofRun move (by simp [h])
  have ofLate : ∀ move ∈ late, move.isOfRun = true := fun move h => ofRun move (by simp [h])
  have before := ((Manager.Unlisted.start quiet).after ofEarly unlisted).2
  have syncing : stopped.stage = .syncing := before.stage (before.watch watching) going
  have awaited : stopped.signal = .awaited := before.watch watching
  have bidden : stopped.Bidden := by
    refine ⟨rfl, Manager.quiet_act before.quiet rfl rfl, ?_, ?_, ?_, ?_⟩
    · rw [syncing]
      exact nofun
    · exact fun h => absurd (watching.symm.trans h) nofun
    · rw [syncing]
      exact nofun
    · rw [syncing]
      exact nofun
  refine ⟨fun a b c d => ?_, ?_, ?_⟩
  · rw [Manager.after_append]
    exact (bidden.after ofLate).returns a b c d
  · intro outcome returned
    have going : ∀ outcome, stopped.stage ≠ .returned outcome := fun outcome => by
      rw [syncing]
      exact nofun
    rcases bidden.outcome_of_returned going ofLate returned with rfl | h
    · exact .inl ⟨rfl, (bidden.after ofLate).closed (.inr (.inr returned))⟩
    · exact .inr h
  · rintro before choice rest rfl first heeds
    have returned : (stopped.after (before ++ .manager choice :: rest)).stage = .returned (.ok ()) := by
      rw [Manager.after_append, Manager.after_cons]
      exact Manager.returned_after (bidden.returned_first syncing awaited
        (fun move h => ofLate move (by simp [h])) first heeds) fun move h => ofLate move (by simp [h])
    exact ⟨returned, (bidden.after ofLate).closed (.inr (.inr returned))⟩

/-- A course in which a manager waits for the list, which has begun. -/
def listing : List ManagerMove := [.arrive (.event .listBegins), .watch .other]

/-- The watch hears the word to stop first, but the manager heeds it. -/
theorem stopped_in_startup_heeding :
    let stopped := (((({} : Manager).act .start).1.after listing).act (.engine .stop)).1
    (stopped.after [.watch .stop, .manager .stop]).stage = .returned (.ok ()) ∧
      (stopped.after [.watch .stop, .manager .stop]).engine.work.closed = true := by
  have quiet : ({} : Manager).engine.Quiet := ⟨rfl, rfl, rfl⟩
  have ofRun : ∀ move ∈ listing ++ [.watch .stop, .manager .stop], move.isOfRun = true := by decide
  have unlisted : .event .listComplete ∉ (({} : Manager).act .start).1.observed listing := by
    have hobserved : (({} : Manager).act .start).1.observed listing = [.event .listBegins] := rfl
    simp [hobserved]
  obtain ⟨-, -, first⟩ := stopped_in_startup quiet ofRun unlisted rfl rfl
  exact first [.watch .stop] .stop [] rfl (by simp) (.inl rfl)

/-- The watch hears the word to stop first, and the manager takes its end for a failure. -/
theorem watch_lost_at_stop :
    let waiting := (({} : Manager).act .start).1.after listing
    let stopped := (waiting.act (.engine .stop)).1
    waiting.stage = .syncing ∧ waiting.watch = .running ∧ waiting.streamOver = false ∧
      (stopped.after [.watch .stop, .manager .other]).stage = .returned (.error watchLost) ∧
      (stopped.after [.watch .stop, .manager .other]).engine.work.closed = false :=
  ⟨rfl, rfl, rfl, rfl, rfl⟩

end NodeImages.Work
