import NodeImages.Proofs.Course
import NodeImages.Proofs.Dictionary

/-!
# The clock and the memory of an engine

Next to the table, the runs and the queues, an engine has a clock, and a memory of the pods that it has been told
of, and it may have been told to stop. Only the passing of time touches the first, only the watch on pods the
second, and only the word to stop the third (`act_apart`).

* `Engine.now_le_act`: the clock does not go back;
* `Engine.stopping_act`: nor does the word to stop;
* `told_of_remembered`: what is remembered of a pod, the watch has told of it before.
-/

namespace NodeImages.Work

open Cluster

namespace Engine

variable {engine : Engine} {item : Option Item}

/-- An engine with the clock and the memory of another, which has been told to stop if the other has. -/
structure Apart (engine engine' : Engine) : Prop where
  now : engine'.now = engine.now := by rfl
  memory : engine'.memory = engine.memory := by rfl
  stopping : engine'.stopping = engine.stopping := by rfl

theorem Apart.trans {a b c : Engine} (h : a.Apart b) (h' : b.Apart c) : a.Apart c :=
  ⟨h'.now.trans h.now, h'.memory.trans h.memory, h'.stopping.trans h.stopping⟩

theorem apart_finish : engine.Apart (engine.finish item) := by
  cases item <;> exact {}

theorem apart_giveBack : engine.Apart (engine.giveBack item) := by
  cases item <;> exact {}

/-- A dispatch leaves the surroundings alone, however far it has come. -/
theorem apart_handle (dispatch : Dispatch) : engine.Apart (engine.handle item dispatch).1 := by
  cases dispatch with
  | created | needless => exact apart_finish.trans {}
  | failed => exact apart_giveBack
  | asking | creating => exact {}

theorem apart_stand (run : ActiveRun) (stage : Stage) : engine.Apart (engine.stand run stage).1 := by
  cases stage <;> exact {}

/-- So does the work on an item. -/
theorem apart_handleItem (item : Item) : engine.Apart (engine.handleItem item).1 := by
  cases item with
  | flush cache =>
    rw [handleItem, handleFlush, startRun]
    dsimp only
    split
    · exact {}
    · split <;> exact {}
  | image request =>
    rw [handleItem]
    split
    · dsimp only
      exact apart_finish
    · exact apart_handle _

/-- So does a run that moves on. -/
theorem apart_advance (number : Nat) (move : RunPlan → Stage → Stage) :
    engine.Apart (engine.advance number move).1 := by
  rw [advance]
  split
  · exact {}
  · exact apart_stand _ _

/-- So does one that changes the table in the same step. -/
theorem apart_advanceTable (number : Nat) (move : RunPlan → Table → Stage → Table × Stage) :
    engine.Apart (engine.advanceTable number move).1 := by
  rw [advanceTable]
  split
  · exact {}
  · rename_i run _
    have table : engine.Apart { engine with
        table := (move (engine.plan run.cacheKey) engine.table run.stage).1 } := {}
    exact table.trans (apart_stand _ _)

/-- But for the passing of time, the watch on pods and the word to stop, no move touches the clock, the memory or
    that word. -/
theorem act_apart (engine : Engine) (move : Move) :
    engine.Apart (engine.act move).1 ∨ (∃ time, move = .tick time) ∨ (∃ event, move = .observe event) ∨
      move = .stop := by
  cases move with
  | tick time => exact .inr (.inl ⟨time, rfl⟩)
  | observe event => exact .inr (.inr (.inl ⟨event, rfl⟩))
  | stop => exact .inr (.inr (.inr rfl))
  | add | addAfter | fire | close | settle | insert | resolve | startUnguarded => exact .inl {}
  | take =>
    refine .inl ?_
    rw [act]
    split
    · exact {}
    · split
      · rename_i work item _
        have base : engine.Apart { engine with work } := {}
        exact base.trans (apart_handleItem item)
      · exact {}
  | dispatch request =>
    refine .inl ?_
    rw [act]
    split
    · exact {}
    · exact apart_handle _
  | presence answer | job answer =>
    refine .inl ?_
    rw [act]
    split
    · exact apart_handle _
    · exact {}
  | start cacheKey =>
    refine .inl ?_
    rw [act, startRun]
    split <;> exact {}
  | look | pods | events => exact .inl (apart_advance _ _)
  | expire | deleted => exact .inl (apart_advanceTable _ _)
  | cancel number =>
    refine .inl ?_
    rw [act]
    split
    · exact apart_advance _ _
    · exact {}
  | collect number =>
    refine .inl ?_
    rw [act]
    split
    · exact {}
    · rename_i run _
      split
      · rename_i table stage _
        have base : engine.Apart { engine with table } := {}
        exact base.trans (apart_stand run stage)
      · rename_i table update stage _
        have base : engine.Apart
            { engine with table, reports := engine.reports.add (.status update) } := {}
        exact base.trans (apart_stand run stage)
  | takeReport =>
    refine .inl ?_
    rw [act]
    split <;> exact {}

/-! ## The clock -/

/-- But for the passing of time, no move touches the clock. -/
theorem now_act {move : Move} (timeless : ∀ time, move ≠ .tick time) :
    (engine.act move).1.now = engine.now := by
  rcases act_apart engine move with apart | ⟨time, rfl⟩ | ⟨event, rfl⟩ | rfl
  · exact apart.now
  · exact absurd rfl (timeless time)
  · rfl
  · rfl

/-- The clock does not go back. -/
theorem now_le_act (engine : Engine) (move : Move) : engine.now ≤ (engine.act move).1.now := by
  by_cases h : ∃ time, move = .tick time
  · obtain ⟨time, rfl⟩ := h
    exact Nat.le_add_right _ _
  · exact Nat.le_of_eq (now_act fun time heq => h ⟨time, heq⟩).symm

/-- The clock does not go back. -/
theorem now_le_after (engine : Engine) (moves : List Move) : engine.now ≤ (engine.after moves).now := by
  induction moves generalizing engine with
  | nil => exact Nat.le_refl _
  | cons move rest ih => exact Nat.le_trans (engine.now_le_act move) (ih _)

/-! ## The word to stop -/

/-- An engine that has been told to stop is never told otherwise. -/
theorem stopping_act (stopping : engine.stopping = true) (move : Move) :
    (engine.act move).1.stopping = true := by
  rcases act_apart engine move with apart | ⟨time, rfl⟩ | ⟨event, rfl⟩ | rfl
  · exact apart.stopping.trans stopping
  · exact stopping
  · exact stopping
  · rfl

end Engine

/-! ## The memory -/

/-- What is remembered of a pod after an event was remembered before, or the event tells of the pod. -/
theorem Memory.get?_observe {memory : Memory} {event : WatchEvent} {table : Table} {name : String}
    {state : PodState} (h : (memory.observe event table).1.seen.get? name = some state) :
    memory.seen.get? name = some state ∨
      ∃ pod, (Move.observe event).pod? = some pod ∧ pod.name = name ∧ state = .ofPod pod := by
  have see {pod : Pod} (h : (memory.seen.insert pod.name (.ofPod pod)).get? name = some state) :
      memory.seen.get? name = some state ∨ pod.name = name ∧ state = .ofPod pod := by
    rw [Dictionary.get?_insert] at h
    split at h
    · rename_i heq
      exact .inr ⟨heq.symm, (Option.some.inj h).symm⟩
    · exact .inl h
  have kept {keep : String → Bool} (h : (memory.seen.filter keep).get? name = some state) :
      memory.seen.get? name = some state := by
    rw [Dictionary.get?_filter] at h
    split at h
    · exact h
    · exact absurd h.symm (Option.some_ne_none _)
  -- Only news of a pod are put into the memory; all else takes something out of it.
  cases event with
  | listBegins => exact .inl h
  | listed pod | changed pod => exact (see h).imp_right fun hpod => ⟨pod, rfl, hpod⟩
  | gone pod => exact .inl (kept h)
  | listComplete =>
    rw [Memory.observe, Memory.completeList] at h
    split at h
    · exact .inl h
    · exact .inl (kept h)

/-- What a new engine remembers of a pod, it has been told by then. -/
theorem told_of_remembered {settings : Settings} {work reports : QueueConfig} {moves : List Move}
    {name : String} {state : PodState}
    (h : ((Engine.new settings work reports).after moves).memory.seen.get? name = some state) :
    ∃ move ∈ moves, ∃ pod, move.pod? = some pod ∧ pod.name = name ∧ state = .ofPod pod := by
  induction moves using List.reverseRecOn with
  | nil => exact absurd h.symm (Option.some_ne_none _)
  | append_singleton moves move ih =>
    have before (h : ((Engine.new settings work reports).after moves).memory.seen.get? name = some state) :
        ∃ move' ∈ moves ++ [move], ∃ pod, move'.pod? = some pod ∧ pod.name = name ∧
          state = .ofPod pod := by
      obtain ⟨told, hmem, hpod⟩ := ih h
      exact ⟨told, List.mem_append_left _ hmem, hpod⟩
    rw [Engine.after_concat] at h
    rcases Engine.act_apart ((Engine.new settings work reports).after moves) move with
      apart | ⟨time, rfl⟩ | ⟨event, rfl⟩ | rfl
    · exact before (apart.memory ▸ h)
    · exact before h
    · rcases Memory.get?_observe h with h | ⟨pod, hpod⟩
      · exact before h
      · exact ⟨_, List.mem_append_right _ (List.mem_singleton_self _), pod, hpod⟩
    · exact before h

end NodeImages.Work
