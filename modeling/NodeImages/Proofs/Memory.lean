import NodeImages.Proofs.Surroundings

/-!
# What is remembered of pods

What an engine remembers of its pods comes from all that the watch has told it, and from nothing else. It is said
here of the row of events alone, with no regard to how the memory is kept: the last event that showed a pod of a name
counts, unless a pod of that name is gone since, or was missing from a list that was complete.

* `Unlisted`: a list is being read, and a name has not come up in it;
* `Forgets`: an event after which nothing is remembered under a name;
* `Remembers`: what is remembered under a name after a row of events;
* `knows_after`: that is what the memory of an engine holds, after any moves.
-/

namespace NodeImages.Work

open Cluster

/-- The pod that an event shows. -/
def WatchEvent.pod? : WatchEvent → Option Pod
  | listed pod | changed pod => some pod
  | _ => none

/-- The event that a move tells. -/
def Move.event? : Move → Option WatchEvent
  | observe event => some event
  | _ => none

/-- The events that a row of moves tells. -/
def heard (moves : List Move) : List WatchEvent := moves.filterMap Move.event?

/-- A list of all pods is being read, and no pod of a name has come up in it. -/
def Unlisted (events : List WatchEvent) (name : String) : Prop :=
  ∃ before list, events = before ++ .listBegins :: list ∧ .listBegins ∉ list ∧ .listComplete ∉ list ∧
    ∀ pod, .listed pod ∈ list → pod.name ≠ name

/-- An event after which nothing is remembered under a name, given the events before. -/
inductive Forgets (name : String) (earlier : List WatchEvent) : WatchEvent → Prop
  /-- A pod of the name is gone. -/
  | gone (pod : Pod) (named : pod.name = name) : Forgets name earlier (.gone pod)
  /-- The list is complete, and without a pod of the name. -/
  | missing (unlisted : Unlisted earlier name) : Forgets name earlier .listComplete

/-- What is remembered under a name after a row of events: the state of the pod of the name that was shown last,
    if nothing has happened since after which it is forgotten. -/
def Remembers (events : List WatchEvent) (name : String) (state : PodState) : Prop :=
  ∃ early event pod late, events = early ++ event :: late ∧ event.pod? = some pod ∧ pod.name = name ∧
    state = .ofPod pod ∧ ∀ before later after, late = before ++ later :: after →
      (∀ other, later.pod? = some other → other.name ≠ name) ∧ ¬ Forgets name (early ++ event :: before) later

section

variable {events : List WatchEvent} {event : WatchEvent} {name : String} {state : PodState} {pod : Pod}

/-! ## One more event -/

/-- A row with one more at the end is cut at that one, or at one of the others. -/
theorem concat_eq_append_cons {α : Type} {row front back : List α} {x y : α} :
    row ++ [x] = front ++ y :: back ↔
      (row = front ∧ x = y ∧ back = []) ∨ ∃ rest, back = rest ++ [x] ∧ row = front ++ y :: rest := by
  constructor
  · intro h
    rcases List.eq_nil_or_concat back with rfl | ⟨rest, last, rfl⟩
    · obtain ⟨hrow, hx⟩ := List.append_inj' h rfl
      exact .inl ⟨hrow, List.singleton_inj.1 hx, rfl⟩
    · rw [List.concat_eq_append, ← List.cons_append, ← List.append_assoc] at h
      obtain ⟨hrow, hx⟩ := List.append_inj' h rfl
      obtain rfl := List.singleton_inj.1 hx
      exact .inr ⟨rest, List.concat_eq_append, hrow⟩
  · rintro (⟨rfl, rfl, rfl⟩ | ⟨rest, rfl, rfl⟩)
    · rfl
    · rw [List.append_assoc, List.cons_append]

theorem not_unlisted_nil : ¬ Unlisted [] name := by
  rintro ⟨before, list, h, -⟩
  exact absurd h.symm (List.append_ne_nil_of_right_ne_nil _ (List.cons_ne_nil _ _))

theorem unlisted_concat :
    Unlisted (events ++ [event]) name ↔ event = .listBegins ∨
      Unlisted events name ∧ event ≠ .listComplete ∧ ∀ pod, event = .listed pod → pod.name ≠ name := by
  constructor
  · rintro ⟨before, list, h, once, incomplete, other⟩
    rcases concat_eq_append_cons.1 h with ⟨-, begins, -⟩ | ⟨rest, rfl, rfl⟩
    · exact .inl begins
    · simp only [List.mem_append, List.mem_singleton, not_or] at once incomplete other
      exact .inr ⟨⟨before, rest, rfl, once.1, incomplete.1, fun pod hpod => other pod (.inl hpod)⟩,
        Ne.symm incomplete.2, fun pod hpod => other pod (.inr hpod.symm)⟩
  · intro h
    by_cases begins : event = .listBegins
    · exact ⟨events, [], by rw [begins], List.not_mem_nil, List.not_mem_nil, fun _ => nofun⟩
    · obtain ⟨⟨before, list, rfl, once, incomplete, other⟩, hcomplete, hother⟩ := h.resolve_left begins
      refine ⟨before, list ++ [event], concat_eq_append_cons.2 (.inr ⟨list, rfl, rfl⟩), ?_, ?_, ?_⟩ <;>
        simp only [List.mem_append, List.mem_singleton, not_or]
      · exact ⟨once, Ne.symm begins⟩
      · exact ⟨incomplete, Ne.symm hcomplete⟩
      · rintro pod (hpod | hpod)
        · exact other pod hpod
        · exact hother pod hpod.symm

theorem not_remembers_nil : ¬ Remembers [] name state := by
  rintro ⟨early, event, pod, late, h, -⟩
  exact absurd h.symm (List.append_ne_nil_of_right_ne_nil _ (List.cons_ne_nil _ _))

theorem remembers_concat :
    Remembers (events ++ [event]) name state ↔
      (∃ pod, event.pod? = some pod ∧ pod.name = name ∧ state = .ofPod pod) ∨
        Remembers events name state ∧ (∀ other, event.pod? = some other → other.name ≠ name) ∧
          ¬ Forgets name events event := by
  constructor
  · rintro ⟨early, shown, pod, late, h, hpod, hname, hstate, since⟩
    rcases concat_eq_append_cons.1 h with ⟨-, rfl, -⟩ | ⟨late, rfl, rfl⟩
    · exact .inl ⟨pod, hpod, hname, hstate⟩
    · refine .inr ⟨⟨early, shown, pod, late, rfl, hpod, hname, hstate, ?_⟩, since late event [] rfl⟩
      rintro before later after rfl
      exact since before later (after ++ [event]) (by rw [List.append_assoc, List.cons_append])
  · rintro (⟨pod, hpod, hname, hstate⟩ | ⟨⟨early, shown, pod, late, rfl, hpod, hname, hstate, since⟩, hlast⟩)
    · refine ⟨events, event, pod, [], rfl, hpod, hname, hstate, fun before later after h => ?_⟩
      exact absurd h.symm (List.append_ne_nil_of_right_ne_nil _ (List.cons_ne_nil _ _))
    · have row : early ++ shown :: late ++ [event] = early ++ shown :: (late ++ [event]) :=
        concat_eq_append_cons.2 (.inr ⟨late, rfl, rfl⟩)
      refine ⟨early, shown, pod, late ++ [event], row, hpod, hname, hstate, fun before later after h => ?_⟩
      rcases concat_eq_append_cons.1 h with ⟨rfl, rfl, -⟩ | ⟨after, rfl, rfl⟩
      · exact hlast
      · -- Any other event since the pod was shown came before the last one.
        exact since before later after rfl

/-- Of the name of a pod that is shown, its state is remembered; of other names, what was. -/
theorem remembers_concat_of_shown (shown : event.pod? = some pod) :
    Remembers (events ++ [event]) name state ↔
      if name = pod.name then state = .ofPod pod else Remembers events name state := by
  have unforgotten : ¬ Forgets name events event := by
    intro forgets
    cases forgets <;> exact absurd shown.symm (Option.some_ne_none _)
  rw [remembers_concat, shown]
  by_cases h : name = pod.name
  · simp [h]
  · simp [h, Ne.symm h, unforgotten]

/-- An event that shows no pod can only make a name forgotten. -/
theorem remembers_concat_of_hidden (hidden : event.pod? = none) :
    Remembers (events ++ [event]) name state ↔ Remembers events name state ∧ ¬ Forgets name events event := by
  rw [remembers_concat, hidden]
  simp

theorem forgets_listComplete_iff : Forgets name events .listComplete ↔ Unlisted events name :=
  ⟨fun h => by cases h with | missing h => exact h, .missing⟩

/-! ## The memory -/

namespace Memory

variable {memory : Memory}

/-- A memory that holds what is to be remembered after a row of events. -/
structure Knows (memory : Memory) (events : List WatchEvent) : Prop where
  seen : ∀ name state, memory.seen.get? name = some state ↔ Remembers events name state
  unlisted : ∀ name, (∃ names, memory.listed = some names ∧ name ∉ names) ↔ Unlisted events name

theorem knows_nil : Knows {} [] where
  seen _ _ := iff_of_false nofun not_remembers_nil
  unlisted _ := iff_of_false (fun ⟨_, h, _⟩ => absurd h.symm (Option.some_ne_none _)) not_unlisted_nil

/-- What is remembered of a pod that is shown. -/
theorem get?_see (knows : memory.Knows events) (shown : event.pod? = some pod) :
    (memory.seen.insert pod.name (.ofPod pod)).get? name = some state ↔
      Remembers (events ++ [event]) name state := by
  rw [Dictionary.get?_insert, remembers_concat_of_shown shown]
  split
  · exact Option.some_inj.trans eq_comm
  · exact knows.seen name state

/-- What is still remembered when some names are forgotten. -/
theorem get?_filter {keep : String → Bool} (knows : memory.Knows events) (hidden : event.pod? = none)
    (kept : keep name = true ↔ ¬ Forgets name events event) :
    (memory.seen.filter keep).get? name = some state ↔ Remembers (events ++ [event]) name state := by
  rw [Dictionary.get?_filter, remembers_concat_of_hidden hidden, ← knows.seen name state, ← kept]
  split <;> simp_all

theorem Knows.observe (knows : memory.Knows events) (event : WatchEvent) (table : Table) :
    (memory.observe event table).1.Knows (events ++ [event]) := by
  cases event with
  | listBegins =>
    refine ⟨fun name state => ?_, fun name => ?_⟩
    · have kept : ¬ Forgets name events .listBegins := nofun
      rw [remembers_concat_of_hidden rfl, and_iff_left kept]
      exact knows.seen name state
    · exact iff_of_true ⟨[], rfl, List.not_mem_nil⟩ (unlisted_concat.2 (.inl rfl))
  | listed pod =>
    have seen (name : String) (state : PodState) :
        (memory.seen.insert pod.name (.ofPod pod)).get? name = some state ↔
          Remembers (events ++ [.listed pod]) name state := get?_see knows rfl
    refine ⟨seen, fun name => ?_⟩
    rw [unlisted_concat, ← knows.unlisted name, Memory.observe, see, remember, tick]
    cases memory.listed with
    | none => simp
    | some names => simp [eq_comm, and_comm]
  | changed pod =>
    refine ⟨fun name state => get?_see knows rfl, fun name => ?_⟩
    rw [unlisted_concat, ← knows.unlisted name]
    simp [Memory.observe, see, remember]
  | gone pod =>
    refine ⟨fun name state => get?_filter knows rfl ?_, fun name => ?_⟩
    · rw [bne_iff_ne, ne_comm]
      refine not_congr ⟨fun named => .gone pod named, fun forgets => ?_⟩
      cases forgets with
      | gone _ named => exact named
    · rw [unlisted_concat, ← knows.unlisted name]
      simp [Memory.observe]
  | listComplete =>
    have unlisted (name : String) : ¬ Unlisted (events ++ [.listComplete]) name := by
      simp [unlisted_concat]
    rw [Memory.observe, completeList]
    cases h : memory.listed with
    | none =>
      -- No list is being read from which a name could be missing.
      refine ⟨fun name state => ?_, fun name => iff_of_false (by simp [h]) (unlisted name)⟩
      have kept : ¬ Forgets name events .listComplete := by
        rw [forgets_listComplete_iff, ← knows.unlisted name]
        simp [h]
      rw [remembers_concat_of_hidden rfl, and_iff_left kept]
      exact knows.seen name state
    | some names =>
      refine ⟨fun name state => get?_filter knows rfl ?_, fun name => iff_of_false (by simp) (unlisted name)⟩
      rw [forgets_listComplete_iff, ← knows.unlisted name]
      simp [h]

end Memory

/-- But for the watch on pods, no move touches the memory. -/
theorem Engine.memory_act {engine : Engine} {move : Move} (untold : move.event? = none) :
    (engine.act move).1.memory = engine.memory := by
  rcases act_apart engine move with apart | ⟨time, rfl⟩ | ⟨event, rfl⟩ | rfl
  · exact apart.memory
  · rfl
  · exact absurd untold (Option.some_ne_none _)
  · rfl

/-- What an engine remembers of its pods is what there is to be remembered after all that it was told. -/
theorem knows_after (settings : Settings) (work reports : QueueConfig) (moves : List Move) :
    ((Engine.new settings work reports).after moves).memory.Knows (heard moves) := by
  induction moves using List.reverseRecOn with
  | nil => exact Memory.knows_nil
  | append_singleton moves move ih =>
    rw [Engine.after_concat, heard, List.filterMap_append, ← heard]
    cases h : move.event? with
    | none =>
      rw [Engine.memory_act h, List.filterMap_cons_none h]
      exact (List.append_nil (heard moves)).symm ▸ ih
    | some event =>
      have told : move = .observe event := by
        cases move with
        | observe => exact congrArg _ (Option.some.inj h)
        | _ => exact absurd h.symm (Option.some_ne_none _)
      rw [told]
      exact ih.observe event _

end

end NodeImages.Work
