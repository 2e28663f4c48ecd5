import Mathlib.Data.List.Dedup
import NodeImages.Proofs.Memory

/-!
# Pods that are tracked

The pods of which an engine remembers something are those that it has been told of and that are not known to be gone:
a pod is forgotten when it is told to be gone, and when a list of all pods is complete in which it did not come up. So
after a list has been read from its beginning to its end, the pods that are tracked are those of the list. What a list
says of a pod counts for the status table just as a change to the pod does.

* `Tracked`: a name has been shown, and nothing has made it forgotten since;
* `exists_remembers_iff`: then the state is remembered in which it was shown last;
* `unlisted_relisting`, `tracked_relist`: what is known of a name while a list is read, and when it is complete;
* `table_listing`: what a list makes of the table;
* `tracked_as_told`: all of this of an engine.
-/

namespace NodeImages.Work

open Cluster

/-- A pod of a name has been shown, and none of the events since has made the name forgotten. -/
def Tracked (events : List WatchEvent) (name : String) : Prop :=
  ∃ early event late pod, events = early ++ event :: late ∧ event.pod? = some pod ∧ pod.name = name ∧
    ∀ before later after, late = before ++ later :: after → ¬ Forgets name (early ++ event :: before) later

/-- The events of a list of all pods, but for the last, which says that it is complete. -/
def relisting (pods : List Pod) : List WatchEvent := .listBegins :: pods.map .listed

/-- The events of a complete list of all pods. -/
def relist (pods : List Pod) : List WatchEvent := relisting pods ++ [.listComplete]

variable {events : List WatchEvent} {event : WatchEvent} {name : String} {pods : List Pod} {pod : Pod}

/-! ## Names -/

theorem not_tracked_nil : ¬ Tracked [] name := by
  rintro ⟨early, event, late, pod, h, -⟩
  exact absurd h.symm (List.append_ne_nil_of_right_ne_nil _ (List.cons_ne_nil _ _))

theorem tracked_concat :
    Tracked (events ++ [event]) name ↔
      (∃ pod, event.pod? = some pod ∧ pod.name = name) ∨ Tracked events name ∧ ¬ Forgets name events event := by
  constructor
  · rintro ⟨early, shown, late, pod, h, hpod, hname, since⟩
    rcases concat_eq_append_cons.1 h with ⟨-, rfl, -⟩ | ⟨late, rfl, rfl⟩
    · exact .inl ⟨pod, hpod, hname⟩
    · refine .inr ⟨⟨early, shown, late, pod, rfl, hpod, hname, ?_⟩, since late event [] rfl⟩
      rintro before later after rfl
      exact since before later (after ++ [event]) (by rw [List.append_assoc, List.cons_append])
  · rintro (⟨pod, hpod, hname⟩ | ⟨⟨early, shown, late, pod, rfl, hpod, hname, since⟩, hlast⟩)
    · refine ⟨events, event, [], pod, rfl, hpod, hname, fun before later after h => ?_⟩
      exact absurd h.symm (List.append_ne_nil_of_right_ne_nil _ (List.cons_ne_nil _ _))
    · have row : early ++ shown :: late ++ [event] = early ++ shown :: (late ++ [event]) :=
        concat_eq_append_cons.2 (.inr ⟨late, rfl, rfl⟩)
      refine ⟨early, shown, late ++ [event], pod, row, hpod, hname, fun before later after h => ?_⟩
      rcases concat_eq_append_cons.1 h with ⟨rfl, rfl, -⟩ | ⟨after, rfl, rfl⟩
      · exact hlast
      · exact since before later after rfl

/-- Something is remembered of the names that are tracked, and of no others. -/
theorem exists_remembers_iff : (∃ state, Remembers events name state) ↔ Tracked events name := by
  induction events using List.reverseRecOn with
  | nil => exact iff_of_false (fun ⟨_, h⟩ => not_remembers_nil h) not_tracked_nil
  | append_singleton events event ih =>
    simp only [remembers_concat, tracked_concat, ← ih]
    constructor
    · rintro ⟨state, ⟨pod, hpod, hname, -⟩ | ⟨hstate, -, kept⟩⟩
      · exact .inl ⟨pod, hpod, hname⟩
      · exact .inr ⟨⟨state, hstate⟩, kept⟩
    · rintro (⟨pod, hpod, hname⟩ | ⟨⟨state, hstate⟩, kept⟩)
      · exact ⟨_, .inl ⟨pod, hpod, hname, rfl⟩⟩
      · -- If the event shows the pod as well, it is its state that is remembered from now on.
        by_cases shown : ∃ pod, event.pod? = some pod ∧ pod.name = name
        · obtain ⟨pod, hpod, hname⟩ := shown
          exact ⟨_, .inl ⟨pod, hpod, hname, rfl⟩⟩
        · exact ⟨state, .inr ⟨hstate, fun pod hpod hname => shown ⟨pod, hpod, hname⟩, kept⟩⟩

/-- What is remembered is the state of the pod that was shown last. -/
theorem Remembers.last {state : PodState} (remembers : Remembers events name state) :
    ∃ early event late pod, events = early ++ event :: late ∧ event.pod? = some pod ∧ pod.name = name ∧
      state = .ofPod pod ∧ ∀ later ∈ late, ∀ other, later.pod? = some other → other.name ≠ name := by
  obtain ⟨early, event, pod, late, rfl, hpod, hname, hstate, since⟩ := remembers
  refine ⟨early, event, late, pod, rfl, hpod, hname, hstate, fun later hlater => ?_⟩
  obtain ⟨before, after, rfl⟩ := List.append_of_mem hlater
  exact (since before later after rfl).1

/-! ## Lists -/

theorem relisting_concat (pods : List Pod) (pod : Pod) :
    relisting (pods ++ [pod]) = relisting pods ++ [.listed pod] := by
  rw [relisting, List.map_append]
  rfl

/-- While a list is read, the names are missing that have not come up in it. -/
theorem unlisted_relisting : Unlisted (events ++ relisting pods) name ↔ ∀ pod ∈ pods, pod.name ≠ name := by
  induction pods using List.reverseRecOn with
  | nil => exact iff_of_true (unlisted_concat.2 (.inl rfl)) (fun _ h => absurd h List.not_mem_nil)
  | append_singleton pods pod ih =>
    rw [relisting_concat, ← List.append_assoc, unlisted_concat, ih]
    simp [or_imp, forall_and]

/-- While a list is read, the names are tracked that have come up in it. -/
theorem tracked_relisting (h : pod ∈ pods) : Tracked (events ++ relisting pods) pod.name := by
  induction pods using List.reverseRecOn with
  | nil => exact absurd h List.not_mem_nil
  | append_singleton pods last ih =>
    rw [relisting_concat, ← List.append_assoc, tracked_concat]
    rcases List.mem_append.1 h with h | h
    · exact .inr ⟨ih h, nofun⟩
    · exact .inl ⟨last, rfl, by rw [List.mem_singleton.1 h]⟩

/-- When a list is complete, the names are tracked that have come up in it, and no others. -/
theorem tracked_relist : Tracked (events ++ relist pods) name ↔ ∃ pod ∈ pods, pod.name = name := by
  have missing : Unlisted (events ++ relisting pods) name ↔ ∀ pod ∈ pods, pod.name ≠ name := unlisted_relisting
  have hidden : ¬ ∃ pod, WatchEvent.pod? .listComplete = some pod ∧ pod.name = name :=
    fun ⟨_, shown, _⟩ => absurd shown.symm (Option.some_ne_none _)
  rw [relist, ← List.append_assoc, tracked_concat, or_iff_right hidden, forgets_listComplete_iff, missing]
  constructor
  · rintro ⟨-, missing⟩
    by_contra h
    exact missing fun pod hpod hname => h ⟨pod, hpod, hname⟩
  · rintro ⟨pod, hpod, rfl⟩
    exact ⟨tracked_relisting hpod, fun missing => missing pod hpod rfl⟩

/-! ## Engines -/

namespace Engine

variable {engine other : Engine}

theorem heard_observe (events : List WatchEvent) : heard (events.map .observe) = events := by
  rw [heard, List.filterMap_map]
  exact List.filterMap_some

/-- A pod on a list makes the same of the table as a change to it, and of what has been seen. -/
theorem table_listing (table : other.table = engine.table) (seen : other.memory.seen = engine.memory.seen)
    (pods : List Pod) :
    (other.after (pods.map fun pod => .observe (.listed pod))).table =
      (engine.after (pods.map fun pod => .observe (.changed pod))).table := by
  induction pods generalizing engine other with
  | nil => exact table
  | cons pod rest ih =>
    refine ih ?_ ?_
    · have news : (other.memory.tick pod).isNews pod = engine.memory.isNews pod := by
        rw [Memory.isNews, Memory.isNews, ← seen]
        rfl
      show (if (other.memory.tick pod).isNews pod then other.table.settlePod pod else other.table) =
        if engine.memory.isNews pod then engine.table.settlePod pod else engine.table
      rw [news, table]
    · exact congrArg (Dictionary.insert pod.name (.ofPod pod)) seen

end Engine

/-- The names of which something is remembered are counted. -/
theorem Memory.size_eq {memory : Memory} {names : List String}
    (h : ∀ name, (∃ state, memory.seen.get? name = some state) ↔ name ∈ names) :
    memory.size = names.dedup.length := by
  have nodup : (memory.seen.entries.map Prod.fst).Nodup :=
    List.pairwise_map.2 (memory.seen.ascending.imp Std.ne_of_lt)
  have perm : (memory.seen.entries.map Prod.fst).Perm names.dedup := by
    refine (List.perm_ext_iff_of_nodup nodup (List.nodup_dedup _)).2 fun name => ?_
    rw [List.mem_dedup, ← h, List.mem_map]
    simp only [← Dictionary.mem_entries]
    exact ⟨fun ⟨⟨_, state⟩, hmem, rfl⟩ => ⟨state, hmem⟩, fun ⟨state, hmem⟩ => ⟨_, hmem, rfl⟩⟩
  rw [← perm.length_eq, List.length_map]
  rfl

/-- What an engine remembers of its pods follows what it is told. A name is tracked exactly if a pod of it was shown
    that has not been told to be gone since, and has not been missing from a list that was complete; it is tracked in
    the state in which it was shown last. In particular, a list of all pods that is read from its beginning to its end
    leaves the names of the list, each counted once, whatever was told before; and it makes the same of the table as
    changes to its pods. -/
theorem tracked_as_told (settings : Settings) (work reports : QueueConfig) (moves : List Move) :
    let engine := (Engine.new settings work reports).after moves
    (∀ name, (∃ state, engine.memory.seen.get? name = some state) ↔ Tracked (heard moves) name) ∧
    (∀ name state, engine.memory.seen.get? name = some state →
      ∃ early event late pod, heard moves = early ++ event :: late ∧ event.pod? = some pod ∧ pod.name = name ∧
        state = .ofPod pod ∧ ∀ later ∈ late, ∀ other, later.pod? = some other → other.name ≠ name) ∧
    ∀ pods : List Pod,
      let relisted := engine.after ((relist pods).map .observe)
      (∀ name, (∃ state, relisted.memory.seen.get? name = some state) ↔ ∃ pod ∈ pods, pod.name = name) ∧
      relisted.memory.size = (pods.map Pod.name).dedup.length ∧
      relisted.table = (engine.after (pods.map fun pod => .observe (.changed pod))).table := by
  intro engine
  have tracked (moves : List Move) (name : String) :
      (∃ state, ((Engine.new settings work reports).after moves).memory.seen.get? name = some state) ↔
        Tracked (heard moves) name := by
    rw [← exists_remembers_iff]
    exact exists_congr fun state => (knows_after settings work reports moves).seen name state
  refine ⟨tracked moves, fun name state h => ?_, fun pods => ?_⟩
  · exact Remembers.last (((knows_after settings work reports moves).seen name state).1 h)
  · intro relisted
    have names (name : String) :
        (∃ state, relisted.memory.seen.get? name = some state) ↔ ∃ pod ∈ pods, pod.name = name := by
      have h := tracked (moves ++ (relist pods).map .observe) name
      rwa [Engine.after_append, heard, List.filterMap_append, ← heard, ← heard, Engine.heard_observe,
        tracked_relist] at h
    refine ⟨names, Memory.size_eq fun name => ?_, ?_⟩
    · rw [names, List.mem_map]
    · -- That a list begins or is complete makes nothing of the table.
      have ends : relisted.table =
          ((engine.act (.observe .listBegins)).1.after (pods.map fun pod => .observe (.listed pod))).table := by
        show (engine.after ((relist pods).map .observe)).table = _
        rw [relist, List.map_append, List.map_singleton, Engine.after_concat, relisting, List.map_cons, List.map_map]
        rfl
      rw [ends]
      have table : (engine.act (.observe .listBegins)).1.table = engine.table := rfl
      exact Engine.table_listing table rfl pods

/-- A list that is started over counts from its new beginning: what came up before that is missing from it. -/
example :
    let pod (name : String) : Pod := { metadata := { name := some name } }
    let engine := (Engine.new {} {} {}).after
      [.observe (.changed (pod "i")), .observe .listBegins, .observe (.listed (pod "j")), .observe .listBegins,
        .observe (.listed (pod "k")), .observe .listComplete]
    engine.memory.seen.entries.map Prod.fst = ["k"] := by decide

end NodeImages.Work
