import NodeImages.Proofs.Completion
import NodeImages.Proofs.Memory

/-!
# News that settle a job

The watch may tell of a pod any number of times: whenever anything about the pod changes, and once more in every list
of all pods. Of all that, one event settles the job of the pod: the one in which the pod is first seen to have come to
an end. Which one that is depends on what is remembered of the pod, and so on everything that was told before.

* `Verdict`: what becomes of a job whose pod has come to an end;
* `Closes`: an event closes an entry, given the events before;
* `Memory.table_observe`, `Table.settlePod_verdict`: what an event makes of the table;
* `Memory.observe_again`: an event that is told again makes nothing of it;
* `settled_at_end_of_pod`: an event changes the table exactly if it closes an entry, and then changes that one only.
-/

namespace NodeImages.Work

open Cluster

/-- What becomes of the result of a job whose pod has come to an end. -/
inductive Verdict (pod : Pod) (result : Result) : Result → Prop
  /-- The pod has succeeded. -/
  | succeeded (phase : pod.phase = some Pod.succeededPhase) :
      Verdict pod result { result with status := .succeeded }
  /-- The pod has failed, and its only container says why. -/
  | explained (phase : pod.phase = some Pod.failedPhase) (container : ContainerState) (detail : StateDetail)
      (only : pod.containers = [some container]) (terminated : container.terminated = some detail) :
      Verdict pod result
        { result with
          status := .failed, reason := detail.reason.getD "", message := detail.message.getD "" }
  /-- The pod has failed, and there is not just one container that has terminated. -/
  | unexplained (phase : pod.phase = some Pod.failedPhase)
      (silent : ¬ ∃ container detail, pod.containers = [some container] ∧ container.terminated = some detail) :
      Verdict pod result { result with status := .failed }

/-- An event closes an entry that is open: it shows the pod of the job after it has come to an end, of which nothing
    is remembered from the events before, or another version, in which it had not. -/
structure Closes (events : List WatchEvent) (table : Table) (event : WatchEvent) (pod : Pod) (entry : Entry) :
    Prop where
  shown : event.pod? = some pod
  ended : pod.phase = some Pod.succeededPhase ∨ pod.phase = some Pod.failedPhase
  new : ∀ state, Remembers events pod.name state → state.version ≠ pod.metadata.version ∧
    state.phase ≠ some Pod.succeededPhase ∧ state.phase ≠ some Pod.failedPhase
  mem : entry ∈ table.entries
  job : ∃ name, pod.jobName? = some name ∧ entry.job = .ofName name
  created : entry.result.status = .jobCreated

section

variable {pod : Pod} {result result' : Result} {table : Table} {memory : Memory} {event : WatchEvent}
  {events : List WatchEvent} {entry : Entry} {name : String}

/-! ## The table -/

theorem Verdict.status_ne (verdict : Verdict pod result result') : result'.status ≠ .jobCreated := by
  cases verdict <;> exact Status.noConfusion

theorem verdict_fail (phase : pod.phase = some Pod.failedPhase) : Verdict pod result (result.fail pod) := by
  rw [Result.fail]
  split
  · rename_i detail only
    exact .explained phase _ detail only rfl
  · rename_i other
    refine .unexplained phase ?_
    rintro ⟨⟨waiting, terminated⟩, detail, only, rfl⟩
    exact other waiting detail only

/-- A pod that has come to an end settles the entry of its job, if that is open. -/
theorem Table.settlePod_verdict (table : Table)
    (ended : pod.phase = some Pod.succeededPhase ∨ pod.phase = some Pod.failedPhase)
    (job : pod.jobName? = some name) :
    ∃ outcome : Result → Result, table.settlePod pod = table.resolve (.ofName name) outcome ∧
      ∀ result, Verdict pod result (outcome result) := by
  rw [settlePod, job]
  dsimp only
  by_cases phase : pod.phase = some Pod.succeededPhase
  · exact ⟨Result.succeed, if_pos phase, fun _ => .succeeded phase⟩
  · have failed := ended.resolve_left phase
    exact ⟨Result.fail pod, by rw [if_neg phase, if_pos failed], fun _ => verdict_fail failed⟩

/-! ## The memory -/

namespace Memory

theorem isNews_iff (knows : memory.Knows events) :
    memory.isNews pod = true ↔
      (pod.phase = some Pod.succeededPhase ∨ pod.phase = some Pod.failedPhase) ∧
      ∀ state, Remembers events pod.name state → state.version ≠ pod.metadata.version ∧
        state.phase ≠ some Pod.succeededPhase ∧ state.phase ≠ some Pod.failedPhase := by
  have final (phase : Option String) : PodState.isFinal phase = true ↔
      phase = some Pod.succeededPhase ∨ phase = some Pod.failedPhase := by
    rw [PodState.isFinal, Bool.or_eq_true, beq_iff_eq, beq_iff_eq]
  rw [isNews, Bool.and_eq_true, final]
  refine and_congr_right fun _ => ?_
  cases h : memory.seen.get? pod.name with
  | none =>
    refine iff_of_true rfl fun state remembers => ?_
    rw [← knows.seen, h] at remembers
    exact absurd remembers.symm (Option.some_ne_none _)
  | some state =>
    have only (other : PodState) : Remembers events pod.name other ↔ state = other := by
      rw [← knows.seen, h, Option.some_inj]
    simp only [only, forall_eq']
    rw [Bool.and_eq_true, bne_iff_ne, Bool.not_eq_true', ← Bool.not_eq_true, final, not_or]

/-- An event makes something of the table only if it shows a pod of which that is news. -/
theorem table_observe (memory : Memory) (event : WatchEvent) (table : Table) :
    (memory.observe event table).2 =
      match event.pod? with
      | some pod => if memory.isNews pod then table.settlePod pod else table
      | none => table := by
  cases event <;> rfl

/-- What has just been shown is no news. -/
theorem isNews_of_shown (shown : event.pod? = some pod) :
    (memory.observe event table).1.isNews pod = false := by
  have seen : (memory.observe event table).1.seen.get? pod.name = some (.ofPod pod) := by
    cases event with
    | listed other | changed other =>
      obtain rfl := Option.some.inj shown
      exact (Dictionary.get?_insert _ _ _ _).trans (if_pos rfl)
    | _ => exact absurd shown.symm (Option.some_ne_none _)
  rw [isNews, seen]
  simp [PodState.ofPod]

/-- When a list is complete, none is being read. -/
theorem listed_completeList (memory : Memory) : memory.completeList.listed = none := by
  rw [completeList]
  split
  · assumption
  · rfl

theorem completeList_of_listed_eq_none (complete : memory.listed = none) : memory.completeList = memory := by
  rw [completeList, complete]

/-- An event that is told again changes neither what has been seen of the pods, nor the table. -/
theorem observe_again (memory : Memory) (event : WatchEvent) (table other : Table) :
    ((memory.observe event table).1.observe event other).2 = other ∧
      ((memory.observe event table).1.observe event other).1.seen = (memory.observe event table).1.seen := by
  constructor
  · rw [table_observe]
    cases h : event.pod? with
    | none => rfl
    | some pod => exact if_neg (Bool.eq_false_iff.1 (isNews_of_shown h))
  · cases event with
    | listBegins => rfl
    | listed pod | changed pod => exact Dictionary.insert_insert _ _ _
    | gone pod => exact Dictionary.filter_filter (· != pod.name) memory.seen
    | listComplete => exact congrArg seen (completeList_of_listed_eq_none memory.listed_completeList)

end Memory

/-! ## Both -/

/-- An event that closes an entry changes that one, and no other. -/
theorem Closes.entries_observe (knows : memory.Knows events) (closes : Closes events table event pod entry) :
    ∃ result, Verdict pod entry.result result ∧
      (memory.observe event table).2.entries = table.entries.map fun other =>
        if other.job = entry.job then { entry with result } else other := by
  obtain ⟨shown, ended, new, mem, ⟨name, named, job⟩, created⟩ := closes
  obtain ⟨outcome, settled, verdict⟩ := table.settlePod_verdict ended named
  refine ⟨outcome entry.result, verdict _, ?_⟩
  rw [Memory.table_observe, shown]
  dsimp only
  rw [if_pos ((Memory.isNews_iff knows).2 ⟨ended, new⟩), settled, ← job]
  exact Table.entries_resolve_of_open outcome mem (Status.isPending_iff.2 created)

/-- An event that closes an entry changes the table. -/
theorem Closes.observe_ne (knows : memory.Knows events) (closes : Closes events table event pod entry) :
    (memory.observe event table).2 ≠ table := by
  intro same
  obtain ⟨result, verdict, entries⟩ := closes.entries_observe knows
  -- The table has one entry of the job, which would be open after all.
  have mem : { entry with result } ∈ table.entries := by
    rw [← same, entries]
    exact List.mem_map.2 ⟨entry, closes.mem, if_pos rfl⟩
  have unchanged : result = entry.result := congrArg Entry.result (Table.unique mem closes.mem rfl)
  exact verdict.status_ne (unchanged ▸ closes.created)

/-- An event that changes the table closes an entry. -/
theorem exists_closes (knows : memory.Knows events) (changed : (memory.observe event table).2 ≠ table) :
    ∃ pod entry, Closes events table event pod entry := by
  rw [Memory.table_observe] at changed
  cases shown : event.pod? with
  | none => exact absurd (by rw [shown]) changed
  | some pod =>
    rw [shown] at changed
    dsimp only at changed
    obtain ⟨news, changed⟩ := ite_ne_right_iff.1 changed
    obtain ⟨ended, new⟩ := (Memory.isNews_iff knows).1 news
    cases named : pod.jobName? with
    | none => exact absurd (by rw [Table.settlePod, named]) changed
    | some name =>
      obtain ⟨outcome, settled, -⟩ := table.settlePod_verdict ended named
      rw [settled] at changed
      -- Were the entry of the job closed, or not there, the table would stay as it is.
      by_contra none
      refine changed (Table.resolve_of_closed fun entry hentry job => ?_)
      by_contra isOpen
      exact none ⟨pod, entry, shown, ended, new, hentry, ⟨name, named, job⟩,
        Status.isPending_iff.1 (Bool.of_not_eq_false isOpen)⟩

end

/-- After any moves, an event of the watch changes the status table exactly if it is the one that first shows that the
    pod of an open entry has come to an end. It then changes that entry only, as the pod and its container say. To
    tell an event twice in a row makes the same of the table, and of what is remembered of the pods, as to tell it
    once. -/
theorem settled_at_end_of_pod (settings : Settings) (work reports : QueueConfig) (moves : List Move)
    (event : WatchEvent) :
    let engine := (Engine.new settings work reports).after moves
    let once := (engine.act (.observe event)).1
    let twice := (once.act (.observe event)).1
    (once.table ≠ engine.table ↔ ∃ pod entry, Closes (heard moves) engine.table event pod entry) ∧
    (∀ pod entry, Closes (heard moves) engine.table event pod entry →
      ∃ result, Verdict pod entry.result result ∧ once.table.entries = engine.table.entries.map fun other =>
        if other.job = entry.job then { entry with result } else other) ∧
    twice.table = once.table ∧ twice.memory.seen = once.memory.seen := by
  intro engine once twice
  have knows := knows_after settings work reports moves
  refine ⟨⟨exists_closes knows, ?_⟩, ?_, ?_⟩
  · rintro ⟨pod, entry, closes⟩
    exact closes.observe_ne knows
  · exact fun pod entry closes => closes.entries_observe knows
  · exact engine.memory.observe_again event engine.table once.table

/-- The pod of the job `j` is seen to have succeeded before the job is recorded, and again after it is gone. -/
def succeededTwice : List Move :=
  [.observe news, .insert (.real "j") { request := default, status := .jobCreated },
    .observe (.gone (podIn Pod.succeededPhase))]

theorem settled_at_end_of_pod_again :
    let engine := (Engine.new {} {} {}).after succeededTwice
    let once := (engine.act (.observe news)).1
    once.table ≠ engine.table ∧ ∃ result, result.status = .succeeded ∧
      once.table.entries = engine.table.entries.map fun other =>
        if other.job = .real "j" then ⟨.real "j", result, false⟩ else other := by
  intro engine once
  have knows := knows_after {} {} {} succeededTwice
  have closes : Closes (heard succeededTwice) engine.table news (podIn Pod.succeededPhase)
      ⟨.real "j", { request := default, status := .jobCreated }, false⟩ := by
    refine ⟨rfl, .inl rfl, fun state remembers => ?_, .head _, ⟨"j", by decide, by decide⟩, rfl⟩
    rw [← knows.seen] at remembers
    have forgotten : engine.memory.seen.get? (podIn Pod.succeededPhase).name = none := by decide
    exact absurd (forgotten.symm.trans remembers) nofun
  obtain ⟨changes, changed, -⟩ := settled_at_end_of_pod {} {} {} succeededTwice news
  obtain ⟨result, verdict, entries⟩ := changed _ _ closes
  refine ⟨changes.2 ⟨_, _, closes⟩, result, ?_, entries⟩
  cases verdict with
  | succeeded => rfl
  | explained phase | unexplained phase => exact absurd phase (by decide)

end NodeImages.Work
