import NodeImages.Proofs.Course

/-!
# Runs exclude each other

A guarded run bars its image cache for other guarded runs until it ends. In a course in which all runs are
guarded, a cache is therefore barred exactly while a run of it is under way, and there is one such run at most
(`Engine.Exclusive`).

* `Effect.exclusive`: moves that start guarded runs only keep it so;
* `exclusive_after`: it is so at every moment of a course.
-/

namespace NodeImages.Work

namespace Engine

/-- The runs that are under way are of different image caches, and just these are barred. -/
structure Exclusive (engine : Engine) : Prop extends engine.Numbered where
  guarded : ∀ run ∈ engine.runs, run.guarded = true
  apart : (engine.runs.map ActiveRun.cacheKey).Nodup
  barred : ∀ cacheKey, cacheKey ∈ engine.barred ↔ ∃ run ∈ engine.runs, run.cacheKey = cacheKey

variable {engine : Engine} {run : ActiveRun}

namespace Exclusive

/-- There is one run of an image cache at most. -/
theorem unique_cacheKey (exclusive : engine.Exclusive) {other : ActiveRun} (h : run ∈ engine.runs)
    (hother : other ∈ engine.runs) (same : other.cacheKey = run.cacheKey) : other = run :=
  List.inj_on_of_nodup_map exclusive.apart hother h same

theorem new (settings : Settings) (work reports : QueueConfig) :
    (Engine.new settings work reports).Exclusive where
  toNumbered := ⟨.nil, fun _ h => absurd h List.not_mem_nil⟩
  guarded _ h := absurd h List.not_mem_nil
  apart := .nil
  barred _ := ⟨fun h => absurd h List.not_mem_nil, fun ⟨_, h, _⟩ => absurd h List.not_mem_nil⟩

theorem of_sameRuns (exclusive : engine.Exclusive) {engine' : Engine}
    (same : engine.SameRuns engine') : engine'.Exclusive where
  toNumbered := exclusive.toNumbered.of_sameRuns same
  guarded := by rw [same.runs]; exact exclusive.guarded
  apart := by rw [same.runs]; exact exclusive.apart
  barred := by rw [same.runs, same.barred]; exact exclusive.barred

theorem addRun (exclusive : engine.Exclusive) {cacheKey : String}
    (free : engine.isBarred cacheKey = false) : (engine.addRun cacheKey true).1.Exclusive where
  toNumbered := exclusive.toNumbered.addRun cacheKey true
  guarded run h := by
    rcases List.mem_append.1 h with h | h
    · exact exclusive.guarded run h
    · rw [List.mem_singleton.1 h]
  apart := by
    rw [Engine.addRun, List.map_append, List.map_singleton, ← List.concat_eq_append]
    refine exclusive.apart.concat fun hmem => ?_
    have hbarred := (exclusive.barred cacheKey).2 (List.mem_map.1 hmem)
    rw [isBarred, List.contains_iff_mem.2 hbarred] at free
    exact Bool.noConfusion free
  barred key := by
    show key ∈ cacheKey :: engine.barred ↔
      ∃ run ∈ engine.runs ++ [⟨engine.nextRun, cacheKey, true, .fresh⟩], run.cacheKey = key
    simp only [List.mem_cons, exclusive.barred, List.mem_append, or_and_right, exists_or,
      List.not_mem_nil, or_false, exists_eq_left]
    rw [or_comm, eq_comm (a := key)]

/-- A run that ends lifts its own bar and no other. -/
theorem stand (exclusive : engine.Exclusive) (hrun : run ∈ engine.runs) (stage : Stage) :
    (engine.stand run stage).1.Exclusive := by
  have numbered := exclusive.toNumbered.stand hrun stage
  rcases stand_cases engine run stage with ⟨outcome, rfl⟩ | hstand
  · refine ⟨numbered, fun other h => exclusive.guarded other (List.mem_filter.1 h).1,
      exclusive.apart.sublist (List.filter_sublist.map _), fun cacheKey => ?_⟩
    have hguarded := exclusive.guarded run hrun
    simp only [Engine.stand, hguarded, if_true, List.mem_filter, exclusive.barred, bne_iff_ne]
    -- Another run has another number and another key.
    constructor
    · rintro ⟨⟨other, hother, rfl⟩, hkey⟩
      exact ⟨other, ⟨hother, fun h => hkey (exclusive.toNumbered.unique hrun hother h ▸ rfl)⟩, rfl⟩
    · rintro ⟨other, ⟨hother, hnumber⟩, rfl⟩
      exact ⟨⟨other, hother, rfl⟩, fun h => hnumber (exclusive.unique_cacheKey hrun hother h ▸ rfl)⟩
  · have hkeys : (engine.runs.map fun r => if r.number = run.number then { r with stage } else r).map
        ActiveRun.cacheKey = engine.runs.map ActiveRun.cacheKey :=
      map_restage ActiveRun.cacheKey fun _ => rfl
    rw [hstand]
    refine ⟨hstand ▸ numbered, fun other h => ?_, hkeys ▸ exclusive.apart, fun cacheKey => ?_⟩
    · obtain ⟨r, hr, rfl⟩ := List.mem_map.1 h
      split <;> exact exclusive.guarded r hr
    · rw [exclusive.barred, ← List.mem_map, ← List.mem_map, hkeys]

end Exclusive

end Engine

theorem Effect.exclusive {engine engine' : Engine} {move : Move} {notes : List Note}
    {deletions : List Deletion} (effect : Effect engine move engine' notes deletions)
    (guarded : move.isGuarded = true) (exclusive : engine.Exclusive) : engine'.Exclusive := by
  cases effect with
  | rest _ same | record _ _ _ _ same | settle _ _ _ same => exact exclusive.of_sameRuns same
  | start cacheKey guarded' kind _ same =>
    rcases kind with ⟨rfl, hfree⟩ | ⟨_, rfl⟩
    · exact (exclusive.addRun hfree).of_sameRuns same
    · exact absurd guarded Bool.false_ne_true
  | step run stage mem _ same =>
    exact (exclusive.stand (Engine.mem_of_run? mem).1 stage).of_sameRuns same
  | collect run _ mem _ _ _ same =>
    exact (exclusive.stand (Engine.mem_of_run? mem).1 _).of_sameRuns same

/-- In a course in which all runs are guarded, runs exclude each other at every moment. -/
theorem exclusive_after {settings : Settings} {work reports : QueueConfig} {moves : List Move}
    (inner : ∀ move ∈ moves, move.isInner = true) (guarded : ∀ move ∈ moves, move.isGuarded = true) :
    ((Engine.new settings work reports).after moves).Exclusive := by
  induction moves using List.reverseRecOn with
  | nil => exact .new settings work reports
  | append_singleton moves move ih =>
    rw [Engine.after_concat]
    exact (act_effect (inner move (by simp))).exclusive (guarded move (by simp))
      (ih (fun move h => inner move (by simp [h])) fun move h => guarded move (by simp [h]))

end NodeImages.Work
