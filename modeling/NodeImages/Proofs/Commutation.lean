import NodeImages.Proofs.Confinement
import NodeImages.Proofs.Surroundings

/-!
# Runs of different image caches

Two runs of different image caches do not interfere. Of the table, each of them reads the entries of its own image
cache only (`Table.Agrees`), and it makes something of no others; so it makes no difference to the table, or to how far
the two have come, which of them moves first.

* `Engine.nextStage_congr`: what a run reads of the table;
* `Confined.table_comm`, `Confined.runs_comm`: the order of two moves of different runs;
* `runs_keep_apart`: runs keep to the entries and to the jobs of their own image caches.
-/

namespace NodeImages.Work

open Cluster

/-! ## What is read from the table -/

namespace Table

variable {table other : Table} {cacheKey : String} {batch : List JobId} {job : JobId}

/-- The entries of an image cache. -/
def entriesFor (table : Table) (cacheKey : String) : List Entry :=
  table.entries.filter (·.cacheKey == cacheKey)

theorem mem_entriesFor {entry : Entry} :
    entry ∈ table.entriesFor cacheKey ↔ entry ∈ table.entries ∧ entry.cacheKey = cacheKey := by
  rw [entriesFor, List.mem_filter, beq_iff_eq]

/-- Two tables have the same entries of an image cache, and of the jobs of a batch. -/
structure Agrees (table other : Table) (cacheKey : String) (batch : List JobId) : Prop where
  entries : other.entriesFor cacheKey = table.entriesFor cacheKey
  batch : ∀ job ∈ batch, other.entry? job = table.entry? job

/-- A job has the same entry in two tables that have the same entries of its image cache. -/
theorem entry?_congr (same : other.entriesFor cacheKey = table.entriesFor cacheKey)
    (own : ∀ entry ∈ table.entries, entry.job = job → entry.cacheKey = cacheKey)
    (own' : ∀ entry ∈ other.entries, entry.job = job → entry.cacheKey = cacheKey) :
    other.entry? job = table.entry? job := by
  refine Option.ext fun entry => ?_
  simp only [entry?_eq_some_iff]
  constructor
  · rintro ⟨hentry, hjob⟩
    have hmem := mem_entriesFor.2 ⟨hentry, own' entry hentry hjob⟩
    exact ⟨(mem_entriesFor.1 (same ▸ hmem)).1, hjob⟩
  · rintro ⟨hentry, hjob⟩
    have hmem := mem_entriesFor.2 ⟨hentry, own entry hentry hjob⟩
    exact ⟨(mem_entriesFor.1 (same.symm ▸ hmem)).1, hjob⟩

/-- Tables with the same entries of an image cache have the same jobs of it. -/
theorem jobsFor_congr (same : other.entriesFor cacheKey = table.entriesFor cacheKey) :
    other.jobsFor cacheKey = table.jobsFor cacheKey :=
  congrArg (List.map Entry.job) same

/-- They agree on whether one of its jobs is pending. -/
theorem hasPendingFor_congr (same : other.entriesFor cacheKey = table.entriesFor cacheKey) :
    other.hasPendingFor cacheKey = table.hasPendingFor cacheKey := by
  have any (table : Table) :
      table.hasPendingFor cacheKey = (table.entriesFor cacheKey).any Entry.isPending := by
    rw [entriesFor, List.any_filter, hasPendingFor]
    simp only [Bool.and_comm]
  rw [any, any, same]

/-- A job of an image cache has no entry but for that image cache. -/
theorem cacheKey_of_mem_jobsFor (h : job ∈ table.jobsFor cacheKey) {entry : Entry}
    (hentry : entry ∈ table.entries) (hjob : entry.job = job) : entry.cacheKey = cacheKey := by
  obtain ⟨found, hfound, rfl, hkey⟩ := mem_jobsFor.1 h
  rw [unique hentry hfound hjob, hkey]

/-- Tables with the same entries of an image cache have the same entry for each of its jobs. -/
theorem entry?_congr_of_mem_jobsFor (same : other.entriesFor cacheKey = table.entriesFor cacheKey)
    (h : job ∈ table.jobsFor cacheKey) : other.entry? job = table.entry? job :=
  entry?_congr same (fun _ => cacheKey_of_mem_jobsFor h)
    fun _ => cacheKey_of_mem_jobsFor ((jobsFor_congr same).symm ▸ h)

/-- Tables with the same entries for the jobs of a batch have the same pending jobs of it. -/
theorem pending_congr (same : ∀ job ∈ batch, other.entry? job = table.entry? job) :
    other.pending batch = table.pending batch :=
  List.filterMap_congr fun job hjob => by rw [same job hjob]

/-- They have the same jobs of it to delete. -/
theorem jobsToDelete_congr (same : ∀ job ∈ batch, other.entry? job = table.entry? job) :
    other.jobsToDelete batch = table.jobsToDelete batch := by
  refine congrArg (List.mergeSort · _) (List.filterMap_congr fun job hjob => ?_)
  cases job with
  | real => dsimp only; rw [same _ hjob]
  | synthetic => rfl

/-- They have the same results for it. -/
theorem results_congr (same : ∀ job ∈ batch, other.entry? job = table.entry? job) :
    other.results batch = table.results batch :=
  List.filterMap_congr fun job hjob => by rw [same job hjob]

/-- A resolution reaches the entry of its job alone. -/
theorem entry?_resolveAll (resolutions : List (JobId × Result)) (job : JobId) :
    entry? (table.resolveAll resolutions) job = (table.entry? job).map (Entry.resolveAll resolutions) := by
  unfold entry?
  rw [entries_resolveAll, List.find?_map]
  simp only [Function.comp_def, Entry.job_resolveAll]

end Table

namespace Run

variable {plan : RunPlan} {now deadline : Nat} {table other : Table} {stage : Stage}

/-- A batch is fixed by the entries of its image cache alone. -/
theorem fixBatch_congr (same : other.entriesFor plan.cacheKey = table.entriesFor plan.cacheKey) :
    fixBatch plan other = fixBatch plan table := by
  have entries : ∀ job ∈ table.jobsFor plan.cacheKey, other.entry? job = table.entry? job :=
    fun job hjob => Table.entry?_congr_of_mem_jobsFor same hjob
  rw [fixBatch_eq, fixBatch_eq, openJobs, openJobs, Table.jobsFor_congr same,
    Table.pending_congr entries, Table.jobsToDelete_congr entries]

/-- An inspection sees nothing but the entries of the image cache. -/
theorem inspect_congr (same : other.entriesFor plan.cacheKey = table.entriesFor plan.cacheKey) :
    inspect plan now deadline other = inspect plan now deadline table := by
  rw [inspect, inspect, Table.hasPendingFor_congr same, fixBatch_congr same]

/-- A look sees nothing else, either. -/
theorem look_congr (same : other.entriesFor plan.cacheKey = table.entriesFor plan.cacheKey) :
    look plan now other stage = look plan now table stage := by
  cases stage with
  | fresh | sleeping => rw [look, look, inspect_congr same]
  | _ => rfl

/-- Where a run comes to when it resolves its open jobs is known from the entries of its batch. -/
theorem resolve_congr (same : ∀ job ∈ stage.batch, other.entry? job = table.entry? job) :
    (resolve other stage).2 = (resolve table stage).2 := by
  cases stage with
  | resolving batch resolved =>
    have entries : ∀ job ∈ batch,
        Table.entry? (other.resolveAll resolved) job = Table.entry? (table.resolveAll resolved) job := by
      intro job hjob
      rw [Table.entry?_resolveAll, Table.entry?_resolveAll, same job hjob]
    rw [resolve, resolve]
    dsimp only
    rw [Table.jobsToDelete_congr entries]
  | _ => rfl

/-- Where it comes to after a deletion does not depend on the table. -/
theorem onDeleted_congr (answer : Outcome Unit) :
    (onDeleted plan answer other stage).2 = (onDeleted plan answer table stage).2 := by
  cases stage with
  | deleting => cases answer <;> rfl
  | _ => rfl

/-- What it collects is known from the entries of its batch. -/
theorem collect_congr (same : ∀ job ∈ stage.batch, other.entry? job = table.entry? job) :
    (collect plan other stage).2 = (collect plan table stage).2 := by
  cases stage with
  | collecting batch =>
    have results : other.results batch = table.results batch := Table.results_congr same
    rw [collect, collect, results]
    split <;> rfl
  | _ => rfl

end Run

/-- A run comes to the same stage whenever the table has the same entries for it. -/
theorem Engine.nextStage_congr {engine engine' : Engine} {run : ActiveRun} {move : Move}
    (now : engine'.now = engine.now) (settings : engine'.settings = engine.settings)
    (agrees : engine.table.Agrees engine'.table run.cacheKey run.stage.batch) :
    engine'.nextStage run move = engine.nextStage run move := by
  have plan : engine'.plan run.cacheKey = engine.plan run.cacheKey := by
    rw [Engine.plan, Engine.plan, settings]
  cases move with
  | look =>
    rw [nextStage, nextStage, now, plan]
    exact Run.look_congr agrees.entries
  | expire => exact Run.resolve_congr agrees.batch
  | deleted =>
    rw [nextStage, nextStage, plan]
    exact Run.onDeleted_congr _
  | collect =>
    rw [nextStage, nextStage, plan]
    exact congrArg Prod.snd (Run.collect_congr agrees.batch)
  | cancel | pods | events =>
    rw [nextStage, nextStage, plan]
  | _ => rfl

/-! ## Moves of two runs -/

/-- What becomes of the runs when one of them comes to a stage: it takes up the stage, or is dropped when it has
    ended. -/
def ActiveRun.restage (number : Nat) (stage : Stage) (run : ActiveRun) : Option ActiveRun :=
  if run.number = number then
    match stage with
    | .ended _ => none
    | stage => some { run with stage }
  else some run

namespace ActiveRun

variable {run run' : ActiveRun} {number number' : Nat} {stage stage' : Stage}

theorem restage_of_ne (h : run.number ≠ number) : run.restage number stage = some run := if_neg h

/-- A run keeps its number. -/
theorem number_of_restage (h : run.restage number stage = some run') : run'.number = run.number := by
  rw [restage.eq_def] at h
  split at h
  · cases stage with
    | ended => exact absurd h.symm (Option.some_ne_none _)
    | _ => rw [← Option.some.inj h]
  · rw [Option.some.inj h]

/-- The stage of one run has no part in what becomes of another one. -/
theorem restage_bind_of_ne (h : run.number ≠ number') :
    ((run.restage number stage).bind fun run => run.restage number' stage') = run.restage number stage := by
  cases hrestage : run.restage number stage with
  | none => rfl
  | some run' => exact restage_of_ne (number_of_restage hrestage ▸ h)

/-- It makes no difference which of two runs takes up its new stage first. -/
theorem restage_comm (apart : number ≠ number') (run : ActiveRun) :
    ((run.restage number stage).bind fun run => run.restage number' stage') =
      (run.restage number' stage').bind fun run => run.restage number stage := by
  by_cases h : run.number = number
  · have hother : run.number ≠ number' := h ▸ apart
    rw [restage_bind_of_ne hother, restage_of_ne hother, Option.bind_some]
  · rw [restage_bind_of_ne h, restage_of_ne h, Option.bind_some]

end ActiveRun

namespace Engine

variable {engine : Engine} {run : ActiveRun} {move : Move} {number : Nat}

/-- Whether a run takes notice of a move of its own at all. -/
def heeds (engine : Engine) : Move → Bool
  | .cancel _ => engine.stopping
  | _ => true

/-- What becomes of the runs in a move of one of them. -/
def restages (engine : Engine) (run : ActiveRun) (move : Move) : ActiveRun → Option ActiveRun :=
  if engine.heeds move then ActiveRun.restage run.number (engine.nextStage run move) else some

/-- Of the runs under way, the one that takes up a new stage is at that stage, or gone. -/
theorem runs_stand (engine : Engine) (run : ActiveRun) (stage : Stage) :
    (engine.stand run stage).1.runs = engine.runs.filterMap (·.restage run.number stage) := by
  cases stage with
  | ended outcome =>
    refine (congrFun List.filterMap_eq_filter _).symm.trans (List.filterMap_congr fun other _ => ?_)
    by_cases h : other.number = run.number <;> simp [ActiveRun.restage, Option.guard, h]
  | _ =>
    refine (congrFun List.filterMap_eq_map _).symm.trans (List.filterMap_congr fun other _ => ?_)
    rw [Function.comp_apply, ActiveRun.restage.eq_def]
    split <;> rfl

/-- In a move of its own, a run changes of the runs its own stage only. -/
theorem runs_act_of_own (own : move.run? = some run.number) (found : engine.run? run.number = some run) :
    (engine.act move).1.runs = engine.runs.filterMap (engine.restages run move) := by
  cases move with
  | look | pods | events =>
    obtain rfl := Option.some.inj own
    rw [act, advance, found]
    exact runs_stand _ _ _
  | cancel =>
    obtain rfl := Option.some.inj own
    by_cases stopping : engine.stopping = true
    · rw [act, if_pos stopping, advance, found, restages, heeds, if_pos stopping]
      exact runs_stand _ _ _
    · rw [act, if_neg stopping, restages, heeds, if_neg stopping]
      exact List.filterMap_some.symm
  | expire | deleted =>
    obtain rfl := Option.some.inj own
    rw [act, advanceTable, found]
    exact runs_stand _ _ _
  | collect =>
    obtain rfl := Option.some.inj own
    rw [act, found]
    dsimp only
    split <;>
    · rename_i hcollect
      rw [restages, nextStage, hcollect]
      exact runs_stand _ _ _
  | _ => exact absurd own (Option.some_ne_none _).symm

/-- Two runs make the same of the runs in either order. -/
theorem restages_comm {run' : ActiveRun} {move' : Move} (apart : run.number ≠ run'.number) (other : ActiveRun) :
    (engine.restages run move other).bind (engine.restages run' move') =
      (engine.restages run' move' other).bind (engine.restages run move) := by
  rw [restages, restages]
  split <;> split
  · exact ActiveRun.restage_comm apart other
  · rw [Option.bind_some, Option.bind_fun_some]
  · rw [Option.bind_some, Option.bind_fun_some]
  · rfl

/-- A move of a run touches neither the surroundings nor the time. -/
theorem apart_of_own (own : move.run? = some number) : engine.Apart (engine.act move).1 := by
  rcases act_apart engine move with apart | ⟨time, rfl⟩ | ⟨event, rfl⟩ | rfl
  · exact apart
  all_goals exact absurd own (Option.some_ne_none _).symm

theorem settings_of_own (own : move.run? = some number) : (engine.act move).1.settings = engine.settings := by
  have inner : move.isInner = true := by
    cases move <;> first | rfl | exact absurd own (Option.some_ne_none _).symm
  exact (act_effect inner).settings_eq

/-- Two runs of different image caches are both about to move. -/
structure Abreast (engine : Engine) (run : ActiveRun) (move : Move) (run' : ActiveRun) (move' : Move) :
    Prop where
  found : engine.run? run.number = some run
  own : move.run? = some run.number
  found' : engine.run? run'.number = some run'
  own' : move'.run? = some run'.number
  apart : run.cacheKey ≠ run'.cacheKey

namespace Abreast

variable {run' : ActiveRun} {move' : Move}

theorem symm (abreast : engine.Abreast run move run' move') : engine.Abreast run' move' run move :=
  ⟨abreast.found', abreast.own', abreast.found, abreast.own, abreast.apart.symm⟩

/-- Runs for different image caches are different. -/
theorem number_ne (abreast : engine.Abreast run move run' move') : run.number ≠ run'.number := by
  intro same
  have hrun := abreast.found
  rw [same, abreast.found'] at hrun
  exact abreast.apart (congrArg ActiveRun.cacheKey (Option.some.inj hrun)).symm

/-- When one of the two has moved, the other one is where it was. -/
theorem found_act (abreast : engine.Abreast run move run' move') :
    (engine.act move).1.run? run'.number = some run' := by
  refine run?_act_of_other ?_ abreast.found'
  rw [abreast.own]
  exact fun same => abreast.number_ne (Option.some.inj same)

end Abreast

end Engine

/-- A run that leaves an entry alone leaves alone what becomes of the entry in a move of another run. -/
theorem Stage.Contained.revises_bind_of_not_mem {stage other : Stage} {move move' : Move} {entry : Entry}
    (contained : other.Contained) (h : entry.job ∉ other.batch) :
    (stage.revises move entry).bind (other.revises move') = stage.revises move entry := by
  cases hrevises : stage.revises move entry with
  | none => rfl
  | some entry' => exact contained.revises_of_not_mem (Stage.job_of_revises hrevises ▸ h)

namespace Confined

variable {start : Engine} {moves : List Move} {move move' : Move} {run run' : ActiveRun}

/-- In a move of its own, a run leaves what a run of another image cache reads of the table as it is. -/
theorem agrees (confined : Confined start moves) (distinct : start.DistinctJobs moves)
    (abreast : (start.after moves).Abreast run move run' move') :
    (start.after moves).table.Agrees ((start.after moves).act move).1.table run'.cacheKey
      run'.stage.batch := by
  have hrun := (Engine.mem_of_run? abreast.found).1
  have hrun' := (Engine.mem_of_run? abreast.found').1
  -- The entries of the one image cache are among those that are not of the other one.
  have entriesFor (table : Table) : table.entriesFor run'.cacheKey =
      (table.entries.filter (·.cacheKey != run.cacheKey)).filter (·.cacheKey == run'.cacheKey) := by
    rw [Table.entriesFor, List.filter_filter]
    refine List.filter_congr fun entry _ => ?_
    by_cases hkey : entry.cacheKey = run'.cacheKey <;> simp [hkey, abreast.apart.symm]
  have entries : ((start.after moves).act move).1.table.entriesFor run'.cacheKey =
      (start.after moves).table.entriesFor run'.cacheKey := by
    rw [entriesFor, entriesFor, confined.entries_of_other distinct abreast.own abreast.found]
  refine ⟨entries, fun job hjob => Table.entry?_congr entries ?_ ?_⟩
  · rintro entry hentry rfl
    exact confined.cacheKey_of_mem_batch distinct hrun' hentry hjob
  · rintro entry' hentry' rfl
    rw [Engine.entries_act_of_own abreast.own abreast.found] at hentry'
    obtain ⟨entry, hentry, hrevises⟩ := List.mem_filterMap.1 hentry'
    rw [confined.cacheKey_of_revises distinct hrun hentry hrevises]
    rw [Stage.job_of_revises hrevises] at hjob
    exact confined.cacheKey_of_mem_batch distinct hrun' hentry hjob

/-- A run makes the same of the runs whether or not a run of another image cache has moved before. -/
theorem restages_act (confined : Confined start moves) (distinct : start.DistinctJobs moves)
    (abreast : (start.after moves).Abreast run move run' move') :
    ((start.after moves).act move).1.restages run' move' = (start.after moves).restages run' move' := by
  have apart : (start.after moves).Apart _ := Engine.apart_of_own abreast.own
  have next : ((start.after moves).act move).1.nextStage run' move' =
      (start.after moves).nextStage run' move' :=
    Engine.nextStage_congr apart.now (Engine.settings_of_own abreast.own) (confined.agrees distinct abreast)
  have heeds : ((start.after moves).act move).1.heeds move' = (start.after moves).heeds move' := by
    cases move' <;> first | rfl | exact apart.stopping
  funext r
  rw [Engine.restages, Engine.restages, next, heeds]

/-- Two runs of different image caches make the same of an entry in either order. -/
theorem revises_comm (confined : Confined start moves) (distinct : start.DistinctJobs moves)
    (abreast : (start.after moves).Abreast run move run' move') {entry : Entry}
    (hentry : entry ∈ (start.after moves).table.entries) :
    (run.stage.revises move entry).bind (run'.stage.revises move') =
      (run'.stage.revises move' entry).bind (run.stage.revises move) := by
  have hrun := (Engine.mem_of_run? abreast.found).1
  have hrun' := (Engine.mem_of_run? abreast.found').1
  -- An entry is in the batch of one of the two at most.
  by_cases hmem : entry.job ∈ run.stage.batch
  · have hkey := confined.cacheKey_of_mem_batch distinct hrun hentry hmem
    have hnot : entry.job ∉ run'.stage.batch := fun hmem' => abreast.apart
      (hkey.symm.trans (confined.cacheKey_of_mem_batch distinct hrun' hentry hmem'))
    have contained := (confined.runs run' hrun').2
    rw [contained.revises_bind_of_not_mem hnot, contained.revises_of_not_mem hnot, Option.bind_some]
  · have contained := (confined.runs run hrun).2
    rw [contained.revises_bind_of_not_mem hmem, contained.revises_of_not_mem hmem, Option.bind_some]

/-- The table comes to be the same, whichever of two runs of different image caches moves first. -/
theorem table_comm (confined : Confined start moves) (distinct : start.DistinctJobs moves)
    (abreast : (start.after moves).Abreast run move run' move') :
    (start.after (moves ++ [move, move'])).table = (start.after (moves ++ [move', move])).table := by
  refine Table.ext_entries ?_
  simp only [Engine.after_append, Engine.after_cons, Engine.after_nil]
  rw [Engine.entries_act_of_own abreast.own' abreast.found_act,
    Engine.entries_act_of_own abreast.own abreast.found,
    Engine.entries_act_of_own abreast.own abreast.symm.found_act,
    Engine.entries_act_of_own abreast.own' abreast.found', List.filterMap_filterMap, List.filterMap_filterMap]
  exact List.filterMap_congr fun entry hentry => confined.revises_comm distinct abreast hentry

/-- The runs come to the same stages, whichever of two runs of different image caches moves first. -/
theorem runs_comm (confined : Confined start moves) (distinct : start.DistinctJobs moves)
    (abreast : (start.after moves).Abreast run move run' move') :
    (start.after (moves ++ [move, move'])).runs = (start.after (moves ++ [move', move])).runs := by
  simp only [Engine.after_append, Engine.after_cons, Engine.after_nil]
  rw [Engine.runs_act_of_own abreast.own' abreast.found_act,
    Engine.runs_act_of_own abreast.own abreast.found,
    Engine.runs_act_of_own abreast.own abreast.symm.found_act,
    Engine.runs_act_of_own abreast.own' abreast.found', List.filterMap_filterMap, List.filterMap_filterMap,
    confined.restages_act distinct abreast, confined.restages_act distinct abreast.symm]
  exact List.filterMap_congr fun other _ => Engine.restages_comm abreast.number_ne other

end Confined

/-! ## Runs keep apart -/

/-- Runs of different image caches do not interfere. So long as no job comes in twice, a run calls the cluster about
    jobs only that belong to its image cache, and leaves the entries of all other image caches as they are, in whatever
    order the moves come and whatever the answers to its calls are. Of two runs of different image caches, it makes no
    difference to the table which one moves first, nor to how far the two have come. -/
theorem runs_keep_apart {start : Engine} {moves : List Move} {run : ActiveRun} (idle : start.runs = [])
    (distinct : start.DistinctJobs moves) (found : (start.after moves).run? run.number = some run) :
    (∀ call, run.stage.awaits = some call →
      ∃ name, call.job? = some name ∧ Belongs start moves (.real name) run.cacheKey ∧
        ∀ pod, call = .events name pod → Given start moves run.number name pod) ∧
    ∀ move, move.run? = some run.number →
      (start.after (moves ++ [move])).table.entries.filter (·.cacheKey != run.cacheKey) =
        (start.after moves).table.entries.filter (·.cacheKey != run.cacheKey) ∧
      ∀ run' move', (start.after moves).run? run'.number = some run' → move'.run? = some run'.number →
        run'.cacheKey ≠ run.cacheKey →
          (start.after (moves ++ [move, move'])).table = (start.after (moves ++ [move', move])).table ∧
          (start.after (moves ++ [move, move'])).runs = (start.after (moves ++ [move', move])).runs := by
  have confined := confined_after idle distinct
  refine ⟨fun call => calls_confined idle distinct (Engine.mem_of_run? found).1, fun move own => ⟨?_, ?_⟩⟩
  · rw [Engine.after_concat]
    exact confined.entries_of_other distinct own found
  · intro run' move' found' own' apart
    have abreast : (start.after moves).Abreast run move run' move' := ⟨found, own, found', own', apart.symm⟩
    exact ⟨confined.table_comm distinct abreast, confined.runs_comm distinct abreast⟩

/-- A course with two runs of different image caches, one of which is about to fail an open job while the other one
    waits to be told of the pods of another job. -/
def abreast : List Move :=
  let removal (cache : String) : Request :=
    { image := "x:1", node := .named "a", runtimeVersion := "", kind := .purge, cache := .named cache }
  [.dispatch (removal "w"), .job (.ok "j"), .dispatch (removal "v"), .job (.ok "k"),
    .start (removal "w").cacheKey, .start (removal "v").cacheKey, .look 0, .look 1, .pods 0 (.ok [{}])]

/-- Two runs that are under way side by side, of which one fails its open job while the other one waits. -/
theorem runs_keep_apart_abreast :
    Engine.hasty.runs = [] ∧ Engine.hasty.DistinctJobs abreast ∧
    ∃ run run', (Engine.hasty.after abreast).run? 0 = some run ∧
      (Engine.hasty.after abreast).run? 1 = some run' ∧ run'.cacheKey ≠ run.cacheKey ∧
      Belongs Engine.hasty abreast (.real "k") run'.cacheKey ∧
      (Engine.hasty.after (abreast ++ [.expire 0])).table.entries.filter (·.cacheKey != run.cacheKey) =
        (Engine.hasty.after abreast).table.entries.filter (·.cacheKey != run.cacheKey) ∧
      (Engine.hasty.after (abreast ++ [.expire 0, .pods 1 (.error .missing)])).table =
        (Engine.hasty.after (abreast ++ [.pods 1 (.error .missing), .expire 0])).table := by
  have distinct : Engine.hasty.DistinctJobs abreast := by
    rw [Engine.DistinctJobs]
    decide +kernel
  have hkey : ((Engine.hasty.after abreast).run? 0).map (·.cacheKey) = some "w" := by decide +kernel
  have hkey' : ((Engine.hasty.after abreast).run? 1).map (·.cacheKey) = some "v" := by decide +kernel
  have hcall : (((Engine.hasty.after abreast).run? 1).bind (·.stage.awaits)).bind Call.job? = some "k" := by
    decide +kernel
  obtain ⟨run, found, hkey⟩ := Option.map_eq_some_iff.1 hkey
  obtain ⟨run', found', hkey'⟩ := Option.map_eq_some_iff.1 hkey'
  rw [found', Option.bind_some] at hcall
  obtain ⟨call, hcall, hname⟩ := Option.bind_eq_some_iff.1 hcall
  have hnumber : run.number = 0 := (Engine.mem_of_run? found).2
  have hnumber' : run'.number = 1 := (Engine.mem_of_run? found').2
  have apart : run'.cacheKey ≠ run.cacheKey := by rw [hkey, hkey']; decide
  obtain ⟨-, moved⟩ := runs_keep_apart rfl distinct (hnumber.symm ▸ found)
  obtain ⟨confined, commuting⟩ := moved (.expire 0) (congrArg some hnumber.symm)
  obtain ⟨table, -⟩ := commuting run' (.pods 1 (.error .missing)) (hnumber'.symm ▸ found')
    (congrArg some hnumber'.symm) apart
  obtain ⟨calls, -⟩ := runs_keep_apart rfl distinct (hnumber'.symm ▸ found')
  obtain ⟨name, hname', belongs, -⟩ := calls call hcall
  obtain rfl := Option.some.inj (hname.symm.trans hname')
  exact ⟨rfl, distinct, run, run', found, found', apart, belongs, confined, table⟩

end NodeImages.Work
