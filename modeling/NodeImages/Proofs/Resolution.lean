import NodeImages.Proofs.Ledger

/-!
# The first resolution stands

Two parts of the engine resolve entries of the table: the watch on pods, at any moment, and a deadline run,
which reads the open entries, asks the cluster about them one after the other, and applies what it has made of
its copies long after. Whichever comes first has the last word.

* `first_resolution_stands`: between any moments of a course the result of an entry changes at most once, from
  open to a success or a failure, and always for the same request.
-/

namespace NodeImages.Work

open Cluster

section

variable {settings : Settings} {work reports : QueueConfig} {early late : List Move}

/-- What a result was at one moment of a course, it has become of that at any later one. -/
theorem becomes_after (inner : ∀ move ∈ early ++ late, move.isInner = true)
    (distinct : DistinctNames ((Engine.new settings work reports).notes (early ++ late)))
    {entry entry' : Entry}
    (h : entry ∈ ((Engine.new settings work reports).after early).table.entries)
    (h' : entry' ∈ ((Engine.new settings work reports).after (early ++ late)).table.entries)
    (same : entry'.job = entry.job) : entry.result.Becomes entry'.result := by
  have inner' : ∀ move ∈ early, move.isInner = true := fun move hmove =>
    inner move (List.mem_append_left _ hmove)
  rcases mem_entries_after inner distinct h' with ⟨result, hlate⟩ | ⟨old, hold, hjob, hbecomes⟩
  · -- A job that is in the table has been recorded, and is not recorded again.
    rw [Engine.notes_append] at distinct
    obtain ⟨_, hearly, _⟩ := (ledger_after inner' distinct.early).entries entry h
    rw [← same] at hearly
    exact absurd hearly (distinct.not_mem hlate)
  · rwa [Table.unique h hold (same.symm.trans hjob)]

end

/-- At three moments of a course, an entry of the table has a result that has become of the one that it was
    recorded with: at each moment it is what it was before, or it was open and has been settled. What has
    changed between the first two moments does not change any more, whoever resolved the entry and whatever
    a run has made of its copy in the meantime. -/
theorem first_resolution_stands (settings : Settings) (work reports : QueueConfig)
    (early middle late : List Move)
    (inner : ∀ move ∈ early ++ middle ++ late, move.isInner = true)
    (distinct : DistinctNames ((Engine.new settings work reports).notes (early ++ middle ++ late)))
    (first second third : Entry)
    (hfirst : first ∈ ((Engine.new settings work reports).after early).table.entries)
    (hsecond : second ∈ ((Engine.new settings work reports).after (early ++ middle)).table.entries)
    (hthird : third ∈
      ((Engine.new settings work reports).after (early ++ middle ++ late)).table.entries)
    (same : second.job = first.job) (same' : third.job = first.job) :
    (∃ result, .recorded first.job result ∈ (Engine.new settings work reports).notes early ∧
      result.Becomes first.result) ∧
    first.result.Becomes second.result ∧ second.result.Becomes third.result ∧
    (second.result ≠ first.result → third.result = second.result) := by
  have inner' : ∀ move ∈ early ++ middle, move.isInner = true := fun move hmove =>
    inner move (List.mem_append_left _ hmove)
  have distinct' : DistinctNames ((Engine.new settings work reports).notes (early ++ middle)) := by
    rw [Engine.notes_append] at distinct
    exact distinct.early
  have hbefore : first.result.Becomes second.result :=
    becomes_after inner' distinct' hfirst hsecond same
  have hafter : second.result.Becomes third.result :=
    becomes_after inner distinct hsecond hthird (same'.trans same.symm)
  refine ⟨?_, hbefore, hafter, fun hchanged => ?_⟩
  · rw [Engine.notes_append] at distinct'
    obtain ⟨result, hmem, hbecomes⟩ := (ledger_after
      (fun move hmove => inner' move (List.mem_append_left _ hmove)) distinct'.early).entries
      first hfirst
    exact ⟨result, mem_recordings.1 hmem, hbecomes⟩
  · obtain ⟨_, hclosed, _⟩ := hbefore.resolve_left hchanged
    refine hafter.eq_of_closed ?_
    rcases hclosed with h | h <;> rw [h] <;> decide

/-- The watch resolves a job while a run lists its pods; the failure that the run comes to is not applied. -/
theorem first_resolution_stands_resumption :
    ((Engine.hasty.after (resumption.take 6)).table.get? (.real "j")).map (·.status) =
      some .jobCreated ∧
    ∃ result, result.status = .succeeded ∧
      (Engine.hasty.after (resumption.take 7)).table.get? (.real "j") = some result ∧
      (Engine.hasty.after (resumption.take 9)).table.get? (.real "j") = some result := by
  have hopen : ((Engine.hasty.after (resumption.take 6)).table.get? (.real "j")).map (·.status) =
      some .jobCreated := by decide +kernel
  have hsettled : ((Engine.hasty.after (resumption.take 7)).table.get? (.real "j")).map (·.status) =
      some .succeeded := by decide +kernel
  have hlater : ((Engine.hasty.after (resumption.take 9)).table.get? (.real "j")).isSome = true := by
    decide +kernel
  refine ⟨hopen, ?_⟩
  obtain ⟨_, hresult, hopen⟩ := Option.map_eq_some_iff.1 hopen
  obtain ⟨result, hresult', hsettled⟩ := Option.map_eq_some_iff.1 hsettled
  obtain ⟨_, hresult''⟩ := Option.isSome_iff_exists.1 hlater
  obtain ⟨first, hfirst, hjob, rfl⟩ := Table.get?_eq_some_iff.1 hresult
  obtain ⟨second, hsecond, hjob', rfl⟩ := Table.get?_eq_some_iff.1 hresult'
  obtain ⟨third, hthird, hjob'', rfl⟩ := Table.get?_eq_some_iff.1 hresult''
  have hmiddle : resumption.take 6 ++ (resumption.drop 6).take 1 = resumption.take 7 := rfl
  have hlate : resumption.take 7 ++ (resumption.drop 7).take 2 = resumption.take 9 := rfl
  obtain ⟨-, -, -, hstands⟩ := first_resolution_stands { deadlineMs := 0 } {} {}
    (resumption.take 6) ((resumption.drop 6).take 1) ((resumption.drop 7).take 2) (by decide)
    (by decide +kernel) first second third hfirst (hmiddle ▸ hsecond)
    (by rw [hmiddle, hlate]; exact hthird) (hjob'.trans hjob.symm) (hjob''.trans hjob.symm)
  refine ⟨second.result, hsettled, hresult', ?_⟩
  rw [hresult'', hstands fun hsame => ?_]
  rw [hsame, hopen] at hsettled
  exact absurd hsettled (by decide)

end NodeImages.Work
