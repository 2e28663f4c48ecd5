import Mathlib.Data.List.Pairwise
import NodeImages.Json.Record

/-!
# Records out of objects

A record is put together member by member (`RecordSchema.Step`). What all fields keep is kept by the whole record, and
where no member may come again and the fields do not get in each other's way, it makes no difference in which order the
members come.

* `takeMembers_cons_iff`: the first member takes a step, and the rest goes on from there;
* `FieldSchema.Keeps`, `take_keeps`: what every field keeps is true of every record that is accepted;
* `FieldSchema.Commute`, `OrderFree`, `take_obj_perm`: the order of the members makes no difference;
* `exists_take_of_mem`, `exists_take_of_item`: what stands for a field of a record that is accepted fits the field;
* `memberNames_subset`: in the closed form there are no members but fields.
-/

namespace NodeImages.Json

variable {α β ε σ : Type}

/-! ## Results -/

theorem map_eq_ok {f : α → β} {result : Except ε α} {b : β} :
    result.map f = .ok b ↔ ∃ a, result = .ok a ∧ f a = b := by
  cases result with
  | error fault => exact ⟨nofun, nofun⟩
  | ok a => exact ⟨fun h => ⟨a, rfl, Except.ok.inj h⟩, fun ⟨_, h, hb⟩ => Except.ok.inj h ▸ congrArg Except.ok hb⟩

theorem bind_eq_ok {f : α → Except ε β} {result : Except ε α} {b : β} :
    result.bind f = .ok b ↔ ∃ a, result = .ok a ∧ f a = .ok b := by
  cases result with
  | error fault => exact ⟨nofun, nofun⟩
  | ok a => exact ⟨fun h => ⟨a, rfl, h⟩, fun ⟨_, h, hb⟩ => Except.ok.inj h ▸ hb⟩

/-- The names of the members of an object. -/
def memberNames : Json → List String
  | .obj members | .torn members _ => members.map Prod.fst
  | _ => []

/-! ## Fields -/

namespace FieldSchema

/-- The field keeps what is true of a draft. -/
def Keeps (P : σ → Prop) (field : FieldSchema σ) : Prop :=
  ∀ source value set, field.schema.take source value = .ok set →
    ∀ draft next, P draft → set draft = .ok next → P next

/-- What two fields make of a draft is the same in either order. -/
def Commute (field other : FieldSchema σ) : Prop :=
  ∀ source value value' set set', field.schema.take source value = .ok set →
    other.schema.take source value' = .ok set' → ∀ draft, (set draft).bind set' = (set' draft).bind set

instance : Std.Symm (@Commute σ) where
  symm _ _ h source value value' set set' took took' draft :=
    (h source value' value set' set took' took draft).symm

/-- A field is taken when its value is, and the value is set in the draft. -/
theorem take_of {presence : Presence} {name : String} {schema : Schema α} {set : α → σ → σ} {source : Source}
    {value : Json} {put : σ → Except Misfit σ} :
    (of presence name schema set).schema.take source value = .ok put ↔
      ∃ given, schema.take source value = .ok given ∧ (fun draft => .ok (set given draft)) = put :=
  map_eq_ok

/-- A field keeps a property that is kept by setting any value that it takes. -/
theorem keeps_of {P : σ → Prop} {presence : Presence} {name : String} {schema : Schema α} {set : α → σ → σ}
    (h : ∀ source value given, schema.take source value = .ok given → ∀ draft, P draft → P (set given draft)) :
    (of presence name schema set).Keeps P := by
  intro source value put took draft next kept hnext
  obtain ⟨given, hgiven, rfl⟩ := take_of.1 took
  exact Except.ok.inj hnext ▸ h source value given hgiven draft kept

/-- Two fields commute if it makes no difference which one is set first. -/
@[simp] theorem commute_of {presence presence' : Presence} {name name' : String} {schema : Schema α}
    {schema' : Schema β} {set : α → σ → σ} {set' : β → σ → σ}
    (h : ∀ a b draft, set' b (set a draft) = set a (set' b draft)) :
    (of presence name schema set).Commute (of presence' name' schema' set') := by
  intro source value value' put put' took took' draft
  obtain ⟨a, -, rfl⟩ := take_of.1 took
  obtain ⟨b, -, rfl⟩ := take_of.1 took'
  exact congrArg Except.ok (h a b draft)

end FieldSchema

/-- Drafts of one record in which the same fields have been. -/
structure Draft.Same (draft other : Draft σ) : Prop where
  value : draft.value = other.value
  others : draft.others = other.others
  seen : ∀ name, name ∈ draft.seen ↔ name ∈ other.seen

namespace RecordSchema

variable {schema : RecordSchema σ} {source : Source} {draft next last : Draft σ} {member : String × Json}
  {members : List (String × Json)}

/-! ## Steps -/

/-- What a member makes of a draft, if it is not refused. -/
inductive Step (schema : RecordSchema σ) (source : Source) (draft : Draft σ) : String × Json → Draft σ → Prop
  /-- It is a field, which has not been there unless it may come again. -/
  | field {name : String} {value : Json} {field : FieldSchema σ} {set : σ → Except Misfit σ} {next : σ} :
      schema.fields.find? (·.name == name) = some field → (schema.form ≠ .lenient → name ∉ draft.seen) →
      field.schema.take source value = .ok set → set draft.value = .ok next →
      Step schema source draft (name, value) (draft.give name next)
  /-- It is no field and is passed over, -/
  | passed {name : String} {value : Json} : schema.fields.find? (·.name == name) = none →
      schema.form = .lenient ∨ schema.form = .plain → Step schema source draft (name, value) draft
  /-- or gathered. -/
  | gathered {name : String} {value : Json} : schema.fields.find? (·.name == name) = none →
      schema.form = .gathering → Step schema source draft (name, value) (draft.gather name value)

theorem name_of_find? {name : String} {field : FieldSchema σ}
    (found : schema.fields.find? (·.name == name) = some field) : field.name = name := by
  have h := List.find?_some found
  exact beq_iff_eq.1 h

/-- Members are taken one by one. -/
theorem takeMembers_cons_iff :
    schema.takeMembers source draft (member :: members) = .ok last ↔
      ∃ next, schema.Step source draft member next ∧ schema.takeMembers source next members = .ok last := by
  obtain ⟨name, value⟩ := member
  rw [takeMembers, place]
  cases hfield : schema.fields.find? (·.name == name) with
  | none =>
    -- What becomes of the member depends on the form alone.
    cases hform : schema.form with
    | closed =>
      refine iff_of_false nofun ?_
      rintro ⟨next, step, -⟩
      cases step <;> simp_all
    | lenient | plain =>
      refine ⟨fun h => ⟨draft, .passed hfield (by simp [hform]), h⟩, ?_⟩
      rintro ⟨next, step, h⟩
      cases step <;> simp_all
    | gathering =>
      refine ⟨fun h => ⟨_, .gathered hfield hform, h⟩, ?_⟩
      rintro ⟨next, step, h⟩
      cases step <;> simp_all
  | some field =>
    by_cases again : schema.form ≠ .lenient ∧ name ∈ draft.seen
    · simp only [if_pos again]
      refine iff_of_false nofun ?_
      rintro ⟨next, step, -⟩
      cases step with
      | field _ new => exact new again.1 again.2
      | passed unknown | gathered unknown => cases hfield.symm.trans unknown
    · simp only [if_neg again]
      constructor
      · intro h
        split at h
        · cases h
        · rename_i put
          obtain ⟨set, took, put⟩ := bind_eq_ok.1 put
          exact ⟨_, .field hfield (fun strict seen => again ⟨strict, seen⟩) took put, h⟩
      · rintro ⟨next, step, h⟩
        cases step with
        | field found new took put =>
          obtain rfl := Option.some.inj (hfield.symm.trans found)
          rw [bind_eq_ok.2 ⟨_, took, put⟩]
          exact h
        | passed unknown | gathered unknown => cases hfield.symm.trans unknown

/-- What every step keeps is true of the draft in the end. -/
theorem takeMembers_induction {P : Draft σ → Prop}
    (step : ∀ draft member next, schema.Step source draft member next → P draft → P next)
    (taken : schema.takeMembers source draft members = .ok last) (start : P draft) : P last := by
  induction members generalizing draft with
  | nil => exact Except.ok.inj taken ▸ start
  | cons member rest ih =>
    obtain ⟨next, first, taken⟩ := takeMembers_cons_iff.1 taken
    exact ih taken (step _ _ _ first start)

/-- A record is complete when all the fields that it needs have been seen, and what it makes of the draft is accepted.
    -/
theorem finish_eq_ok {result : σ} :
    schema.finish draft = .ok result ↔
      (∀ field ∈ schema.fields, field.presence = .needed → field.name ∈ draft.seen) ∧
        schema.conclude draft.others.reverse draft.value = .ok result := by
  rw [finish]
  split
  · rename_i field missing
    have found := List.find?_some missing
    obtain ⟨needed, unseen⟩ := of_decide_eq_true found
    exact iff_of_false nofun fun h => unseen (h.1 field (List.mem_of_find?_eq_some missing) needed)
  · rename_i complete
    refine (and_iff_right fun field listed needed => ?_).symm
    have h := List.find?_eq_none.1 complete field listed
    rw [decide_eq_true_eq, not_and] at h
    exact Classical.not_not.1 (h needed)

/-! ## What all fields keep -/

/-- Fields that keep a property keep it, too, when they are given as the items of an array. -/
theorem takeItems_keeps {P : σ → Prop} {fields : List (FieldSchema σ)} (keeps : ∀ field ∈ fields, field.Keeps P)
    {items : List Json} {index left : Nat} {value result : σ}
    (taken : schema.takeItems source index value fields items = .ok (result, left)) (start : P value) : P result := by
  induction fields generalizing items index value with
  | nil =>
    cases Except.ok.inj taken
    exact start
  | cons field fields ih =>
    obtain ⟨first, rest⟩ := List.forall_mem_cons.1 keeps
    cases items with
    | nil =>
      rw [takeItems] at taken
      split at taken
      · exact ih rest taken start
      · cases taken
    | cons item items =>
      rw [takeItems] at taken
      split at taken
      · cases taken
      · rename_i put
        obtain ⟨set, took, put⟩ := bind_eq_ok.1 put
        exact ih rest taken (first _ _ _ took _ _ start put)

/-- What every field keeps is true of every record that is accepted, in whichever form it is given. -/
theorem take_keeps {P : σ → Prop} (keeps : ∀ field ∈ schema.fields, field.Keeps P)
    (concludes : ∀ others value, schema.conclude others value = .ok value) (start : P schema.start)
    {value : Json} {result : σ} (taken : (Schema.record schema).take source value = .ok result) : P result := by
  cases value with
  | obj members =>
    obtain ⟨last, taken, finished⟩ := bind_eq_ok.1 taken
    rw [finish_eq_ok, concludes] at finished
    refine Except.ok.inj finished.2 ▸ takeMembers_induction (P := fun draft => P draft.value) ?_ taken start
    intro draft member next step kept
    cases step with
    | field found _ took put => exact keeps _ (List.mem_of_find?_eq_some found) _ _ _ took _ _ kept put
    | passed | gathered => exact kept
  | torn members reason =>
    obtain ⟨_, _, refused⟩ := bind_eq_ok.1 taken
    cases refused
  | arr items =>
    change schema.take source (.arr items) = .ok result at taken
    rw [take] at taken
    split at taken
    · split at taken
      · cases taken
      · rename_i items
        split at taken
        · exact Except.ok.inj taken ▸ takeItems_keeps keeps items start
        · cases taken
    · cases taken
  | _ => cases taken

/-! ## What is accepted -/

/-- Every member of an object has taken a step. -/
theorem exists_step_of_mem {result : σ} (taken : (Schema.record schema).take source (.obj members) = .ok result)
    (listed : member ∈ members) : ∃ draft next, schema.Step source draft member next := by
  replace ⟨last, taken, _⟩ := bind_eq_ok.1 taken
  generalize ({ value := schema.start } : Draft σ) = draft at taken
  induction members generalizing draft with
  | nil => exact absurd listed List.not_mem_nil
  | cons first rest ih =>
    obtain ⟨next, step, taken⟩ := takeMembers_cons_iff.1 taken
    obtain rfl | listed := List.mem_cons.1 listed
    · exact ⟨draft, next, step⟩
    · exact ih listed _ taken

/-- A member that is a field fits it. -/
theorem exists_take_of_mem {result : σ} (taken : (Schema.record schema).take source (.obj members) = .ok result)
    (listed : member ∈ members) {field : FieldSchema σ}
    (found : schema.fields.find? (·.name == member.1) = some field) :
    ∃ set, field.schema.take source member.2 = .ok set := by
  obtain ⟨draft, next, step⟩ := exists_step_of_mem taken listed
  cases step with
  | field found' _ took =>
    obtain rfl := Option.some.inj (found.symm.trans found')
    exact ⟨_, took⟩
  | passed unknown | gathered unknown => cases found.symm.trans unknown

/-- In the closed form there are no members but fields. -/
theorem memberNames_subset (closed : schema.form = .closed) {value : Json} {result : σ}
    (taken : (Schema.record schema).take source value = .ok result) :
    value.memberNames ⊆ schema.fields.map (·.name) := by
  cases value with
  | obj members =>
    intro name named
    obtain ⟨member, listed, rfl⟩ := List.mem_map.1 named
    obtain ⟨draft, next, step⟩ := exists_step_of_mem taken listed
    cases step with
    | field found => exact List.mem_map.2 ⟨_, List.mem_of_find?_eq_some found, name_of_find? found⟩
    | passed _ form => simp [closed] at form
    | gathered _ form => simp [closed] at form
  | torn members reason =>
    obtain ⟨_, _, refused⟩ := bind_eq_ok.1 taken
    cases refused
  | _ => exact List.nil_subset _

/-- Every item of an array that stands in the place of a field fits that field. -/
theorem exists_take_of_item {items : List Json} {result : σ}
    (taken : (Schema.record schema).take source (.arr items) = .ok result) {index : Nat} {item : Json}
    {field : FieldSchema σ} (given : items[index]? = some item)
    (found : schema.fields[index]? = some field) : ∃ set, field.schema.take source item = .ok set := by
  replace ⟨_, taken⟩ : ∃ parts, schema.takeItems source 0 schema.start schema.fields items = .ok parts := by
    change schema.take source (.arr items) = .ok result at taken
    rw [take] at taken
    split at taken
    · split at taken
      · cases taken
      · exact ⟨_, ‹_›⟩
    · cases taken
  generalize schema.fields = fields, schema.start = start, 0 = place at taken found
  induction fields generalizing items index start place with
  | nil => simp at found
  | cons first fields ih =>
    cases items with
    | nil => simp at given
    | cons first' items =>
      rw [takeItems] at taken
      split at taken
      · cases taken
      · rename_i put
        obtain ⟨set, took, put⟩ := bind_eq_ok.1 put
        cases index with
        | zero =>
          obtain rfl := Option.some.inj given
          obtain rfl := Option.some.inj found
          exact ⟨set, took⟩
        | succ index =>
          rw [List.getElem?_cons_succ] at given found
          exact ih given _ _ taken found

/-! ## The order of the members -/

variable {other : Draft σ}

/-- It makes no difference to the record in which order the members were seen. -/
theorem finish_congr (same : draft.Same other) {result : σ} :
    schema.finish draft = .ok result ↔ schema.finish other = .ok result := by
  simp only [finish_eq_ok, same.value, same.others, same.seen]

/-- A member that can be taken after some members can be taken after the same ones in another order. -/
theorem Step.congr (same : draft.Same other) (step : schema.Step source draft member next) :
    ∃ next', schema.Step source other member next' ∧ next.Same next' := by
  cases step with
  | field found new took put =>
    refine ⟨_, .field found (fun strict seen => new strict ((same.seen _).2 seen)) took (same.value ▸ put), rfl,
      same.others, fun name => ?_⟩
    simp only [Draft.give, List.mem_cons, same.seen]
  | passed unknown form => exact ⟨other, .passed unknown form, same⟩
  | gathered unknown form =>
    exact ⟨_, .gathered unknown form, same.value, congrArg (_ :: ·) same.others, same.seen⟩

theorem takeMembers_congr (same : draft.Same other) (taken : schema.takeMembers source draft members = .ok last) :
    ∃ last', schema.takeMembers source other members = .ok last' ∧ last.Same last' := by
  induction members generalizing draft other with
  | nil => exact ⟨other, rfl, Except.ok.inj taken ▸ same⟩
  | cons member rest ih =>
    obtain ⟨next, step, taken⟩ := takeMembers_cons_iff.1 taken
    obtain ⟨next', step', same'⟩ := step.congr same
    obtain ⟨last', taken', same''⟩ := ih same' taken
    exact ⟨last', takeMembers_cons_iff.2 ⟨next', step', taken'⟩, same''⟩

/-- The order of the members makes no difference: none may come again, none is gathered, and no field gets in the way
    of another. -/
structure OrderFree (schema : RecordSchema σ) : Prop where
  form : schema.form = .plain ∨ schema.form = .closed
  commute : schema.fields.Pairwise FieldSchema.Commute
  concludes : ∀ others value, schema.conclude others value = .ok value

/-- Two members may change places. -/
theorem Step.swap (free : schema.OrderFree) {first second : String × Json}
    (step : schema.Step source draft first next) (step' : schema.Step source next second last) :
    ∃ next' last', schema.Step source draft second next' ∧ schema.Step source next' first last' ∧ last.Same last' := by
  have strict : schema.form ≠ .lenient := by rcases free.form with h | h <;> simp [h]
  have ungathered : schema.form ≠ .gathering := by rcases free.form with h | h <;> simp [h]
  cases step with
  | passed unknown form => exact ⟨last, last, step', .passed unknown form, rfl, rfl, fun _ => .rfl⟩
  | gathered _ form => exact absurd form ungathered
  | field found new took put =>
    cases step' with
    | passed unknown form => exact ⟨draft, _, .passed unknown form, .field found new took put, rfl, rfl, fun _ => .rfl⟩
    | gathered _ form => exact absurd form ungathered
    | field found' new' took' put' =>
      rename_i name value field set value₁ name' value' field' set' value₂
      obtain ⟨apart, new''⟩ := not_or.1 (mt List.mem_cons.2 (new' strict))
      -- The names differ, and so the fields do.
      have distinct : field ≠ field' := by
        rintro rfl
        exact apart ((name_of_find? found').symm.trans (name_of_find? found))
      have commute : field.Commute field' :=
        free.commute.forall (List.mem_of_find?_eq_some found) (List.mem_of_find?_eq_some found') distinct
      have both : (set draft.value).bind set' = .ok value₂ := bind_eq_ok.2 ⟨_, put, put'⟩
      rw [commute _ _ _ _ _ took took'] at both
      obtain ⟨value₃, put'', put⟩ := bind_eq_ok.1 both
      refine ⟨_, _, .field found' (fun _ => new'') took' put'', .field found (fun strict seen => ?_) took put, rfl, rfl,
        fun name => ?_⟩
      · obtain rfl | seen := List.mem_cons.1 seen
        · exact apart rfl
        · exact new strict seen
      · simp only [Draft.give, List.mem_cons]
        exact or_left_comm

/-- If no two fields get into each other's way, a record is the same for members in any order. -/
theorem takeMembers_perm (free : schema.OrderFree) {members' : List (String × Json)} (perm : members.Perm members')
    (taken : schema.takeMembers source draft members = .ok last) :
    ∃ last', schema.takeMembers source draft members' = .ok last' ∧ last.Same last' := by
  induction perm generalizing draft last with
  | nil => exact ⟨last, taken, rfl, rfl, fun _ => .rfl⟩
  | cons member _ ih =>
    obtain ⟨next, step, taken⟩ := takeMembers_cons_iff.1 taken
    obtain ⟨last', taken', same⟩ := ih taken
    exact ⟨last', takeMembers_cons_iff.2 ⟨next, step, taken'⟩, same⟩
  | swap first second rest =>
    obtain ⟨next, step, taken⟩ := takeMembers_cons_iff.1 taken
    obtain ⟨both, step', taken⟩ := takeMembers_cons_iff.1 taken
    obtain ⟨next', both', step', step, same⟩ := step.swap free step'
    obtain ⟨last', taken', same⟩ := takeMembers_congr same taken
    exact ⟨last', takeMembers_cons_iff.2 ⟨next', step', takeMembers_cons_iff.2 ⟨both', step, taken'⟩⟩, same⟩
  | trans _ _ ih ih' =>
    obtain ⟨last', taken', same⟩ := ih taken
    obtain ⟨last'', taken'', same'⟩ := ih' taken'
    exact ⟨last'', taken'', same.value.trans same'.value, same.others.trans same'.others,
      fun name => (same.seen name).trans (same'.seen name)⟩

/-- It makes no difference in which order the members of an object come. -/
theorem take_obj_perm (free : schema.OrderFree) {members' : List (String × Json)} (perm : members.Perm members')
    {result : σ} :
    schema.take source (.obj members) = .ok result ↔ schema.take source (.obj members') = .ok result := by
  have one {members members' : List (String × Json)} (perm : members.Perm members')
      (taken : schema.take source (.obj members) = .ok result) : schema.take source (.obj members') = .ok result := by
    obtain ⟨last, taken, finished⟩ := bind_eq_ok.1 taken
    obtain ⟨last', taken', same⟩ := takeMembers_perm free perm taken
    exact bind_eq_ok.2 ⟨last', taken', (finish_congr same).1 finished⟩
  exact ⟨one perm, one perm.symm⟩

end RecordSchema

end NodeImages.Json
