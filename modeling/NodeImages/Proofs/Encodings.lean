import NodeImages.Proofs.Dictionary
import NodeImages.Proofs.Records

/-!
# What is written can be read

A schema restores a value if it takes what is written of the value for that value again (`Schema.Restores`). The
members of an object stand in the order in which they are written, or in ascending order of their names once a program
holds them; both are arrangements (`Arranges`), and neither matters to what is restored.

* `arranges_id`, `arranges_canonical`: the two arrangements;
* `restores_list`, `restores_dictionary`, `restores_optional`, `restores_choice`: what is put together of values that
  are restored is restored;
* `restores_obj`, `restores_objOf`: so is a record, all of whose members are written or of which some are left out.
-/

namespace NodeImages

/-- A name that is new comes to the others. -/
theorem Dictionary.insertEntry_perm {α : Type} {name : String} {value : α} {entries : List (String × α)}
    (new : name ∉ entries.map Prod.fst) : (insertEntry name value entries).Perm ((name, value) :: entries) := by
  induction entries with
  | nil => exact .refl _
  | cons entry rest ih =>
    obtain ⟨n, v⟩ := entry
    obtain ⟨apart, new⟩ := not_or.1 (mt List.mem_cons.2 new)
    rw [insertEntry, if_neg (show name ≠ n from apart)]
    split
    · exact .refl _
    · exact ((ih new).cons _).trans (.swap _ _ _)

namespace Json

variable {α σ : Type}

/-! ## Arrangements -/

/-- An arrangement puts the members of every object in some order and leaves all else as it is. -/
structure Arranges (form : Json → Json) : Prop where
  null : form .null = .null
  int (n : Int) : form (.int n) = .int n
  str (text : String) : form (.str text) = .str text
  arr (items : List Json) : form (.arr items) = .arr (items.map form)
  obj {members : List (String × Json)} : (members.map Prod.fst).Nodup →
    ∃ members', form (.obj members) = .obj members' ∧
      members'.Perm (members.map fun member => (member.1, form member.2))

/-- Objects may be left as they are. -/
theorem arranges_id : Arranges id where
  null := rfl
  int _ := rfl
  str _ := rfl
  arr _ := by rw [List.map_id]; rfl
  obj {members} _ := ⟨members, rfl, by simp⟩

theorem canonicalItems_eq (items : List Json) : canonicalItems items = items.map canonical := by
  induction items with
  | nil => rfl
  | cons item rest ih => rw [canonicalItems, ih, List.map_cons]

/-- The canonical members of an object with distinct names are its members, each in canonical form, in some order. -/
theorem canonicalMembers_perm {members done : List (String × Json)}
    (distinct : (members.map Prod.fst ++ done.map Prod.fst).Nodup) :
    (canonicalMembers members done).Perm (members.map (fun member => (member.1, member.2.canonical)) ++ done) := by
  induction members generalizing done with
  | nil => rfl
  | cons member rest ih =>
    obtain ⟨name, value⟩ := member
    obtain ⟨new, distinct⟩ := List.nodup_cons.1 distinct
    have put : (Dictionary.insertEntry name value.canonical done).Perm ((name, value.canonical) :: done) :=
      Dictionary.insertEntry_perm fun h => new (List.mem_append_right _ h)
    -- The names that are to come are still apart from those that have been put in.
    have names := (put.map Prod.fst).append_left (rest.map Prod.fst)
    rw [canonicalMembers]
    refine (ih (names.nodup_iff.2 ?_)).trans ((put.append_left _).trans List.perm_middle)
    exact List.perm_middle.nodup_iff.2 (List.nodup_cons.2 ⟨new, distinct⟩)

/-- Objects may be brought into canonical form. -/
theorem arranges_canonical : Arranges canonical where
  null := rfl
  int _ := rfl
  str _ := rfl
  arr items := by rw [canonical, canonicalItems_eq]
  obj {members} distinct := by
    have none : (members.map Prod.fst ++ ([] : List (String × Json)).map Prod.fst).Nodup := by simpa using distinct
    exact ⟨canonicalMembers members [], by rw [canonical], by simpa using canonicalMembers_perm none⟩

/-! ## Values that are restored -/

/-- What is written of the value is taken for the value, in whichever arrangement. -/
def Schema.Restores (schema : Schema α) (write : α → Json) (value : α) : Prop :=
  ∀ (source : Source) (form : Json → Json), Arranges form → schema.take source (form (write value)) = .ok value

namespace Schema

variable {schema : Schema α} {write : α → Json}

/-- A value that is made of a text is restored from the text. -/
theorem restores_textAs {expected : String} {make : String → Except Misfit α} {text : String} {value : α}
    (h : make text = .ok value) : (textAs expected make).Restores (fun _ => .str text) value := by
  intro source form arranges
  rw [arranges.str]
  exact h

theorem restores_text (text : String) : Schema.text.Restores .str text := restores_textAs rfl

theorem text_take_null (source : Source) (value : String) : text.take source .null ≠ .ok value := nofun

/-- A list is restored if its values are. -/
theorem restores_list {values : List α} (restores : ∀ value ∈ values, schema.Restores write value) :
    (list schema).Restores (fun values => .arr (values.map write)) values := by
  intro source form arranges
  rw [arranges.arr]
  show ((values.map write).map form).mapM (schema.take source) = .ok values
  induction values with
  | nil => rfl
  | cons value rest ih =>
    obtain ⟨first, rest⟩ := List.forall_mem_cons.1 restores
    rw [List.map_cons, List.map_cons, List.mapM_cons, first source form arranges, ih rest]
    rfl

/-- What is absent is written as null, which must not be what is written of a value. -/
theorem restores_optional (refuses : ∀ source value, schema.take source .null ≠ .ok value) (given : Option α)
    (restores : ∀ value ∈ given, schema.Restores write value) :
    schema.optional.Restores (fun given => (given.map write).getD .null) given := by
  intro source form arranges
  cases given with
  | none =>
    show schema.optional.take source (form .null) = .ok none
    rw [arranges.null]
    rfl
  | some value =>
    show schema.optional.take source (form (write value)) = .ok (some value)
    -- What is written is not null, or it would have been taken for what is absent.
    have taken := restores value rfl source form arranges
    generalize form (write value) = json at taken
    cases json with
    | null => exact absurd taken (refuses _ _)
    | _ => exact congrArg (Except.map some) taken

/-- A text that may be missing is restored from the text or from null, if null is not a text. -/
theorem restores_strOrNull {schema : Schema String} (refuses : ∀ source value, schema.take source .null ≠ .ok value)
    (text : Option String) (restores : ∀ given ∈ text, schema.Restores .str given) :
    schema.optional.Restores .strOrNull text := by
  have restored := restores_optional refuses text restores
  cases text <;> exact restored

/-- One of several values is restored from its name. -/
theorem restores_choice {all : List α} {name : α → String} {value : α} (h : named all name (name value) = .ok value) :
    (choice all name).Restores (fun value => .str (name value)) value := by
  intro source form arranges
  rw [arranges.str]
  exact h

/-- Members that are entries of a dictionary, with those that have been there before, make up the dictionary if they are
    all of its entries. -/
theorem takeEntries_eq {source : Source} {members : List (String × Json)} {dictionary done : Dictionary α}
    (entries : ∀ member ∈ members, ∃ value, schema.take source member.2 = .ok value ∧
      dictionary.get? member.1 = some value)
    (before : ∀ name value, done.get? name = some value → dictionary.get? name = some value)
    (all : ∀ name value, dictionary.get? name = some value →
      done.get? name = some value ∨ name ∈ members.map Prod.fst) :
    takeEntries schema source done members = .ok dictionary := by
  induction members generalizing done with
  | nil =>
    refine congrArg Except.ok (Dictionary.ext_get? fun name => Option.ext fun value => ⟨before name value, fun h => ?_⟩)
    exact (all name value h).resolve_right List.not_mem_nil
  | cons member rest ih =>
    obtain ⟨name, json⟩ := member
    obtain ⟨⟨value, taken, entry⟩, entries⟩ := List.forall_mem_cons.1 entries
    rw [takeEntries, taken]
    refine ih entries (fun other value' h => ?_) fun other value' h => ?_
    · rw [Dictionary.get?_insert] at h
      split at h
      · rename_i same
        exact same ▸ h ▸ entry
      · exact before other value' h
    · rw [Dictionary.get?_insert]
      split
      · rename_i same
        subst same
        exact .inl (entry.symm.trans h)
      · rename_i apart
        exact (all other value' h).imp_right fun listed => (List.mem_cons.1 listed).resolve_left apart

/-- A dictionary is restored if its values are. -/
theorem restores_dictionary {dictionary : Dictionary α}
    (restores : ∀ name value, dictionary.get? name = some value → schema.Restores write value) :
    (Schema.dictionary schema).Restores (fun dictionary => .ofDictionary (dictionary.map write)) dictionary := by
  intro source form arranges
  have distinct : ((dictionary.map write).entries.map Prod.fst).Nodup :=
    List.pairwise_map.2 ((dictionary.map write).ascending.imp Std.ne_of_lt)
  obtain ⟨members, arranged, perm⟩ := arranges.obj distinct
  have written : (dictionary.map write).entries.map (fun member => (member.1, form member.2)) =
      dictionary.entries.map fun entry => (entry.1, form (write entry.2)) := List.map_map
  rw [written] at perm
  show (Schema.dictionary schema).take source (form (.obj (dictionary.map write).entries)) = .ok dictionary
  rw [arranged]
  refine takeEntries_eq (fun member listed => ?_) nofun fun name value found => .inr ?_
  · obtain ⟨⟨name, value⟩, entry, rfl⟩ := List.mem_map.1 (perm.mem_iff.1 listed)
    have found := Dictionary.mem_entries.1 entry
    exact ⟨value, restores name value found source form arranges, found⟩
  · have listed := perm.mem_iff.2 (List.mem_map.2 ⟨_, Dictionary.mem_entries.2 found, rfl⟩)
    exact List.mem_map.2 ⟨_, listed, rfl⟩

end Schema

/-! ## Records -/

/-- What becomes of a record by a member that is given, in whichever arrangement, or left out. -/
inductive RecordSchema.Puts (schema : RecordSchema σ) (source : Source) (form : Json → Json) :
    String × Option Json → (σ → σ) → Prop
  /-- It is a field, into which the value is put. -/
  | field {name : String} {value : Json} {field : FieldSchema σ} {set : σ → Except Misfit σ} {change : σ → σ} :
      schema.fields.find? (·.name == name) = some field → field.schema.take source (form value) = .ok set →
      (∀ draft, set draft = .ok (change draft)) → Puts schema source form (name, some value) change
  /-- It is no field and is passed over. -/
  | passed {name : String} {value : Json} : schema.fields.find? (·.name == name) = none → schema.form = .plain →
      Puts schema source form (name, some value) id
  | absent {name : String} : Puts schema source form (name, none) id

/-- The members that are given. -/
def given (parts : List (String × Option Json)) : List (String × Json) :=
  parts.filterMap fun (name, value) => value.map (name, ·)

theorem objOf_eq (parts : List (String × Option Json)) : objOf parts = .obj (given parts) := rfl

/-- The members that are given keep their order. -/
theorem given_names_sublist (parts : List (String × Option Json)) :
    ((given parts).map Prod.fst).Sublist (parts.map Prod.fst) := by
  induction parts with
  | nil => exact .slnil
  | cons part rest ih =>
    obtain ⟨name, _ | value⟩ := part
    · exact ih.cons _
    · exact ih.cons_cons _

variable {schema : RecordSchema σ} {source : Source} {form : Json → Json} {parts : List (String × Option Json)}
  {changes : List (σ → σ)} {result : σ}

section puts

variable {α : Type} {inner : Schema α} {write : α → Json} {presence : Presence} {name : String}

/-- What is written of a value that is restored puts the value into its field. -/
theorem Schema.Restores.puts {value : α} {set : α → σ → σ} (restores : inner.Restores write value)
    (arranges : Arranges form) (found : schema.fields.find? (·.name == name) = some (.of presence name inner set)) :
    schema.Puts source form (name, some (write value)) (set value) :=
  .field found (FieldSchema.take_of.2 ⟨value, restores source form arranges, rfl⟩) fun _ => rfl

/-- It may be left out. -/
theorem Schema.Restores.puts_unless {value : α} {set : α → σ → σ} (restores : inner.Restores write value)
    (arranges : Arranges form) (found : schema.fields.find? (·.name == name) = some (.of presence name inner set))
    (skipped : Prop) [Decidable skipped] :
    schema.Puts source form (name, if skipped then none else some (write value))
      (if skipped then id else set value) := by
  split
  · exact .absent
  · exact restores.puts arranges found

/-- What may be null may be left out instead, if the record starts with nothing there. -/
theorem Schema.puts_present {value : Option α} {set : Option α → σ → σ}
    (restores : ∀ present ∈ value, inner.Restores write present)
    (refuses : ∀ source value, inner.take source .null ≠ .ok value) (arranges : Arranges form)
    (found : schema.fields.find? (·.name == name) = some (.of presence name inner.optional set)) :
    schema.Puts source form (name, value.map write) (value.elim id fun present => set (some present)) := by
  cases value with
  | none => exact .absent
  | some present => exact (restores_optional refuses (some present) restores).puts arranges found

end puts

namespace RecordSchema

/-- Whether a record has a field of a name. -/
def hasField (schema : RecordSchema σ) (name : String) : Bool :=
  (schema.fields.find? (·.name == name)).isSome

/-- Members that each put a value in its place make up the record, whatever form the objects have. -/
theorem takeMembers_puts (draft : Draft σ) (puts : List.Forall₂ (schema.Puts source form) parts changes)
    (new : ∀ name ∈ draft.seen, name ∉ parts.map Prod.fst) (distinct : (parts.map Prod.fst).Nodup) :
    schema.takeMembers source draft ((given parts).map fun member => (member.1, form member.2)) =
      .ok { draft with
        value := changes.foldl (fun value change => change value) draft.value
        seen := (((given parts).map Prod.fst).filter schema.hasField).reverse ++ draft.seen } := by
  induction puts generalizing draft with
  | nil => rfl
  | @cons part change parts changes first _ ih =>
    obtain ⟨apart, later⟩ := List.nodup_cons.1 distinct
    have others : ∀ name ∈ draft.seen, name ∉ parts.map Prod.fst := fun name seen listed =>
      new name seen (List.mem_cons_of_mem _ listed)
    cases first with
    | absent => exact ih draft others later
    | passed unknown plain =>
      refine takeMembers_cons_iff.2 ⟨draft, .passed unknown (.inr plain), (ih draft others later).trans ?_⟩
      simp [given, hasField, unknown]
    | @field name value field set _ found took sets =>
      have unseen : name ∉ draft.seen := fun seen => new name seen List.mem_cons_self
      refine takeMembers_cons_iff.2 ⟨_, .field found (fun _ => unseen) took (sets draft.value), ?_⟩
      refine (ih _ (fun name seen => ?_) later).trans ?_
      · obtain rfl | seen := List.mem_cons.1 seen
        · exact apart
        · exact others name seen
      · simp [given, hasField, found, Draft.give]

/-- A record is taken for what its members make of it, if every needed field is among them. -/
theorem take_objOf (arranges : Arranges form) (free : schema.OrderFree) (distinct : (parts.map Prod.fst).Nodup)
    (complete : ∀ field ∈ schema.fields, field.presence = .needed → field.name ∈ (given parts).map Prod.fst)
    (puts : List.Forall₂ (schema.Puts source form) parts changes)
    (made : changes.foldl (fun value change => change value) schema.start = result) :
    (Schema.record schema).take source (form (objOf parts)) = .ok result := by
  obtain ⟨members, arranged, perm⟩ := arranges.obj ((given_names_sublist parts).nodup distinct)
  have taken := takeMembers_puts { value := schema.start } puts nofun distinct
  rw [objOf_eq, arranged]
  refine (take_obj_perm free perm).2 (bind_eq_ok.2 ⟨_, taken, ?_⟩)
  refine finish_eq_ok.2 ⟨fun field listed needed => ?_, (free.concludes _ _).trans (congrArg _ made)⟩
  have known : schema.hasField field.name = true := List.find?_isSome.2 ⟨field, listed, beq_self_eq_true _⟩
  simpa [known] using complete field listed needed

/-- What stands for a field of a record that is accepted fits the field. -/
theorem exists_take_of_given (arranges : Arranges form)
    (taken : (Schema.record schema).take source (form (objOf parts)) = .ok result)
    (distinct : (parts.map Prod.fst).Nodup) (name : String) (value : Json) (listed : (name, value) ∈ given parts)
    {field : FieldSchema σ} (found : schema.fields.find? (·.name == name) = some field) :
    ∃ set, field.schema.take source (form value) = .ok set := by
  obtain ⟨members, arranged, perm⟩ := arranges.obj ((given_names_sublist parts).nodup distinct)
  rw [objOf_eq, arranged] at taken
  have member : (name, form value) ∈ members := perm.mem_iff.2 (List.mem_map.2 ⟨_, listed, rfl⟩)
  exact exists_take_of_mem taken member found

end RecordSchema

namespace Schema

/-- A record is restored of which every needed field is written, and every member that is written fits its field. -/
theorem restores_objOf {write : σ → Json} (written : write result = objOf parts) (free : schema.OrderFree)
    (distinct : (parts.map Prod.fst).Nodup)
    (complete : ∀ field ∈ schema.fields, field.presence = .needed → field.name ∈ (given parts).map Prod.fst)
    (makes : ∀ source form, Arranges form → ∃ changes, List.Forall₂ (schema.Puts source form) parts changes ∧
      changes.foldl (fun value change => change value) schema.start = result) :
    (record schema).Restores write result := by
  intro source form arranges
  obtain ⟨changes, puts, made⟩ := makes source form arranges
  rw [written]
  exact RecordSchema.take_objOf arranges free distinct complete puts made

/-- So is one of which every member is written. -/
theorem restores_obj {write : σ → Json} {members : List (String × Json)} (written : write result = .obj members)
    (free : schema.OrderFree) (distinct : (members.map Prod.fst).Nodup)
    (complete : ∀ field ∈ schema.fields, field.presence = .needed → field.name ∈ members.map Prod.fst)
    (makes : ∀ source form, Arranges form → ∃ changes,
      List.Forall₂ (schema.Puts source form) (members.map fun member => (member.1, some member.2)) changes ∧
        changes.foldl (fun value change => change value) schema.start = result) :
    (record schema).Restores write result := by
  have all : given (members.map fun member => (member.1, some member.2)) = members := by
    simp [given, List.filterMap_map]
  refine restores_objOf (written.trans (congrArg _ all.symm)) free ?_ ?_ makes
  · rw [List.map_map]
    exact distinct
  · rwa [all]

end Schema

end Json

end NodeImages
