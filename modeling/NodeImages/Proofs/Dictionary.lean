import Mathlib.Data.List.Nodup
import NodeImages.Dictionary

/-!
# Values under names

What is found under a name in a list of entries after the list has been changed. The first entry of a name
counts, so nothing is assumed of the order of the entries.

As the entries of a dictionary are in ascending order, what is found under all names determines it (`ext_get?`).
-/

namespace NodeImages.Dictionary

variable {α : Type} {entries : List (String × α)} {name k : String} {value : α}

theorem lookup_cons (name : String) (value : α) (entries : List (String × α)) (k : String) :
    List.lookup k ((name, value) :: entries) = if k = name then some value else entries.lookup k := by
  rw [List.lookup_cons]
  by_cases h : k = name
  · simp [h]
  · simp [h, beq_eq_false_iff_ne.2 h]

theorem lookup_of_notMem (h : k ∉ entries.map Prod.fst) : entries.lookup k = none := by
  rw [List.lookup_eq_none_iff]
  intro entry hentry
  rw [bne_iff_ne]
  rintro rfl
  exact h (List.mem_map.2 ⟨entry, hentry, rfl⟩)

/-- A filter on names keeps the values of the names that pass. -/
theorem lookup_filter (keep : String → Bool) (entries : List (String × α)) (k : String) :
    (entries.filter fun entry => keep entry.1).lookup k = if keep k then entries.lookup k else none := by
  induction entries with
  | nil => simp
  | cons entry rest ih =>
    obtain ⟨name, value⟩ := entry
    rw [List.filter_cons]
    by_cases hname : keep name = true
    · rw [if_pos hname, lookup_cons, ih, lookup_cons]
      by_cases hk : k = name
      · simp [hk, hname]
      · simp [hk]
    · rw [if_neg hname, ih, lookup_cons]
      by_cases hk : k = name
      · simp [hk, hname]
      · simp [hk]

/-- Among entries, the one that is put in takes the place of an earlier one of its name. -/
theorem lookup_insertEntry (name : String) (value : α) (entries : List (String × α)) (k : String) :
    (insertEntry name value entries).lookup k = if k = name then some value else entries.lookup k := by
  induction entries with
  | nil => rw [insertEntry, lookup_cons]
  | cons entry rest ih =>
    obtain ⟨n, v⟩ := entry
    rw [insertEntry]
    split
    · exact lookup_cons _ _ _ _
    · split
      · rename_i heq
        subst heq
        rw [lookup_cons, lookup_cons]
        by_cases hk : k = name <;> simp [hk]
      · rename_i hne
        rw [lookup_cons, ih, lookup_cons]
        by_cases hk : k = n
        · simp [hk, Ne.symm hne]
        · simp [hk]

/-- A name that is put in has its new value, and the others keep theirs. -/
@[simp] theorem get?_insert (name : String) (value : α) (dictionary : Dictionary α) (k : String) :
    (dictionary.insert name value).get? k = if k = name then some value else dictionary.get? k :=
  lookup_insertEntry _ _ _ _

/-- A filter on names leaves out the values of the names that do not pass. -/
@[simp] theorem get?_filter (keep : String → Bool) (dictionary : Dictionary α) (k : String) :
    (dictionary.filter keep).get? k = if keep k then dictionary.get? k else none :=
  lookup_filter _ _ _

/-! ## The same again -/

/-- To put in an entry twice is to put it in once. -/
theorem insertEntry_insertEntry (name : String) (value : α) (entries : List (String × α)) :
    insertEntry name value (insertEntry name value entries) = insertEntry name value entries := by
  induction entries with
  | nil => simp [insertEntry]
  | cons entry rest ih =>
    obtain ⟨n, v⟩ := entry
    rw [insertEntry]
    split
    · simp [insertEntry]
    · rename_i hlt
      split
      · simp [insertEntry]
      · rename_i hne
        rw [insertEntry, if_neg hlt, if_neg hne, ih]

@[simp] theorem insert_insert (name : String) (value : α) (dictionary : Dictionary α) :
    (dictionary.insert name value).insert name value = dictionary.insert name value := by
  simp only [insert, insertEntry_insertEntry]

@[simp] theorem filter_filter (keep : String → Bool) (dictionary : Dictionary α) :
    (dictionary.filter keep).filter keep = dictionary.filter keep := by
  simp only [filter, List.filter_filter, Bool.and_self]

/-! ## All that is found -/

variable {dictionary other : Dictionary α}

/-- The entries are the names with their values. -/
theorem mem_entries : (name, value) ∈ dictionary.entries ↔ dictionary.get? name = some value := by
  obtain ⟨entries, ascending⟩ := dictionary
  show (name, value) ∈ entries ↔ entries.lookup name = some value
  induction entries with
  | nil => exact iff_of_false List.not_mem_nil nofun
  | cons entry rest ih =>
    obtain ⟨n, v⟩ := entry
    obtain ⟨hhead, hrest⟩ := List.pairwise_cons.1 ascending
    rw [List.mem_cons, lookup_cons, ih hrest]
    split
    · rename_i heq
      subst heq
      -- The name does not come up again.
      have unique : rest.lookup name ≠ some value := fun h =>
        String.lt_irrefl name (hhead _ ((ih hrest).2 h))
      simp [unique, eq_comm]
    · rename_i hne
      simp [hne]

/-- A dictionary is known by the values of its names, since its entries stand in ascending order. -/
theorem ext_get? (h : ∀ name, dictionary.get? name = other.get? name) : dictionary = other := by
  have nodup (d : Dictionary α) : d.entries.Nodup :=
    List.Pairwise.imp (fun hlt => ne_of_apply_ne Prod.fst (Std.ne_of_lt hlt)) d.ascending
  have perm : dictionary.entries.Perm other.entries :=
    (List.perm_ext_iff_of_nodup (nodup _) (nodup _)).2 fun ⟨name, value⟩ => by
      rw [mem_entries, mem_entries, h]
  have entries := perm.eq_of_pairwise (fun _ _ _ _ hlt hgt => absurd hgt (String.lt_asymm hlt))
    dictionary.ascending other.ascending
  cases dictionary
  cases other
  cases entries
  rfl

/-- An empty dictionary has no value for any name. -/
theorem isEmpty_iff : dictionary.isEmpty = true ↔ ∀ name, dictionary.get? name = none := by
  rw [isEmpty, List.isEmpty_iff, List.eq_nil_iff_forall_not_mem]
  constructor
  · intro h name
    rw [Option.eq_none_iff_forall_ne_some]
    exact fun value hvalue => h _ (mem_entries.2 hvalue)
  · rintro h ⟨name, value⟩ hmem
    rw [mem_entries, h] at hmem
    exact absurd hmem.symm (Option.some_ne_none _)

theorem eq_empty_of_isEmpty (h : dictionary.isEmpty = true) : dictionary = .empty :=
  ext_get? fun name => isEmpty_iff.1 h name

end NodeImages.Dictionary
