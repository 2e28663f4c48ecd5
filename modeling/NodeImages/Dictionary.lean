/-!
# Dictionaries

A dictionary holds values under names, each name once, in ascending order of the names. Two dictionaries with
the same values under the same names are equal.
-/

namespace NodeImages

/-- Values under names. -/
structure Dictionary (α : Type) where
  entries : List (String × α)
  ascending : entries.Pairwise fun a b => a.1 < b.1
  deriving DecidableEq, Repr

namespace Dictionary

variable {α : Type}

/-- Nothing under any name. -/
def empty : Dictionary α := ⟨[], .nil⟩

instance : Inhabited (Dictionary α) := ⟨empty⟩

/-- Puts a value where its name belongs; one under the same name is replaced. -/
def insertEntry (name : String) (value : α) : List (String × α) → List (String × α)
  | [] => [(name, value)]
  | (n, v) :: rest =>
    if name < n then (name, value) :: (n, v) :: rest
    else if name = n then (name, value) :: rest
    else (n, v) :: insertEntry name value rest

/-- What is among the entries after one is put in was there before, or has its name. -/
theorem fst_of_mem_insertEntry {name : String} {value : α} {entries : List (String × α)}
    {entry : String × α} (h : entry ∈ insertEntry name value entries) :
    entry.1 = name ∨ entry ∈ entries := by
  induction entries with
  | nil => simp [insertEntry] at h; simp [h]
  | cons head rest ih =>
    obtain ⟨n, v⟩ := head
    simp only [insertEntry] at h
    split at h
    · rcases List.mem_cons.1 h with rfl | h
      · exact .inl rfl
      · exact .inr h
    · split at h
      · rcases List.mem_cons.1 h with rfl | h
        · exact .inl rfl
        · exact .inr (.tail _ h)
      · rcases List.mem_cons.1 h with rfl | h
        · exact .inr (.head _)
        · exact (ih h).imp_right (.tail _)

/-- Entries stay in ascending order when one is put in. -/
theorem ascending_insertEntry {name : String} {value : α} {entries : List (String × α)}
    (h : entries.Pairwise fun a b => a.1 < b.1) :
    (insertEntry name value entries).Pairwise fun a b => a.1 < b.1 := by
  induction entries with
  | nil => simp [insertEntry]
  | cons head rest ih =>
    obtain ⟨n, v⟩ := head
    obtain ⟨hhead, hrest⟩ := List.pairwise_cons.1 h
    simp only [insertEntry]
    split
    · rename_i hlt
      refine List.pairwise_cons.2 ⟨fun entry hentry => ?_, h⟩
      rcases List.mem_cons.1 hentry with rfl | hentry
      · exact hlt
      · exact String.lt_trans hlt (hhead _ hentry)
    · split
      · rename_i heq
        subst heq
        exact List.pairwise_cons.2 ⟨hhead, hrest⟩
      · rename_i hlt hne
        refine List.pairwise_cons.2 ⟨fun entry hentry => ?_, ih hrest⟩
        rcases fst_of_mem_insertEntry hentry with heq | hentry
        · show n < entry.1
          rw [heq]
          exact Std.lt_of_le_of_ne (Std.not_lt.1 hlt) (Ne.symm hne)
        · exact hhead _ hentry

/-- The dictionary with a value under a name, in place of what was there. -/
def insert (name : String) (value : α) (dictionary : Dictionary α) : Dictionary α :=
  ⟨insertEntry name value dictionary.entries, ascending_insertEntry dictionary.ascending⟩

/-- The dictionary of a list of entries. Of several under one name the last one counts. -/
def ofList (entries : List (String × α)) : Dictionary α :=
  entries.foldl (fun dictionary entry => dictionary.insert entry.1 entry.2) empty

/-- The value under a name. -/
def get? (dictionary : Dictionary α) (name : String) : Option α :=
  dictionary.entries.lookup name

/-- Whether there is nothing under any name. -/
def isEmpty (dictionary : Dictionary α) : Bool :=
  dictionary.entries.isEmpty

/-- The number of names. -/
def size (dictionary : Dictionary α) : Nat :=
  dictionary.entries.length

/-- The dictionary with those names that have a property. -/
def filter (keep : String → Bool) (dictionary : Dictionary α) : Dictionary α :=
  ⟨dictionary.entries.filter fun entry => keep entry.1, dictionary.ascending.filter _⟩

/-- The dictionary without a name. -/
def erase (name : String) (dictionary : Dictionary α) : Dictionary α :=
  dictionary.filter (· != name)

/-- The dictionary with every value changed. -/
def map {β : Type} (f : α → β) (dictionary : Dictionary α) : Dictionary β :=
  ⟨dictionary.entries.map fun entry => (entry.1, f entry.2),
    List.pairwise_map.2 dictionary.ascending⟩

end Dictionary

end NodeImages
