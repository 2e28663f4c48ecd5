/-!
# Texts cut at a separator

`Text.cut` parts a text at the first occurrence of a character and `Text.cutLast` at the last one. A cut text
is its two parts with the separator between them, and the one part that must not hold it does not.
-/

namespace NodeImages.Text

/-- The text before the first occurrence of a character, and the text after it. -/
def cut (separator : Char) : List Char → Option (List Char × List Char)
  | [] => none
  | c :: rest =>
    if c = separator then some ([], rest)
    else (cut separator rest).map fun (before, after) => (c :: before, after)

/-- The text before the last occurrence of a character, and the text after it. -/
def cutLast (separator : Char) : List Char → Option (List Char × List Char)
  | [] => none
  | c :: rest =>
    match cutLast separator rest with
    | some (before, after) => some (c :: before, after)
    | none => if c = separator then some ([], rest) else none

/-- A text without the separator is not cut. -/
theorem cut_eq_none_iff {separator : Char} {text : List Char} :
    cut separator text = none ↔ separator ∉ text := by
  induction text with
  | nil => simp [cut]
  | cons c rest ih =>
    by_cases h : c = separator
    · simp [cut, h]
    · simp [cut, h, ih, Ne.symm h]

/-- A text is cut at the first separator. -/
theorem cut_append {separator : Char} {before : List Char} (after : List Char)
    (h : separator ∉ before) : cut separator (before ++ separator :: after) = some (before, after) := by
  induction before with
  | nil => simp [cut]
  | cons c rest ih =>
    simp only [List.mem_cons, not_or] at h
    simp [cut, Ne.symm h.1, ih h.2]

/-- The parts of a text that has been cut make up the text, and the first one is free of the separator. -/
theorem cut_eq_some {separator : Char} {text before after : List Char}
    (h : cut separator text = some (before, after)) :
    text = before ++ separator :: after ∧ separator ∉ before := by
  induction text generalizing before with
  | nil => simp [cut] at h
  | cons c rest ih =>
    by_cases hc : c = separator
    · simp only [cut, hc, if_true, Option.some.injEq, Prod.mk.injEq] at h
      simp [hc, ← h.1, ← h.2]
    · simp only [cut, hc, if_false, Option.map_eq_some_iff, Prod.exists, Prod.mk.injEq] at h
      obtain ⟨before', after', hcut, rfl, rfl⟩ := h
      obtain ⟨rfl, hmem⟩ := ih hcut
      simp [Ne.symm hc, hmem]

theorem cutLast_eq_none_iff {separator : Char} {text : List Char} :
    cutLast separator text = none ↔ separator ∉ text := by
  induction text with
  | nil => simp [cutLast]
  | cons c rest ih =>
    cases hr : cutLast separator rest with
    | some parts =>
      have : separator ∈ rest := Classical.byContradiction fun hn => by
        rw [ih.2 hn] at hr
        cases hr
      simp [cutLast, hr, this]
    | none =>
      have := ih.1 hr
      by_cases hc : c = separator
      · simp [cutLast, hr, hc]
      · simp [cutLast, hr, hc, this, Ne.symm hc]

/-- A text is cut at the last separator. -/
theorem cutLast_append {separator : Char} (before : List Char) {after : List Char}
    (h : separator ∉ after) :
    cutLast separator (before ++ separator :: after) = some (before, after) := by
  induction before with
  | nil => simp [cutLast, cutLast_eq_none_iff.2 h]
  | cons c rest ih => simp [cutLast, ih]

end NodeImages.Text
