import NodeImages.Cluster.Node

/-!
# Names of one image

An image goes by a short name and by longer ones that spell out what the short one leaves to the defaults. A name
without a slash leaves out the registry and the library, or the registry alone; a name whose first segment is no
registry leaves out the registry. Nothing else is left out, and so names have one qualified name in common only if they
are the same or one of them is short for the other.

* `Image.ShortFor`, `Image.Equivalent`: a name is short for another one; names of one image;
* `normalized_eq_iff`: names have the same qualified name exactly if they are names of one image;
* `names_of_one_image`: so that is also when a node is credited with an image.
-/

namespace NodeImages

namespace Image

/-- A name is short for a longer one, which spells out a part that the shorter one leaves to the default. -/
inductive ShortFor : List Char → List Char → Prop
  /-- A name without a slash stands in the library, -/
  | library {name : List Char} : '/' ∉ name → ShortFor name ("library/".toList ++ name)
  /-- which is that of the default registry. -/
  | official {name : List Char} : '/' ∉ name → ShortFor name ("docker.io/library/".toList ++ name)
  /-- A name whose first segment is no registry stands in the default one. -/
  | registry {first rest : List Char} : '/' ∉ first → '.' ∉ first → ':' ∉ first → first ≠ "localhost".toList →
      ShortFor (first ++ '/' :: rest) ("docker.io/".toList ++ (first ++ '/' :: rest))

/-- Names of one image are the same, or one of them is short for the other. -/
def Equivalent (x y : String) : Prop :=
  x = y ∨ ShortFor x.toList y.toList ∨ ShortFor y.toList x.toList

/-! ## Kinds of names -/

/-- The first part of a name is no registry if it has neither a dot nor a colon and is not the local host. -/
theorem isRegistry_eq_false_iff {first : List Char} :
    isRegistry first = false ↔ '.' ∉ first ∧ ':' ∉ first ∧ first ≠ "localhost".toList := by
  simp [isRegistry, and_assoc]

/-- A name has no slash, or it has a first segment, which is a registry or is none. -/
theorem bare_or_segmented (name : List Char) :
    '/' ∉ name ∨ ∃ first rest, name = first ++ '/' :: rest ∧ '/' ∉ first := by
  cases h : Text.cut '/' name with
  | none => exact .inl (Text.cut_eq_none_iff.1 h)
  | some parts => exact .inr ⟨parts.1, parts.2, Text.cut_eq_some h⟩

variable {name first rest : List Char}

/-- A name of one part is of the library of the default registry. -/
theorem normalizedChars_bare (h : '/' ∉ name) : normalizedChars name = "docker.io/library/".toList ++ name := by
  rw [normalizedChars, Text.cut_eq_none_iff.2 h]

/-- A name of several parts is of the default registry unless its first part is a registry. -/
theorem normalizedChars_segmented (h : '/' ∉ first) :
    normalizedChars (first ++ '/' :: rest) =
      if isRegistry first then first ++ '/' :: rest else "docker.io/".toList ++ (first ++ '/' :: rest) := by
  rw [normalizedChars, Text.cut_append rest h]

/-- A name that starts with the default registry is qualified. -/
theorem normalizedChars_default (rest : List Char) :
    normalizedChars ("docker.io/".toList ++ rest) = "docker.io/".toList ++ rest :=
  normalizedChars_segmented (show '/' ∉ "docker.io".toList by decide)

/-- Names that are not equal to their qualified names get the default registry, and so are qualified then. -/
theorem normalizedChars_idem (name : List Char) : normalizedChars (normalizedChars name) = normalizedChars name := by
  obtain h | ⟨first, rest, rfl, h⟩ := bare_or_segmented name
  · rw [normalizedChars_bare h]
    exact normalizedChars_default ("library/".toList ++ name)
  · rw [normalizedChars_segmented h]
    split
    · rename_i registry
      rw [normalizedChars_segmented h, if_pos registry]
    · exact normalizedChars_default _

/-! ## Names with one qualified name -/

/-- A short name and what it is short for have one normal form. -/
theorem ShortFor.normalizedChars_eq {x y : List Char} (short : ShortFor x y) :
    normalizedChars x = normalizedChars y := by
  cases short with
  | library bare =>
    -- The library is no registry.
    rw [normalizedChars_bare bare]
    exact (normalizedChars_segmented (show '/' ∉ "library".toList by decide)).symm
  | official bare =>
    rw [normalizedChars_bare bare]
    exact (normalizedChars_default ("library/".toList ++ _)).symm
  | registry slashless dotless portless notLocal =>
    have unregistered := isRegistry_eq_false_iff.2 ⟨dotless, portless, notLocal⟩
    rw [normalizedChars_default, normalizedChars_segmented slashless, unregistered]
    rfl

/-- A name that has the qualified name of a name without a slash is that name, or the latter is short for it. -/
theorem equivalent_bare {x y : List Char} (bare : '/' ∉ x) (h : normalizedChars x = normalizedChars y) :
    x = y ∨ ShortFor x y := by
  rw [normalizedChars_bare bare] at h
  obtain bare' | ⟨first, rest, rfl, slashless⟩ := bare_or_segmented y
  · rw [normalizedChars_bare bare'] at h
    exact .inl (List.append_cancel_left h)
  · rw [normalizedChars_segmented slashless] at h
    split at h
    · exact .inr (h ▸ .official bare)
    · have h : "library/".toList ++ x = first ++ '/' :: rest :=
        List.append_cancel_left (show "docker.io/".toList ++ _ = "docker.io/".toList ++ _ from h)
      exact .inr (h ▸ .library bare)

/-- Two names with slashes that have one qualified name are the same, or one of them lacks the default registry. -/
theorem equivalent_segmented {first' rest' : List Char} (slashless : '/' ∉ first) (slashless' : '/' ∉ first')
    (h : normalizedChars (first ++ '/' :: rest) = normalizedChars (first' ++ '/' :: rest')) :
    first ++ '/' :: rest = first' ++ '/' :: rest' ∨
      ShortFor (first ++ '/' :: rest) (first' ++ '/' :: rest') ∨
      ShortFor (first' ++ '/' :: rest') (first ++ '/' :: rest) := by
  have short {first rest : List Char} (slashless : '/' ∉ first) (unregistered : ¬isRegistry first = true) :
      ShortFor (first ++ '/' :: rest) ("docker.io/".toList ++ (first ++ '/' :: rest)) :=
    have ⟨dotless, portless, notLocal⟩ := isRegistry_eq_false_iff.1 (Bool.eq_false_iff.2 unregistered)
    .registry slashless dotless portless notLocal
  rw [normalizedChars_segmented slashless, normalizedChars_segmented slashless'] at h
  split at h
  · split at h
    · exact .inl h
    · rename_i unregistered
      exact .inr (.inr (h ▸ short slashless' unregistered))
  · rename_i unregistered
    split at h
    · exact .inr (.inl (h ▸ short slashless unregistered))
    · exact .inl (List.append_cancel_left h)

/-- Names have one normal form if they name one image, and only then. -/
theorem normalized_eq_iff {x y : String} : normalized x = normalized y ↔ Equivalent x y := by
  rw [normalized, normalized, String.ofList_inj]
  constructor
  · intro h
    rw [Equivalent, ← String.toList_inj]
    obtain bare | ⟨first, rest, hx, slashless⟩ := bare_or_segmented x.toList
    · exact (equivalent_bare bare h).imp_right .inl
    obtain bare' | ⟨first', rest', hy, slashless'⟩ := bare_or_segmented y.toList
    · exact (equivalent_bare bare' h.symm).imp Eq.symm .inr
    · rw [hx, hy] at h ⊢
      exact equivalent_segmented slashless slashless' h
  · rintro (rfl | short | short)
    · rfl
    · exact short.normalizedChars_eq
    · exact short.normalizedChars_eq.symm

theorem normalized_normalized (image : String) : normalized (normalized image) = normalized image := by
  rw [normalized, normalized, String.toList_ofList, normalizedChars_idem]

/-- Names are taken for one image by their normal forms. -/
theorem sameImage_iff {x y : String} : sameImage x y = true ↔ normalized x = normalized y := by
  rw [sameImage, Bool.or_eq_true, beq_iff_eq, beq_iff_eq]
  exact or_iff_right_of_imp (congrArg normalized)

end Image

namespace Cluster

open Image

/-! ## Images on nodes -/

/-- The node, with the qualified names in place of some of those that it reports. -/
def Node.qualify (node : Node) (replaced : Nat → Bool) : Node :=
  { node with
    imageNames := node.imageNames.mapIdx fun index name => if replaced index then normalized name else name }

/-- A node has an image if one of its names has the normal form of the image. -/
theorem Node.hasImage_iff {node : Node} {image : String} :
    node.hasImage image = true ↔ ∃ name ∈ node.imageNames, normalized name = normalized image := by
  simp only [hasImage, List.any_eq_true, sameImage_iff]

/-- It makes no difference which of its names a node gives in full. -/
theorem Node.hasImage_qualify (node : Node) (replaced : Nat → Bool) (image : String) :
    (node.qualify replaced).hasImage image = node.hasImage image := by
  -- The name that is looked for may be one that is replaced, but its qualified name stays the same.
  have unchanged (index : Nat) (name : String) :
      normalized (if replaced index then normalized name else name) = normalized name := by
    split
    · exact normalized_normalized name
    · rfl
  rw [Bool.eq_iff_iff, hasImage_iff, hasImage_iff]
  constructor
  · rintro ⟨_, listed, same⟩
    obtain ⟨index, bound, rfl⟩ := List.mem_mapIdx.1 listed
    exact ⟨_, List.getElem_mem bound, (unchanged index _).symm.trans same⟩
  · rintro ⟨_, listed, same⟩
    obtain ⟨index, bound, rfl⟩ := List.mem_iff_getElem.1 listed
    exact ⟨_, List.mem_mapIdx.2 ⟨index, bound, rfl⟩, (unchanged index _).trans same⟩

/-- The qualified name of a qualified name is that name itself. Names have the same qualified name if they are the same
    or one of them is short for the other, and not otherwise. So a node is credited with an image exactly if it reports
    a name of that image, and it makes no difference whether the image, or any of the names that the node reports, is
    given by its qualified name. -/
theorem names_of_one_image :
    (∀ image : String, normalized (normalized image) = normalized image) ∧
    (∀ x y : String, normalized x = normalized y ↔ Equivalent x y) ∧
    ∀ (node : Node) (image : String),
      (node.hasImage image = true ↔ ∃ name ∈ node.imageNames, Equivalent name image) ∧
      node.hasImage (normalized image) = node.hasImage image ∧
      ∀ replaced : Nat → Bool, (node.qualify replaced).hasImage image = node.hasImage image := by
  refine ⟨normalized_normalized, fun _ _ => normalized_eq_iff, fun node image => ⟨?_, ?_, fun replaced => ?_⟩⟩
  · simp only [Node.hasImage_iff, normalized_eq_iff]
  · rw [Bool.eq_iff_iff, Node.hasImage_iff, Node.hasImage_iff, normalized_normalized]
  · exact node.hasImage_qualify replaced image

/-- A port makes the first segment a registry, so the name is not short for that with the default registry in front. -/
example :
    let node : Node := { imageNames := ["docker.io/library/nginx:1.25", "docker.io/hub:5000/app"] }
    node.hasImage "nginx:1.25" = true ∧ node.hasImage "library/nginx:1.25" = true ∧
      node.hasImage "hub:5000/app" = false := by
  decide

end Cluster

end NodeImages
