import NodeImages.Proofs.Pulls

/-!
# Tags of references

The text of a reference has separators that stand for different things: a colon comes before a port or before a tag, or
it is part of a digest, which may hold slashes as well. The tag can be told from the text of every well-formed reference
all the same, as the digest begins at the first `@` and the last segment after the last slash that is left.

* `Reference.WellFormed`: which characters the parts of a reference may hold;
* `Reference.split_render`: the parts by which the text of a reference is split;
* `tag_of_reference`: the tag that is read off the text, and when the image is floating.
-/

namespace NodeImages.Image

namespace Reference

/-- The parts of a reference keep clear of the separators. A registry may have a port, a tag may hold colons, and a
    digest anything. -/
structure WellFormed (reference : Reference) : Prop where
  registry : ∀ registry ∈ reference.registry, '/' ∉ registry ∧ '@' ∉ registry
  segments : ∀ segment ∈ reference.segments, '/' ∉ segment ∧ '@' ∉ segment
  name : '/' ∉ reference.name ∧ '@' ∉ reference.name ∧ ':' ∉ reference.name
  tag : ∀ tag ∈ reference.tag, '/' ∉ tag ∧ '@' ∉ tag

variable {reference : Reference}

/-- What stands before the name: the registry and the segments, with a slash after each. -/
def path (reference : Reference) : List Char :=
  (reference.registry.toList ++ reference.segments).flatMap (· ++ ['/'])

/-- The name and the tag, with the colon between them. -/
def tagged (reference : Reference) : List Char :=
  reference.name ++ (reference.tag.map (':' :: ·)).getD []

/-- The digest, with the `@` in front of it. -/
def digestPart (reference : Reference) : List Char :=
  (reference.digest.map ('@' :: ·)).getD []

/-- A reference is written as its path, its name with the tag, and the digest. -/
theorem render_eq (reference : Reference) :
    reference.render = reference.path ++ reference.tagged ++ reference.digestPart := by
  rw [render, path, tagged, digestPart, List.flatMap_append]
  cases reference.registry <;> simp

/-- A path ends with a slash, unless it is empty. -/
theorem path_ends (reference : Reference) : reference.path = [] ∨ ∃ front, reference.path = front ++ ['/'] := by
  rw [path]
  obtain none | ⟨parts, last, some⟩ := List.eq_nil_or_concat (reference.registry.toList ++ reference.segments)
  · exact .inl (by rw [none, List.flatMap_nil])
  · exact .inr ⟨parts.flatMap (· ++ ['/']) ++ last, by simp [some]⟩

namespace WellFormed

/-- What follows the last slash of the path holds no slash. -/
theorem slash_not_mem_tagged (wellFormed : reference.WellFormed) : '/' ∉ reference.tagged := by
  rw [tagged, List.mem_append, not_or]
  refine ⟨wellFormed.name.1, ?_⟩
  cases h : reference.tag with
  | none => exact List.not_mem_nil
  | some tag => simpa using (wellFormed.tag tag h).1

/-- The sign before the digest does not occur in the path. -/
theorem at_not_mem_path (wellFormed : reference.WellFormed) : '@' ∉ reference.path := by
  rw [path, List.mem_flatMap]
  rintro ⟨part, listed, at_part⟩
  have undigested : '@' ∉ part := by
    obtain registry | segment := List.mem_append.1 listed
    · exact (wellFormed.registry part (Option.mem_toList.1 registry)).2
    · exact (wellFormed.segments part segment).2
  simp [undigested] at at_part

/-- Nor does it occur in the name with the tag. -/
theorem at_not_mem_tagged (wellFormed : reference.WellFormed) : '@' ∉ reference.tagged := by
  rw [tagged, List.mem_append, not_or]
  refine ⟨wellFormed.name.2.1, ?_⟩
  cases h : reference.tag with
  | none => exact List.not_mem_nil
  | some tag => simpa using (wellFormed.tag tag h).2

/-- The text of a reference is split between its parts. -/
theorem split_render (wellFormed : reference.WellFormed) :
    Split reference.render reference.path reference.tagged reference.digestPart where
  parts := render_eq reference
  slash := path_ends reference
  last := wellFormed.slash_not_mem_tagged
  undigested := by
    rw [List.mem_append, not_or]
    exact ⟨wellFormed.at_not_mem_path, wellFormed.at_not_mem_tagged⟩
  at_sign := by
    rw [digestPart]
    cases reference.digest with
    | none => exact .inl rfl
    | some digest => exact .inr ⟨digest, rfl⟩

/-- The tag that is read off a reference is its tag, unless that is empty. -/
theorem tagChars?_render (wellFormed : reference.WellFormed) :
    tagChars? reference.render = reference.tag.filter (· ≠ []) := by
  rw [tagChars?, wellFormed.split_render.lastSegment_beforeDigest, tagged]
  cases reference.tag with
  | none =>
    rw [Option.map_none, Option.getD_none, List.append_nil, Text.cut_eq_none_iff.2 wellFormed.name.2.2]
    rfl
  | some tag =>
    rw [Option.map_some, Option.getD_some, Text.cut_append tag wellFormed.name.2.2]
    cases tag <;> rfl

end WellFormed

end Reference

/-- The tag that is read off the text of a well-formed reference is its tag, if it has one and that is not empty, and
    none otherwise, whatever the port, the path and the digest are. So the image is floating if the reference has no
    tag, an empty one, or `latest`, and not otherwise. -/
theorem tag_of_reference {reference : Reference} (wellFormed : reference.WellFormed) :
    tag? (String.ofList reference.render) = (reference.tag.filter (· ≠ [])).map String.ofList ∧
    (isFloating (String.ofList reference.render) = true ↔
      reference.tag = none ∨ reference.tag = some [] ∨ reference.tag = some "latest".toList) := by
  have read : tag? (String.ofList reference.render) = (reference.tag.filter (· ≠ [])).map String.ofList := by
    rw [tag?, String.toList_ofList, wellFormed.tagChars?_render]
  refine ⟨read, ?_⟩
  rw [isFloating, read]
  cases reference.tag with
  | none => exact iff_of_true rfl (.inl rfl)
  | some tag =>
    cases tag with
    | nil => exact iff_of_true rfl (.inr (.inl rfl))
    | cons c rest =>
      show (String.ofList (c :: rest) == "latest") = true ↔ _
      simp [String.ext_iff]

/-- A reference with a port, a colon in its path, and a digest that looks like a path with a tag. -/
def digested (tag : Option (List Char)) : Reference where
  registry := some "localhost:5000".toList
  segments := ["team:a".toList]
  name := "app".toList
  tag
  digest := some "sha256:0/x:latest@1".toList

/-- References with a port, colons in the path, and a digest with colons of its own. -/
theorem tag_of_reference_digested :
    tag? "localhost:5000/team:a/app:v2@sha256:0/x:latest@1" = some "v2" ∧
      isFloating "localhost:5000/team:a/app:@sha256:0/x:latest@1" = true := by
  have wellFormed (tag : List Char) (h : '/' ∉ tag ∧ '@' ∉ tag) : (digested (some tag)).WellFormed :=
    { registry := fun _ given => Option.some.inj given ▸ by decide
      segments := fun _ listed => List.mem_singleton.1 listed ▸ by decide
      name := show '/' ∉ "app".toList ∧ '@' ∉ "app".toList ∧ ':' ∉ "app".toList by decide
      tag := fun _ given => Option.some.inj given ▸ h }
  exact ⟨(tag_of_reference (wellFormed "v2".toList (by decide))).1,
    (tag_of_reference (wellFormed [] (by decide))).2.2 (.inr (.inl rfl))⟩

end NodeImages.Image
