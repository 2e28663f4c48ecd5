import NodeImages.Cluster.Job
import NodeImages.Image.Reference

/-!
# Pulls that were not asked for

An image that is floating is pulled without asking the node whether it has the image, and so is every image under the
policy to pull always. The pull is done by a job, whose container is given a policy of its own: the kubelet looks for
the image on the node once more, unless that policy is to pull always.

* `Image.Split`: a text before its last segment, its last segment, and its digest; every text has these parts;
* `Image.Floats`: its last segment has no tag, an empty one, or `latest`; `Image.isFloating_iff`: that is when an image
  is floating;
* `PullPolicy.needsPull_unasked_iff`: when the node is not asked;
* `unasked_pull_always_iff`: the job for a pull that was not asked for pulls always exactly if that is the policy.

So a floating image that is to be pulled if it is not present (`floating_pull_ifNotPresent`) is not pulled by its job
when the node has it already.
-/

namespace NodeImages

/-- A text cut at the last occurrence of a character. -/
theorem Text.cutLast_eq_some {separator : Char} {text before after : List Char}
    (h : cutLast separator text = some (before, after)) :
    text = before ++ separator :: after ∧ separator ∉ after := by
  induction text generalizing before with
  | nil => exact absurd h.symm (Option.some_ne_none _)
  | cons c rest ih =>
    rw [cutLast] at h
    split at h
    · rename_i parts
      obtain ⟨rfl, rfl⟩ := Prod.mk.inj (Option.some.inj h)
      obtain ⟨rfl, last⟩ := ih parts
      exact ⟨rfl, last⟩
    · rename_i uncut
      obtain ⟨hc, parts⟩ := Option.ite_none_right_eq_some.1 h
      obtain ⟨rfl, rfl⟩ := Prod.mk.inj (Option.some.inj parts)
      exact ⟨congrArg (· :: rest) hc, cutLast_eq_none_iff.1 uncut⟩

namespace Image

/-! ## Floating images -/

/-- The parts of a text that is read as an image: what comes before the last segment, up to a slash, the last
    segment, and the digest. -/
structure Split (image path segment digest : List Char) : Prop where
  parts : image = path ++ segment ++ digest
  slash : path = [] ∨ ∃ front, path = front ++ ['/']
  last : '/' ∉ segment
  undigested : '@' ∉ path ++ segment
  at_sign : digest = [] ∨ ∃ rest, digest = '@' :: rest

variable {image path segment digest : List Char}

/-- A text has such parts, whatever else is to be said of it. -/
theorem exists_split (image : List Char) : ∃ path segment digest, Split image path segment digest := by
  obtain ⟨before, digest, parts, undigested, hdigest⟩ : ∃ before digest, image = before ++ digest ∧ '@' ∉ before ∧
      (digest = [] ∨ ∃ rest, digest = '@' :: rest) := by
    cases h : Text.cut '@' image with
    | none => exact ⟨image, [], (List.append_nil _).symm, Text.cut_eq_none_iff.1 h, .inl rfl⟩
    | some parts =>
      obtain ⟨himage, undigested⟩ := Text.cut_eq_some h
      exact ⟨parts.1, _, himage, undigested, .inr ⟨parts.2, rfl⟩⟩
  cases h : Text.cutLast '/' before with
  | none => exact ⟨[], before, digest, parts, .inl rfl, Text.cutLast_eq_none_iff.1 h, undigested, hdigest⟩
  | some cut =>
    obtain ⟨rfl, last⟩ := Text.cutLast_eq_some h
    have joined : cut.1 ++ '/' :: cut.2 = cut.1 ++ ['/'] ++ cut.2 := by simp
    rw [joined] at parts undigested
    exact ⟨cut.1 ++ ['/'], cut.2, digest, parts, .inr ⟨cut.1, rfl⟩, last, undigested, hdigest⟩

/-- The segment that is looked at for a tag is the last one. -/
theorem Split.lastSegment_beforeDigest (split : Split image path segment digest) :
    lastSegment (beforeDigest image) = segment := by
  obtain ⟨rfl, hpath, hsegment, undigested, hdigest⟩ := split
  have before : beforeDigest (path ++ segment ++ digest) = path ++ segment := by
    rw [beforeDigest]
    rcases hdigest with rfl | ⟨rest, rfl⟩
    · rw [List.append_nil, Text.cut_eq_none_iff.2 undigested]
    · rw [Text.cut_append rest undigested]
  rw [before, lastSegment]
  rcases hpath with rfl | ⟨front, rfl⟩
  · rw [List.nil_append, Text.cutLast_eq_none_iff.2 hsegment]
  · rw [List.append_assoc, List.singleton_append, Text.cutLast_append front hsegment]

theorem Split.isFloating_iff {image : String} (split : Split image.toList path segment digest) :
    isFloating image = true ↔
      ':' ∉ segment ∨
        ∃ name tag, segment = name ++ ':' :: tag ∧ ':' ∉ name ∧ (tag = [] ∨ tag = "latest".toList) := by
  rw [isFloating, tag?, tagChars?, split.lastSegment_beforeDigest]
  cases h : Text.cut ':' segment with
  | none => exact iff_of_true rfl (.inl (Text.cut_eq_none_iff.1 h))
  | some parts =>
    obtain ⟨name, tag⟩ := parts
    obtain ⟨hsegment, unnamed⟩ := Text.cut_eq_some h
    have colon : ¬ ':' ∉ segment := by simp [hsegment]
    -- The segment has one tag only, as the name has no colon.
    have unique :
        (∃ name tag, segment = name ++ ':' :: tag ∧ ':' ∉ name ∧ (tag = [] ∨ tag = "latest".toList)) ↔
          tag = [] ∨ tag = "latest".toList := by
      constructor
      · rintro ⟨name', tag', hsegment', unnamed', floating⟩
        rw [hsegment', Text.cut_append tag' unnamed'] at h
        obtain ⟨rfl, rfl⟩ := Prod.mk.inj (Option.some.inj h)
        exact floating
      · exact fun floating => ⟨name, tag, hsegment, unnamed, floating⟩
    rw [or_iff_right colon, unique]
    cases tag with
    | nil => exact iff_of_true rfl (.inl rfl)
    | cons c rest => simp [String.ext_iff]

/-- The last segment of an image has no tag, an empty one, or `latest`. -/
def Floats (image : List Char) : Prop :=
  ∃ path segment digest, Split image path segment digest ∧
    (':' ∉ segment ∨
      ∃ name tag, segment = name ++ ':' :: tag ∧ ':' ∉ name ∧ (tag = [] ∨ tag = "latest".toList))

theorem isFloating_iff {image : String} : isFloating image = true ↔ Floats image.toList := by
  constructor
  · intro floating
    obtain ⟨path, segment, digest, split⟩ := exists_split image.toList
    exact ⟨path, segment, digest, split, split.isFloating_iff.1 floating⟩
  · rintro ⟨path, segment, digest, split, tag⟩
    exact split.isFloating_iff.2 tag

end Image

/-! ## Decisions -/

theorem PullPolicy.pullsUnasked_iff {policy : PullPolicy} {image : String} :
    policy.pullsUnasked image = true ↔ policy = .always ∨ Image.Floats image.toList := by
  rw [← Image.isFloating_iff]
  cases policy with
  | always => exact iff_of_true rfl (.inl rfl)
  | ifNotPresent => exact (or_iff_right PullPolicy.noConfusion).symm

/-- The node is not asked for an image that is floating, or under the policy to pull always. -/
theorem PullPolicy.needsPull_unasked_iff {policy : PullPolicy} {image : String} {present : Outcome Bool} :
    policy.needsPull image present = (.ok true, false) ↔ policy = .always ∨ Image.Floats image.toList := by
  rw [← pullsUnasked_iff, needsPull]
  split
  · rename_i unasked
    exact iff_of_true rfl unasked
  · rename_i asked
    exact iff_of_false (fun h => Bool.noConfusion (Prod.mk.inj h).2) asked

namespace Cluster

/-! ## Jobs -/

theorem JobPlan.policy_ofConfig {config : Config} {plan : JobPlan} (planned : ofConfig config = .ok plan) :
    plan.policy = config.policy := by
  rw [ofConfig] at planned
  split at planned
  · exact congrArg policy (Except.ok.inj planned).symm
  · exact absurd planned nofun

/-- When it is decided to pull an image without asking the node, either the configured policy is to pull always, or
    the image is floating. The job for the pull then runs one container, of the image. In the first case that container
    pulls always, and so the image is pulled whatever the node has; in the second case it does not, unless the first is
    the case as well. -/
theorem unasked_pull_always_iff {config : Config} {plan : JobPlan} (planned : JobPlan.ofConfig config = .ok plan)
    (request : Work.Request) (present : Outcome Bool)
    (unasked : config.policy.needsPull request.image present = (.ok true, false)) :
    (config.policy = .always ∨ Image.Floats request.image.toList) ∧
    ∃ container : Container, (plan.pull request).podSpec.get? "containers" = some (.arr [container.toJson]) ∧
      container.image = request.image ∧
      (container.toJson.get? "imagePullPolicy" = some (.str "Always") ↔ config.policy = .always) := by
  refine ⟨PullPolicy.needsPull_unasked_iff.1 unasked, plan.puller request, rfl, rfl, ?_⟩
  have written : (plan.puller request).toJson.get? "imagePullPolicy" = some (.str config.policy.name) := by
    rw [← JobPlan.policy_ofConfig planned]
    rfl
  rw [written]
  cases config.policy with
  | always => exact iff_of_true rfl rfl
  | ifNotPresent => simp [PullPolicy.name]

/-- A request for an image of a tag. -/
def nginx (tag : String) : Work.Request := { (default : Work.Request) with image := "nginx:" ++ tag }

theorem unasked_pull_always_tagged :
    PullPolicy.always.needsPull "nginx:1.25" (.ok true) = (.ok true, false) ∧
      ∃ plan, JobPlan.ofConfig { policy := .always } = .ok plan ∧
        ∃ container : Container,
          (plan.pull (nginx "1.25")).podSpec.get? "containers" = some (.arr [container.toJson]) ∧
          container.toJson.get? "imagePullPolicy" = some (.str "Always") := by
  have unasked : PullPolicy.always.needsPull "nginx:1.25" (.ok true) = (.ok true, false) := rfl
  have planned : JobPlan.ofConfig { policy := .always } = .ok _ := rfl
  obtain ⟨-, container, listed, -, always⟩ := unasked_pull_always_iff planned (nginx "1.25") (.ok true) unasked
  exact ⟨unasked, _, planned, container, listed, always.2 rfl⟩

/-- An image of the tag `latest` is pulled without asking the node under the policy to pull what is not present, which
    is the policy of the container as well. -/
theorem floating_pull_ifNotPresent :
    PullPolicy.ifNotPresent.needsPull "nginx:latest" (.ok true) = (.ok true, false) ∧
      ∃ plan, JobPlan.ofConfig {} = .ok plan ∧
        ∃ container : Container,
          (plan.pull (nginx "latest")).podSpec.get? "containers" = some (.arr [container.toJson]) ∧
          container.toJson.get? "imagePullPolicy" = some (.str "IfNotPresent") :=
  ⟨PullPolicy.needsPull_unasked_iff.2 (.inr (Image.isFloating_iff.1 (by decide))), _, rfl, _, rfl, rfl⟩

end Cluster

end NodeImages
