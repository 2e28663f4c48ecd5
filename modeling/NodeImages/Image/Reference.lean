import NodeImages.Config.Basic
import NodeImages.Failure
import NodeImages.Text.Cut

/-!
# Image references

An image reference is an optional registry, a path, a name, an optional tag and an optional digest, as in
`registry:5000/team/app:v2@sha256:…` (`Image.Reference`, `Reference.render`). What matters of it is the tag,
which is read off the text directly (`Image.tag?`).

An image is floating when its tag may come to stand for something else: it has no tag, or `latest`. Floating
images are always pulled (`PullPolicy.pullsUnasked`).
-/

namespace NodeImages

namespace Image

/-- An image reference by its parts. -/
structure Reference where
  /-- The host of the registry, as in `registry:5000`. -/
  registry : Option (List Char) := none
  /-- The segments of the path, each followed by a slash. -/
  segments : List (List Char) := []
  name : List Char
  tag : Option (List Char) := none
  digest : Option (List Char) := none
  deriving DecidableEq, Repr

namespace Reference

/-- The text of a reference. -/
def render (reference : Reference) : List Char :=
  (reference.registry.map (· ++ ['/'])).getD [] ++
    (reference.segments.flatMap (· ++ ['/'])) ++ reference.name ++
    (reference.tag.map (':' :: ·)).getD [] ++ (reference.digest.map ('@' :: ·)).getD []

end Reference

/-- The part of a reference before its digest. -/
def beforeDigest (image : List Char) : List Char :=
  match Text.cut '@' image with
  | some (name, _) => name
  | none => image

/-- The part of a text after the last slash. -/
def lastSegment (path : List Char) : List Char :=
  match Text.cutLast '/' path with
  | some (_, segment) => segment
  | none => path

/-- The tag of a reference. An empty tag is none. -/
def tagChars? (image : List Char) : Option (List Char) :=
  match Text.cut ':' (lastSegment (beforeDigest image)) with
  | some (_, tag) => if tag.isEmpty then none else some tag
  | none => none

/-- The tag of a reference. An empty tag is none. -/
def tag? (image : String) : Option String :=
  (tagChars? image.toList).map String.ofList

/-- Whether an image may come to stand for something else. -/
def isFloating (image : String) : Bool :=
  match tag? image with
  | none => true
  | some tag => tag == "latest"

end Image

namespace PullPolicy

/-- Whether an image is pulled without asking the node for it. -/
def pullsUnasked (policy : PullPolicy) (image : String) : Bool :=
  match policy with
  | always => true
  | ifNotPresent => Image.isFloating image

/-- Whether an image has to be pulled, given what the node would answer when asked for it, and whether it is
    asked at all. -/
def needsPull (policy : PullPolicy) (image : String) (present : Outcome Bool) :
    Outcome Bool × Bool :=
  if policy.pullsUnasked image then (.ok true, false) else (present.map (!·), true)

end PullPolicy

end NodeImages
