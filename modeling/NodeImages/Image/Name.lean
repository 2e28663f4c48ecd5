import NodeImages.Text.Cut

/-!
# Names of images

An image may be listed under a short name or under a qualified one. `Image.normalized` gives the qualified
name: a name without a slash belongs to the library of the default registry, and a name whose first segment is
no registry belongs to the default registry.
-/

namespace NodeImages.Image

/-- Whether the first segment of a name is a registry. -/
def isRegistry (segment : List Char) : Bool :=
  segment.contains '.' || segment.contains ':' || segment == "localhost".toList

/-- The qualified name of an image. -/
def normalizedChars (image : List Char) : List Char :=
  match Text.cut '/' image with
  | some (first, _) => if isRegistry first then image else "docker.io/".toList ++ image
  | none => "docker.io/library/".toList ++ image

/-- The qualified name of an image. -/
def normalized (image : String) : String :=
  String.ofList (normalizedChars image.toList)

/-- Whether two names are names of one image. -/
def sameImage (a b : String) : Bool :=
  a == b || normalized a == normalized b

end NodeImages.Image
