import NodeImages.Cluster.Meta

/-!
# Parts of objects that only have to fit

Much of what an object says about itself is of no use here, but an object is refused if any of it does not
fit. So there is a schema for every part of an object, which gives nothing (`Schema.checked`). This module
has those that are shared: selectors, references, quantities and ports.

Every field of a part may be missing or null, and other members are passed over.
-/

namespace NodeImages.Cluster.Part

open Json

/-- A quantity such as `500m` or `2Gi`. It is not looked into. -/
def quantity : Schema String := .text

/-- Quantities of several resources. -/
def quantities : Schema (Dictionary String) := .dictionary quantity

/-- A list of texts. -/
def textList : Schema (List String) := .list .text

/-- A number of 32 bits, or a text. -/
def integerOrText : Schema Unit :=
  .oneOf "enum IntOrString" fun
    | .int n =>
      some (if -2147483648 ≤ n ∧ n ≤ 2147483647 then .ok ()
        else .error (.wrongValue (shown .held (.int n)) "a 32-bit integer"))
    | .str _ => some (.ok ())
    | _ => none

/-- A part all fields of which are texts. -/
def textsOnly (expected : String) (names : List String) : Schema Unit :=
  .checked expected (FieldSchema.allUnused .text names)

/-- An object of the same namespace, by its name. -/
def localReference : Schema Unit := textsOnly "LocalObjectReference" ["name"]

/-- An object of any kind. -/
def objectReference : Schema Unit :=
  textsOnly "ObjectReference"
    ["apiVersion", "fieldPath", "kind", "name", "namespace", "resourceVersion", "uid"]

/-- A condition on labels. -/
def labelRequirement : Schema Unit :=
  .checked "LabelSelectorRequirement"
    (.unused "values" textList :: FieldSchema.allUnused .text ["key", "operator"])

/-- Conditions on labels. -/
def labelSelector : Schema Unit :=
  .checked "LabelSelector"
    [.unused "matchExpressions" (.list labelRequirement), .unused "matchLabels" texts]

/-- A field of an object. -/
def fieldSelector : Schema Unit := textsOnly "ObjectFieldSelector" ["apiVersion", "fieldPath"]

/-- A resource of a container. -/
def resourceFieldSelector : Schema Unit :=
  textsOnly "ResourceFieldSelector" ["containerName", "divisor", "resource"]

/-- The resources that a container needs, and those that it may use. -/
def resourceRequirements : Schema Unit :=
  .checked "ResourceRequirements"
    [.unused "claims" (.list (textsOnly "ResourceClaim" ["name", "request"])),
      .unused "limits" quantities, .unused "requests" quantities]

/-- What is the case with an object, and since when. -/
def condition (expected : String) (times : List String) : Schema Unit :=
  .checked expected
    (FieldSchema.allUnused Time.schema times ++
      FieldSchema.allUnused .text ["message", "reason", "status", "type"])

end NodeImages.Cluster.Part
