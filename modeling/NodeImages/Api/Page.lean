import NodeImages.Cluster.Meta

/-!
# Lists of objects

The cluster gives lists of objects page by page. A page says which version of the objects it shows and, unless
it is the last one, how to ask for the next.
-/

namespace NodeImages.Api

open Json Cluster

/-- A page of a list of objects. -/
structure Page (α : Type) where
  items : List α := []
  /-- The version of the objects that the page shows. -/
  version : Option String := none
  /-- How the next page is asked for. -/
  next : Option String := none
  deriving Repr

namespace Page

/-- What a page says of itself, taken up in the page. -/
def metaSchema {α : Type} : Schema (Page α) := .record {
  form := .lenient
  expected := "ListMeta"
  start := {}
  fields := [
    .optional "continue" .text fun next page => { page with next },
    .unused "remainingItemCount" int64,
    .optional "resourceVersion" .text fun version page => { page with version },
    .unused "selfLink" .text] }

/-- How a page stands in JSON. What else it says is gathered, since it may say of what kind the list is. -/
def schema {α : Type} (item : Schema α) : Schema (Page α) := .record {
  form := .gathering
  expected := "struct ObjectList"
  start := {}
  fields := [
    .defaulted "metadata" (@metaSchema α) fun given page =>
      { page with version := given.version, next := given.next },
    .needed "items" (.optional (.list item)) fun items page => { page with items := items.getD [] }] }

end Page

end NodeImages.Api
