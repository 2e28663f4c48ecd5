import NodeImages.Cluster.Time
import NodeImages.Json.Record

/-!
# Metadata of objects

What every object of the cluster has: a name, a namespace, labels, and what the cluster notes about it. Every
field may be missing; null counts as missing, and members that are no fields are passed over.
-/

namespace NodeImages.Cluster

open Json

/-- A point in time. -/
def Time.schema : Schema Time :=
  .textAs "an RFC 3339 formatted date and time string" fun text =>
    (Time.parse text).mapError fun fault => .refused fault.message

/-- Names with texts. -/
def texts : Schema (Dictionary String) := .dictionary .text

/-- An integer of 32 bits with a sign. -/
def int32 : Schema Int := .integer (-2147483648) 2147483647 "i32"

/-- An integer of 64 bits with a sign. -/
def int64 : Schema Int := .integer (-9223372036854775808) 9223372036854775807 "i64"

/-- The owner of an object. -/
structure OwnerReference where
  apiVersion : String := ""
  kind : String := ""
  name : String := ""
  uid : String := ""
  blockOwnerDeletion : Option Bool := none
  controller : Option Bool := none
  deriving DecidableEq, Repr, Inhabited

namespace OwnerReference

/-- How an owner stands in JSON. -/
def schema : Schema OwnerReference := .record {
  form := .lenient
  expected := "OwnerReference"
  start := {}
  fields := [
    .optional "apiVersion" .text fun given owner => { owner with apiVersion := given.getD "" },
    .optional "blockOwnerDeletion" .truth fun given owner => { owner with blockOwnerDeletion := given },
    .optional "controller" .truth fun given owner => { owner with controller := given },
    .optional "kind" .text fun given owner => { owner with kind := given.getD "" },
    .optional "name" .text fun given owner => { owner with name := given.getD "" },
    .optional "uid" .text fun given owner => { owner with uid := given.getD "" }] }

/-- An owner as JSON. -/
def toJson (owner : OwnerReference) : Json :=
  .objOf [("apiVersion", some (.str owner.apiVersion)),
    ("blockOwnerDeletion", owner.blockOwnerDeletion.map .bool),
    ("controller", owner.controller.map .bool), ("kind", some (.str owner.kind)),
    ("name", some (.str owner.name)), ("uid", some (.str owner.uid))]

end OwnerReference

/-- Which fields of an object somebody looks after. -/
structure ManagedFields where
  apiVersion : Option String := none
  fieldsType : Option String := none
  managed : Option Json := none
  manager : Option String := none
  operation : Option String := none
  subresource : Option String := none
  time : Option Time := none
  deriving Repr, Inhabited

namespace ManagedFields

/-- How an entry stands in JSON. -/
def schema : Schema ManagedFields := .record {
  form := .lenient
  expected := "ManagedFieldsEntry"
  start := {}
  fields := [
    .optional "apiVersion" .text fun given entry => { entry with apiVersion := given },
    .optional "fieldsType" .text fun given entry => { entry with fieldsType := given },
    .optional "fieldsV1" .any fun given entry => { entry with managed := given },
    .optional "manager" .text fun given entry => { entry with manager := given },
    .optional "operation" .text fun given entry => { entry with operation := given },
    .optional "subresource" .text fun given entry => { entry with subresource := given },
    .optional "time" Time.schema fun given entry => { entry with time := given }] }

/-- An entry as JSON. -/
def toJson (entry : ManagedFields) : Json :=
  .objOf [("apiVersion", entry.apiVersion.map .str), ("fieldsType", entry.fieldsType.map .str),
    ("fieldsV1", entry.managed), ("manager", entry.manager.map .str),
    ("operation", entry.operation.map .str), ("subresource", entry.subresource.map .str),
    ("time", entry.time.map fun t => .str t.render)]

end ManagedFields

/-- The metadata of an object. -/
structure ObjectMeta where
  annotations : Option (Dictionary String) := none
  creationTime : Option Time := none
  deletionGraceS : Option Int := none
  deletionTime : Option Time := none
  finalizers : Option (List String) := none
  generateName : Option String := none
  generation : Option Int := none
  labels : Option (Dictionary String) := none
  managedFields : Option (List ManagedFields) := none
  name : Option String := none
  /-- The namespace. -/
  space : Option String := none
  owners : Option (List OwnerReference) := none
  version : Option String := none
  selfLink : Option String := none
  uid : Option String := none
  deriving Repr, Inhabited

namespace ObjectMeta

/-- How metadata stand in JSON. -/
def schema : Schema ObjectMeta := .record {
  form := .lenient
  expected := "ObjectMeta"
  start := {}
  fields := [
    .optional "annotations" texts fun given metadata => { metadata with annotations := given },
    .optional "creationTimestamp" Time.schema fun given metadata =>
      { metadata with creationTime := given },
    .optional "deletionGracePeriodSeconds" int64 fun given metadata =>
      { metadata with deletionGraceS := given },
    .optional "deletionTimestamp" Time.schema fun given metadata =>
      { metadata with deletionTime := given },
    .optional "finalizers" (.list .text) fun given metadata => { metadata with finalizers := given },
    .optional "generateName" .text fun given metadata => { metadata with generateName := given },
    .optional "generation" int64 fun given metadata => { metadata with generation := given },
    .optional "labels" texts fun given metadata => { metadata with labels := given },
    .optional "managedFields" (.list ManagedFields.schema) fun given metadata =>
      { metadata with managedFields := given },
    .optional "name" .text fun given metadata => { metadata with name := given },
    .optional "namespace" .text fun given metadata => { metadata with space := given },
    .optional "ownerReferences" (.list OwnerReference.schema) fun given metadata =>
      { metadata with owners := given },
    .optional "resourceVersion" .text fun given metadata => { metadata with version := given },
    .optional "selfLink" .text fun given metadata => { metadata with selfLink := given },
    .optional "uid" .text fun given metadata => { metadata with uid := given }] }

/-- Metadata as JSON. -/
def toJson (metadata : ObjectMeta) : Json :=
  .objOf [("annotations", metadata.annotations.map fun d => .ofDictionary (d.map .str)),
    ("creationTimestamp", metadata.creationTime.map fun t => .str t.render),
    ("deletionGracePeriodSeconds", metadata.deletionGraceS.map .int),
    ("deletionTimestamp", metadata.deletionTime.map fun t => .str t.render),
    ("finalizers", metadata.finalizers.map .strs),
    ("generateName", metadata.generateName.map .str), ("generation", metadata.generation.map .int),
    ("labels", metadata.labels.map fun d => .ofDictionary (d.map .str)),
    ("managedFields", metadata.managedFields.map fun es => .arr (es.map (·.toJson))),
    ("name", metadata.name.map .str), ("namespace", metadata.space.map .str),
    ("ownerReferences", metadata.owners.map fun os => .arr (os.map (·.toJson))),
    ("resourceVersion", metadata.version.map .str), ("selfLink", metadata.selfLink.map .str),
    ("uid", metadata.uid.map .str)]

/-- The name of an object. One that is still to be named goes by the start of its name. -/
def anyName (metadata : ObjectMeta) : String :=
  (metadata.name <|> metadata.generateName).getD ""

/-- The value of a label. -/
def label? (metadata : ObjectMeta) (name : String) : Option String :=
  metadata.labels.bind (·.get? name)

end ObjectMeta

/-- The fields that every object of a kind has, in a draft of which the metadata are a part. What kind of object
    it is must be said right, if it is said. -/
def objectFields {σ : Type} (apiVersion kind : String) (set : ObjectMeta → σ → σ) :
    List (FieldSchema σ) :=
  [.constant "apiVersion" apiVersion, .constant "kind" kind,
    .optional "metadata" ObjectMeta.schema fun given => set (given.getD {})]

end NodeImages.Cluster
