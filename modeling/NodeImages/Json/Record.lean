import NodeImages.Json.Passing
import NodeImages.Json.Schema

/-!
# Schemas of records

A record is written as an object with a member for every field, and in some forms also as an array with the
values of the fields in their order (`Form`). It is put together field by field, in the order in which the
members come (`Schema.record`); which fields are missing shows at the end.
-/

namespace NodeImages.Json

/-- When a field may be missing. -/
inductive Presence
  | needed
  /-- An object may lack it, but an array may not. -/
  | optional
  /-- It may be missing; then it has a value of its own. -/
  | defaulted
  deriving DecidableEq, Repr

/-- A field of a record that is put together in a draft of type `σ`. -/
structure FieldSchema (σ : Type) where
  name : String
  presence : Presence
  /-- How the value of the field stands in JSON, and what it does to the draft. -/
  schema : Schema (σ → Except Misfit σ)

namespace FieldSchema

variable {α σ : Type}

/-- A field whose value is put into the draft. -/
def of (presence : Presence) (name : String) (schema : Schema α) (set : α → σ → σ) : FieldSchema σ :=
  ⟨name, presence, schema.map fun value draft => .ok (set value draft)⟩

/-- A field that must not be missing. -/
def needed (name : String) (schema : Schema α) (set : α → σ → σ) : FieldSchema σ :=
  of .needed name schema set

/-- A field that may be null. -/
def optional (name : String) (schema : Schema α) (set : Option α → σ → σ) : FieldSchema σ :=
  of .optional name schema.optional set

/-- A field that keeps its value when it is missing. -/
def defaulted (name : String) (schema : Schema α) (set : α → σ → σ) : FieldSchema σ :=
  of .defaulted name schema set

/-- A field that may be null and of which only that it fits matters. -/
def unused (name : String) (schema : Schema α) : FieldSchema σ :=
  optional name schema fun _ draft => draft

/-- Fields of one kind that may be null and of which only that they fit matters. -/
def allUnused (schema : Schema α) (names : List String) : List (FieldSchema σ) :=
  names.map (unused · schema)

/-- A field with a text that must be the given one, if it is there. -/
def constant (name value : String) : FieldSchema σ where
  name
  presence := .optional
  schema := Schema.text.map fun given draft =>
    if given = value then .ok draft
    else .error (.wrongValue (shown .held (.str given)) value)

end FieldSchema

/-- How a record is written, and what becomes of members that are no fields or that come again. -/
inductive Form
  /-- As an object. Other members are passed over, and of several of one name the last one counts. -/
  | lenient
  /-- As an object or an array. Other members are passed over, and none may come again. -/
  | plain
  /-- As an object or an array. Other members are refused, and none may come again. -/
  | closed
  /-- As an object. Other members are gathered, and no field may come again. -/
  | gathering
  deriving DecidableEq, Repr

/-- Whether a record may be written as an array. -/
def Form.hasArrays : Form → Bool
  | plain | closed => true
  | lenient | gathering => false

/-- A record that is being put together. -/
structure Draft (σ : Type) where
  value : σ
  /-- The names of the fields that have been there. -/
  seen : List String := []
  /-- The members that have been gathered, the last one first. -/
  others : List (String × Json) := []

namespace Draft

variable {σ : Type}

/-- The draft after a field has been there. -/
def give (draft : Draft σ) (name : String) (value : σ) : Draft σ :=
  { draft with value, seen := name :: draft.seen }

/-- The draft after a member has been gathered. -/
def gather (draft : Draft σ) (name : String) (value : Json) : Draft σ :=
  { draft with others := (name, value) :: draft.others }

end Draft

/-- Where the value of a member goes. -/
inductive Place (σ : Type)
  | field (field : FieldSchema σ)
  | others
  | nowhere

/-- The schema of a record. -/
structure RecordSchema (σ : Type) where
  form : Form
  /-- The words for what is expected. -/
  expected : String
  /-- The record before any field has been there. -/
  start : σ
  fields : List (FieldSchema σ)
  /-- What becomes of the members that have been gathered. -/
  conclude : List (String × Json) → σ → Except Misfit σ := fun _ value => .ok value

namespace RecordSchema

variable {σ : Type}

/-- Where the value of a member goes, or why the member is refused. -/
def place (schema : RecordSchema σ) (seen : List String) (name : String) : Except Misfit (Place σ) :=
  match schema.fields.find? (·.name == name) with
  | some field =>
    if schema.form ≠ .lenient ∧ name ∈ seen then .error (.duplicateField name) else .ok (.field field)
  | none =>
    match schema.form with
    | .closed => .error (.unknownField name (schema.fields.map (·.name)))
    | .gathering => .ok .others
    | .lenient | .plain => .ok .nowhere

/-- The record of a draft to which nothing is added. The first needed field that is missing is reported. -/
def finish (schema : RecordSchema σ) (draft : Draft σ) : Except Misfit σ :=
  match schema.fields.find? fun field => field.presence = .needed ∧ field.name ∉ draft.seen with
  | some field => .error (.missingField field.name)
  | none => schema.conclude draft.others.reverse draft.value

/-- An array has too few items for the fields. -/
def tooShort (schema : RecordSchema σ) (length : Nat) : Misfit :=
  .wrongLength length
    (schema.expected ++ " with " ++ Misfit.counted schema.fields.length "element")

/-- An array has more items than there are fields. -/
def tooLong (schema : RecordSchema σ) (source : Source) (length : Nat) : Misfit :=
  .wrongLength length
    (if source = .laidAside then Misfit.counted schema.fields.length "element" ++ " in sequence"
     else "fewer elements in array")

/-! ## Reading from a text -/

/-- The members of an object. Every member takes a character, so the length of the text bounds their
    number. -/
def readMembers (schema : RecordSchema σ) (depth fuel : Nat) (isFirst : Bool) (draft : Draft σ)
    (cursor : Cursor) : Reading (Except Misfit (Draft σ) × Cursor) :=
  match fuel with
  | 0 => .ok (.ok draft, cursor)
  | fuel + 1 => do
    let (more, cursor) ← cursor.nextMember isFirst
    if !more then return (.ok draft, cursor)
    let (name, cursor) ← cursor.string
    match schema.place draft.seen name with
    | .error misfit => return (.error misfit, cursor)
    | .ok .nowhere =>
      let cursor ← (← cursor.pastColon).pastValue
      schema.readMembers depth fuel false draft cursor
    | .ok .others =>
      let (value, cursor) ← (← cursor.pastColon).value depth
      schema.readMembers depth fuel false (draft.gather name value) cursor
    | .ok (.field field) =>
      let (set, cursor) ← field.schema.read depth (← cursor.pastColon)
      match set draft.value with
      | .error misfit => return (.error misfit, cursor)
      | .ok value => schema.readMembers depth fuel false (draft.give name value) cursor

/-- The items of an array, which are the values of the fields in their order. -/
def readItems (schema : RecordSchema σ) (depth index : Nat) (value : σ) (cursor : Cursor) :
    List (FieldSchema σ) → Reading (Except Misfit σ × Cursor)
  | [] => .ok (.ok value, cursor)
  | field :: fields => do
    let (more, cursor) ← cursor.nextItem (index == 0)
    if more then
      let (set, cursor) ← field.schema.read depth cursor
      match set value with
      | .error misfit => return (.error misfit, cursor)
      | .ok value => schema.readItems depth (index + 1) value cursor fields
    else if field.presence = .defaulted then schema.readItems depth (index + 1) value cursor fields
    else return (.error (schema.tooShort index), cursor)

/-- Reads a record. -/
def read (schema : RecordSchema σ) (depth : Nat) (cursor : Cursor) : Reading (σ × Cursor) :=
  let cursor := cursor.pastBlanks
  match cursor.rest with
  | '\x7b' :: _ => cursor.inObject depth fun depth cursor => do
    let (draft, cursor) ←
      schema.readMembers depth (cursor.rest.length + 1) true { value := schema.start } cursor
    return (draft.bind schema.finish, cursor)
  | '[' :: _ =>
    if schema.form = .gathering then cursor.refuse schema.expected
    else cursor.inArray depth fun depth cursor =>
      if schema.form.hasArrays then schema.readItems depth 0 schema.start cursor schema.fields
      else .ok (.error (.ofType .held (.arr []) schema.expected), cursor)
  | _ => cursor.refuse schema.expected

/-! ## Taking a value -/

/-- The members of an object. -/
def takeMembers (schema : RecordSchema σ) (source : Source) (draft : Draft σ) :
    List (String × Json) → Except Misfit (Draft σ)
  | [] => .ok draft
  | (name, value) :: rest =>
    match schema.place draft.seen name with
    | .error misfit => .error misfit
    | .ok .nowhere => schema.takeMembers source draft rest
    | .ok .others => schema.takeMembers source (draft.gather name value) rest
    | .ok (.field field) =>
      match (field.schema.take source value).bind (· draft.value) with
      | .error misfit => .error misfit
      | .ok value => schema.takeMembers source (draft.give name value) rest

/-- The items of an array, which are the values of the fields in their order. The number of items that are left
    over is given too. -/
def takeItems (schema : RecordSchema σ) (source : Source) (index : Nat) (value : σ) :
    List (FieldSchema σ) → List Json → Except Misfit (σ × Nat)
  | [], items => .ok (value, items.length)
  | field :: fields, [] =>
    if field.presence = .defaulted then schema.takeItems source (index + 1) value fields []
    else .error (schema.tooShort index)
  | field :: fields, item :: items =>
    match (field.schema.take source item).bind (· value) with
    | .error misfit => .error misfit
    | .ok value => schema.takeItems source (index + 1) value fields items

/-- Takes a value for a record. -/
def take (schema : RecordSchema σ) (source : Source) (value : Json) : Except Misfit σ :=
  match value with
  | .obj members => (schema.takeMembers source { value := schema.start } members).bind schema.finish
  | .torn members reason =>
    (schema.takeMembers source { value := schema.start } members).bind fun _ => .error (.refused reason)
  | .arr items =>
    if schema.form.hasArrays then
      match schema.takeItems source 0 schema.start schema.fields items with
      | .error misfit => .error misfit
      | .ok (value, left) =>
        if left = 0 ∨ source = .relaxed then .ok value
        else .error (schema.tooLong source items.length)
    else .error (.ofType source value schema.expected)
  | value => .error (.ofType source value schema.expected)

end RecordSchema

namespace Schema

variable {σ : Type}

/-- A record. -/
def record (schema : RecordSchema σ) : Schema σ := ⟨schema.read, schema.take⟩

/-- A record of which only that it fits matters. -/
def checked (expected : String) (fields : List (FieldSchema Unit)) : Schema Unit :=
  record { form := .lenient, expected, start := (), fields }

end Schema

end NodeImages.Json
