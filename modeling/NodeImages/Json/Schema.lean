import NodeImages.Dictionary
import NodeImages.Json.Reader

/-!
# Schemas

A schema says how the values of a type stand in JSON. It reads such a value from a text, or takes it from a
JSON value (`Schema`). Reading from a text stops at the first thing that is wrong, be it the text or what it
says; so a value may turn out not to fit before its text turns out to be malformed.

Schemas are put together from those of single values (`Schema.text`, `Schema.truth`, `Schema.integer`,
`Schema.choice`), of values that may be null (`Schema.optional`), and of lists and dictionaries
(`Schema.list`, `Schema.dictionary`). Records have a module of their own.
-/

namespace NodeImages.Json

/-- How the values of a type stand in JSON. -/
structure Schema (α : Type) where
  /-- Reads a value at a place that leaves a depth for arrays and objects. -/
  read : Nat → Cursor → Reading (α × Cursor)
  /-- Takes a JSON value for a value of the type. -/
  take : Source → Json → Except Misfit α

namespace Schema

variable {α β : Type}

/-- The value of a text. -/
def ofText (schema : Schema α) (text : String) : Except TextFault α :=
  readText schema.read text

/-- The value that a JSON value is taken for. -/
def ofJson (schema : Schema α) (value : Json) : Except Misfit α :=
  schema.take .held value

/-- A function is applied to what a schema gives. -/
def map (f : α → β) (schema : Schema α) : Schema β where
  read depth cursor := (schema.read depth cursor).map fun (value, cursor) => (f value, cursor)
  take source value := (schema.take source value).map f

/-- Any value, its objects canonical. -/
def any : Schema Json where
  read depth cursor := (cursor.value depth).map fun (value, cursor) => (value.canonical, cursor)
  take _ value := .ok value.canonical

/-- A value without parts. What `visit` has no answer to is of another type than is expected. -/
def scalar (expected : String) (visit : Json → Option (Except Misfit α)) : Schema α where
  read _ cursor := do
    let cursor := cursor.pastBlanks
    match cursor.rest with
    | '[' :: _ | '\x7b' :: _ => cursor.refuse expected
    | _ =>
      let (value, cursor) ← cursor.scalar
      match (visit value).getD (.error (.ofType .held value expected)) with
      | .ok result => return (result, cursor)
      | .error misfit => throw (cursor.misfit misfit)
  take source value := (visit value).getD (.error (.ofType source value expected))

/-- A value without parts, of one type or another. Since any type might have been meant, an array or an object
    is opened before it is refused. -/
def oneOf (expected : String) (visit : Json → Option (Except Misfit α)) : Schema α where
  read depth cursor :=
    let cursor := cursor.pastBlanks
    match cursor.rest with
    | '[' :: _ => cursor.inArray depth fun _ cursor =>
      .ok (.error (.ofType .held (.arr []) expected), cursor)
    | '\x7b' :: _ => cursor.inObject depth fun _ cursor =>
      .ok (.error (.ofType .held (.obj []) expected), cursor)
    | _ => (scalar expected visit).read depth cursor
  take := (scalar expected visit).take

/-- A text that something is made of. -/
def textAs (expected : String) (make : String → Except Misfit α) : Schema α :=
  scalar expected fun
    | .str text => some (make text)
    | _ => none

/-- A text. -/
def text : Schema String := textAs "a string" .ok

/-- A truth value. -/
def truth : Schema Bool :=
  scalar "a boolean" fun
    | .bool b => some (.ok b)
    | _ => none

/-- An integer of a range. -/
def integer (low high : Int) (expected : String) : Schema Int :=
  scalar expected fun
    | .int n =>
      some (if low ≤ n ∧ n ≤ high then .ok n else .error (.wrongValue (shown .held (.int n)) expected))
    | _ => none

/-- Nothing at all. An empty object that has been laid aside counts as nothing. -/
def nothing : Schema Unit where
  read depth cursor :=
    (scalar "unit" fun | .null => some (.ok ()) | _ => none).read depth cursor
  take source value :=
    match value, source with
    | .null, _ | .obj [], .laidAside => .ok ()
    | value, source => .error (.ofType source value "unit")

/-- A value that may be null. -/
def optional (schema : Schema α) : Schema (Option α) where
  read depth cursor := do
    match ← cursor.pastNull? with
    | some cursor => return (none, cursor)
    | none =>
      let (value, cursor) ← schema.read depth cursor
      return (some value, cursor)
  take source value :=
    match value with
    | .null => .ok none
    | value => (schema.take source value).map some

/-- A list. -/
def list (schema : Schema α) : Schema (List α) where
  read depth cursor :=
    let cursor := cursor.pastBlanks
    match cursor.rest with
    | '[' :: _ => cursor.inArray depth fun depth cursor => do
      let (items, cursor) ← cursor.items (schema.read depth)
      return (.ok items, cursor)
    | _ => cursor.refuse "a sequence"
  take source value :=
    match value with
    | .arr items => items.mapM (schema.take source)
    | value => .error (.ofType source value "a sequence")

/-- The entries of a dictionary out of members. Of several members of one name the last one counts. -/
def takeEntries (schema : Schema α) (source : Source) (done : Dictionary α) :
    List (String × Json) → Except Misfit (Dictionary α)
  | [] => .ok done
  | (name, value) :: rest =>
    (schema.take source value).bind fun value => takeEntries schema source (done.insert name value) rest

/-- A dictionary. -/
def dictionary (schema : Schema α) : Schema (Dictionary α) where
  read depth cursor :=
    let cursor := cursor.pastBlanks
    match cursor.rest with
    | '\x7b' :: _ => cursor.inObject depth fun depth cursor => do
      let (members, cursor) ← cursor.members (schema.read depth)
      return (.ok (.ofList members), cursor)
    | _ => cursor.refuse "a map"
  take source value :=
    match value with
    | .obj members => takeEntries schema source .empty members
    | .torn members reason =>
      (takeEntries schema source .empty members).bind fun _ => .error (.refused reason)
    | value => .error (.ofType source value "a map")

/-- The value of a given name. -/
def named (all : List α) (name : α → String) (given : String) : Except Misfit α :=
  match all.find? (name · == given) with
  | some value => .ok value
  | none => .error (.unknownVariant given (all.map name))

/-- The only member of an object that gives a choice. -/
def onlyMember (source : Source) (members : List (String × Json)) : Except Misfit (String × Json) :=
  match members, source with
  | [member], _ | member :: _, .relaxed => .ok member
  | [], .relaxed => .error (.refused "expected a nonempty object")
  | _, _ => .error (.wrongValue (shown source (.obj members)) "map with a single key")

/-- One of several values, given by its name, or by an object with its name and null. -/
def choice (all : List α) (name : α → String) : Schema α where
  read depth cursor := do
    let cursor := cursor.pastBlanks
    let variant := textAs "variant identifier" (named all name)
    match cursor.rest with
    | [] => throw (cursor.faultAhead .eofInValue)
    | '"' :: _ => variant.read depth cursor
    | '\x7b' :: _ =>
      let depth ← cursor.enter depth
      let (value, cursor) ← variant.read depth cursor.pastMark
      let ((), cursor) ← nothing.read depth (← cursor.pastColon)
      let cursor := cursor.pastBlanks
      match cursor.rest with
      | [] => throw (cursor.fault .eofInObject)
      | '\x7d' :: _ => return (value, cursor.pastMark)
      | _ => throw (cursor.fault .expectedValue)
    | _ => throw (cursor.faultAhead .expectedValue)
  take source value :=
    let member (given : String × Json) : Except Misfit α :=
      (named all name given.1).bind fun value =>
        (nothing.take source given.2).map fun _ => value
    match value, source with
    | .str given, _ => named all name given
    | .obj members, _ => (onlyMember source members).bind member
    | .torn [] reason, _ => .error (.refused reason)
    | .torn (first :: _) _, _ => member first
    | .unreadable true reason, _ => .error (.refused reason)
    | _, .relaxed => .error (.refused "expected a string or an object")
    | value, _ => .error (.ofType source value "string or map")

end Schema

end NodeImages.Json
