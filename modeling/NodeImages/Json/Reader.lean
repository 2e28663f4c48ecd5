import NodeImages.Json.Literal

/-!
# JSON texts, read

A text is read from the front, value by value. Arrays and objects may be nested up to a limit.

* `Cursor.value`: a value with all its members, in their order;
* `Json.readText`: what a whole text gives;
* `Json.parse`: the value of a text as a program holds it, its objects canonical.
-/

namespace NodeImages.Json

/-- How deep arrays and objects may be nested. -/
def depthLimit : Nat := 128

namespace Cursor

/-- The items of an array, up to its end. Every item takes a character, so the length of the text bounds
    their number. -/
def itemsUpTo {α : Type} (fuel : Nat) (item : Cursor → Reading (α × Cursor)) (isFirst : Bool)
    (done : List α) (cursor : Cursor) : Reading (List α × Cursor) :=
  match fuel with
  | 0 => .ok (done.reverse, cursor)
  | fuel + 1 => do
    let (more, cursor) ← cursor.nextItem isFirst
    if !more then return (done.reverse, cursor)
    let (first, cursor) ← item cursor
    itemsUpTo fuel item false (first :: done) cursor

/-- The items of an array, from its opening mark on. -/
def items {α : Type} (cursor : Cursor) (item : Cursor → Reading (α × Cursor)) :
    Reading (List α × Cursor) :=
  cursor.itemsUpTo (cursor.rest.length + 1) item true []

/-- The members of an object, up to its end. -/
def membersUpTo {α : Type} (fuel : Nat) (member : Cursor → Reading (α × Cursor)) (isFirst : Bool)
    (done : List (String × α)) (cursor : Cursor) : Reading (List (String × α) × Cursor) :=
  match fuel with
  | 0 => .ok (done.reverse, cursor)
  | fuel + 1 => do
    let (more, cursor) ← cursor.nextMember isFirst
    if !more then return (done.reverse, cursor)
    let (name, cursor) ← cursor.string
    let (value, cursor) ← member (← cursor.pastColon)
    membersUpTo fuel member false ((name, value) :: done) cursor

/-- The members of an object, from its opening mark on. -/
def members {α : Type} (cursor : Cursor) (member : Cursor → Reading (α × Cursor)) :
    Reading (List (String × α) × Cursor) :=
  cursor.membersUpTo (cursor.rest.length + 1) member true []

/-- A value at a place that leaves a depth for arrays and objects. -/
def value (depth : Nat) (cursor : Cursor) : Reading (Json × Cursor) :=
  match depth with
  | 0 => .error (cursor.faultAhead .tooDeep)
  | depth + 1 => do
    let cursor := cursor.pastBlanks
    match cursor.rest with
    | '[' :: _ =>
      let _ ← cursor.enter (depth + 1)
      let (items, cursor) ← cursor.pastMark.items (value depth)
      return (.arr items, ← cursor.endArray)
    | '\x7b' :: _ =>
      let _ ← cursor.enter (depth + 1)
      let (members, cursor) ← cursor.pastMark.members (value depth)
      return (.obj members, ← cursor.endObject)
    | _ => cursor.scalar

end Cursor

/-- What a whole text gives: nothing but blanks may follow what has been read. -/
def readText {α : Type} (read : Nat → Cursor → Reading (α × Cursor)) (text : String) :
    Except TextFault α :=
  match read depthLimit (.ofText text) with
  | .error trouble => .error (trouble.inText text)
  | .ok (value, cursor) =>
    let cursor := cursor.pastBlanks
    if cursor.rest.isEmpty then .ok value
    else .error ((cursor.faultAhead .trailingCharacters).inText text)

/-- Reads a text as a value with canonical objects. -/
def parse (text : String) : Except TextFault Json :=
  (readText Cursor.value text).map canonical

end NodeImages.Json
