import NodeImages.Json.Literal

/-!
# Values that are passed over

A value that nobody asks for is passed over without being built. Less is asked of it than of a value that is
read: it may be nested as deep as it likes, its numbers may be as great as they like, and the escapes of its
strings need not make characters.

The arrays and objects that are open stand on a stack, so that a step never depends on what is inside of
another.
-/

namespace NodeImages.Json

namespace Passing

/-- The rest of a string after its opening quote. -/
def string (text : List Char) (position : Nat) : Reading Cursor :=
  let fault (fault : Fault) (position : Nat) : Reading Cursor := .error ⟨.malformed fault, position⟩
  match text with
  | [] => fault .eofInString position
  | '"' :: rest => .ok ⟨rest, position + 1⟩
  | '\\' :: [] => fault .eofInString (position + 1)
  | '\\' :: 'u' :: a :: b :: c :: d :: rest =>
    match Literal.hexFour? a b c d with
    | some _ => string rest (position + 6)
    | none => fault .invalidEscape (position + 6)
  | '\\' :: 'u' :: rest => .error (Literal.shortEscape rest (position + 2))
  | '\\' :: c :: rest =>
    match Literal.shortEscape? c with
    | some _ => string rest (position + 2)
    | none => fault .invalidEscape (position + 2)
  | c :: rest =>
    if c.val < 0x20 then fault .controlCharacter position else string rest (position + c.utf8Size)

/-- The place after the digits that stand here. -/
def pastDigits (cursor : Cursor) : Cursor :=
  (Literal.skipDigits 0 cursor.position cursor.rest).2

/-- The rest of a number from the mark of its exponent on. -/
def exponent (cursor : Cursor) : Reading Cursor :=
  let cursor := cursor.pastMark
  let cursor :=
    match cursor.rest with
    | '+' :: _ | '-' :: _ => cursor.pastMark
    | _ => cursor
  match cursor.rest with
  | c :: _ =>
    if c.isDigit then .ok (pastDigits cursor) else .error (cursor.faultAhead .invalidNumber)
  | [] => .error (cursor.fault .invalidNumber)

/-- The rest of a number from its point on. -/
def fraction (cursor : Cursor) : Reading Cursor :=
  let start := cursor.pastMark
  let cursor := pastDigits start
  if cursor.position = start.position then .error (cursor.faultAhead .invalidNumber)
  else
    match cursor.rest with
    | 'e' :: _ | 'E' :: _ => exponent cursor
    | _ => .ok cursor

/-- The rest of a number after its sign. -/
def number (cursor : Cursor) : Reading Cursor :=
  let whole : Reading Cursor :=
    match cursor.rest with
    | '0' :: c :: _ =>
      if c.isDigit then .error (cursor.pastMark.faultAhead .invalidNumber) else .ok cursor.pastMark
    | c :: _ =>
      if c.isDigit then .ok (pastDigits cursor) else .error (cursor.faultAhead .invalidNumber)
    | [] => .error (cursor.fault .invalidNumber)
  whole.bind fun cursor =>
    match cursor.rest with
    | '.' :: _ => fraction cursor
    | 'e' :: _ | 'E' :: _ => exponent cursor
    | _ => .ok cursor

/-- An array or an object that is open. -/
inductive Frame
  | array
  | object
  deriving DecidableEq, Repr

/-- The text stops inside of an array or an object. -/
def Frame.eof : Frame → Fault
  | array => .eofInList
  | object => .eofInObject

/-- After an item or a member neither a comma follows nor the end. -/
def Frame.unseparated : Frame → Fault
  | array => .expectedListCommaOrEnd
  | object => .expectedObjectCommaOrEnd

/-- The mark at the end. -/
def Frame.mark : Frame → Char
  | array => ']'
  | object => '\x7d'

/-- What is to be passed over next. -/
inductive Stage
  /-- A value. -/
  | value
  /-- What follows the opening mark of the topmost frame. -/
  | opened
  /-- What follows a part of the topmost frame. -/
  | part
  /-- The name of a member and the colon after it. -/
  | name
  deriving DecidableEq, Repr

/-- The value at a place: it is passed over, or its opening mark is, and then its frame is open. -/
def value (cursor : Cursor) : Reading (Option Frame × Cursor) :=
  let closed (after : Reading Cursor) : Reading (Option Frame × Cursor) := after.map (none, ·)
  match cursor.rest with
  | [] => .error (cursor.faultAhead .eofInValue)
  | '[' :: _ => .ok (some .array, cursor.pastMark)
  | '\x7b' :: _ => .ok (some .object, cursor.pastMark)
  | '"' :: rest => closed (string rest (cursor.position + 1))
  | '-' :: _ => closed (number cursor.pastMark)
  | c :: _ => closed (if c.isDigit then number cursor else cursor.scalar.map (·.2))

/-- The name of a member and the colon after it. -/
def name (cursor : Cursor) : Reading Cursor :=
  match cursor.rest with
  | [] => .error (cursor.faultAhead .eofInObject)
  | '"' :: rest => (string rest (cursor.position + 1)).bind Cursor.pastColon
  | _ => .error (cursor.faultAhead .keyMustBeString)

/-- Passes over what comes, with the frames that are open, the topmost first. Every step but those from stage
    to stage takes a character, so twice the length of the text bounds their number. -/
def run (fuel : Nat) (stage : Stage) (frames : List Frame) (cursor : Cursor) : Reading Cursor :=
  match fuel with
  | 0 => .ok cursor
  | fuel + 1 => do
    let cursor := cursor.pastBlanks
    match stage with
    | .value =>
      match ← value cursor with
      | (some frame, cursor) => run fuel .opened (frame :: frames) cursor
      | (none, cursor) => if frames.isEmpty then return cursor else run fuel .part frames cursor
    | .name => run fuel .value frames (← name cursor)
    | .opened | .part =>
      match frames with
      | [] => return cursor
      | frame :: outer =>
        let next := if frame = .array then Stage.value else .name
        match cursor.rest with
        | [] => throw (cursor.faultAhead frame.eof)
        | c :: _ =>
          if c = frame.mark then
            if outer.isEmpty then return cursor.pastMark else run fuel .part outer cursor.pastMark
          else if stage = .opened then run fuel next frames cursor
          else if c = ',' then run fuel next frames cursor.pastMark
          else throw (cursor.faultAhead frame.unseparated)

end Passing

/-- The place after a value that is passed over. -/
def Cursor.pastValue (cursor : Cursor) : Reading Cursor :=
  Passing.run (2 * cursor.rest.length + 2) .value [] cursor

end NodeImages.Json
