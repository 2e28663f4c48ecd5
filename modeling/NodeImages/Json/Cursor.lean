import NodeImages.Json.Misfit

/-!
# Places in a JSON text

A text is read from the front. A cursor says what is left of it and how many bytes have been read, and what
goes wrong goes wrong at a number of bytes (`Trouble`), from which the line and the column follow
(`TextFault`). The text may be wrong in itself (`Fault`), or what it says may not fit (`Misfit`).
-/

namespace NodeImages.Json

/-- What is wrong with a JSON text. -/
inductive Fault
  | eofInValue | eofInList | eofInObject | eofInString
  | expectedColon | expectedListCommaOrEnd | expectedObjectCommaOrEnd | expectedIdent
  | expectedValue | invalidEscape | invalidNumber | numberOutOfRange | controlCharacter
  | keyMustBeString | loneSurrogate | trailingComma | trailingCharacters | unexpectedEndOfEscape
  | tooDeep
  deriving DecidableEq, Repr

namespace Fault

/-- The words for a fault. -/
def words : Fault → String
  | eofInValue => "EOF while parsing a value"
  | eofInList => "EOF while parsing a list"
  | eofInObject => "EOF while parsing an object"
  | eofInString => "EOF while parsing a string"
  | expectedColon => "expected `:`"
  | expectedListCommaOrEnd => "expected `,` or `]`"
  | expectedObjectCommaOrEnd => "expected `,` or `\x7d`"
  | expectedIdent => "expected ident"
  | expectedValue => "expected value"
  | invalidEscape => "invalid escape"
  | invalidNumber => "invalid number"
  | numberOutOfRange => "number out of range"
  | controlCharacter => "control character (\\u0000-\\u001F) found while parsing a string"
  | keyMustBeString => "key must be a string"
  | loneSurrogate => "lone leading surrogate in hex escape"
  | trailingComma => "trailing comma"
  | trailingCharacters => "trailing characters"
  | unexpectedEndOfEscape => "unexpected end of hex escape"
  | tooDeep => "recursion limit exceeded"

/-- Whether the text merely stops too early. -/
def isEof : Fault → Bool
  | eofInValue | eofInList | eofInObject | eofInString => true
  | _ => false

end Fault

/-- Why a text cannot be read. -/
inductive Cause
  /-- It is no JSON text. -/
  | malformed (fault : Fault)
  /-- What it says does not fit. -/
  | misfit (misfit : Misfit)
  deriving DecidableEq, Repr

namespace Cause

/-- The words for a cause. -/
def words : Cause → String
  | .malformed fault => fault.words
  | .misfit unfit => unfit.message

/-- Whether the text merely stops too early. -/
def isEof : Cause → Bool
  | .malformed fault => fault.isEof
  | .misfit _ => false

end Cause

/-- A cause, and the number of bytes up to the place where it is noticed. -/
structure Trouble where
  cause : Cause
  position : Nat
  deriving DecidableEq, Repr

/-- A cause, and the line and the column at which it is noticed, both counted from one. -/
structure TextFault where
  cause : Cause
  line : Nat
  column : Nat
  deriving DecidableEq, Repr

/-- The words for a fault of a text. -/
def TextFault.message (fault : TextFault) : String :=
  s!"{fault.cause.words} at line {fault.line} column {fault.column}"

/-- The line and the column of the byte before a position: the lines are counted from one, and the
    column is the number of bytes of the line up to the position. -/
def lineAndColumn (text : List Char) (position : Nat) : Nat × Nat :=
  let step := fun ((line, column, passed) : Nat × Nat × Nat) (c : Char) =>
    if position ≤ passed then (line, column, passed)
    else if c = '\n' then (line + 1, 0, passed + 1)
    else (line, column + min c.utf8Size (position - passed), passed + c.utf8Size)
  let (line, column, _) := text.foldl step (1, 0, 0)
  (line, column)

/-- The trouble with a text, with its line and column. -/
def Trouble.inText (trouble : Trouble) (text : String) : TextFault :=
  let (line, column) := lineAndColumn text.toList trouble.position
  ⟨trouble.cause, line, column⟩

/-- What is left of a text, and the number of bytes before it. -/
structure Cursor where
  rest : List Char
  position : Nat
  deriving Repr

/-- What comes of reading: a result, as a rule with the place after it, or trouble. -/
abbrev Reading := Except Trouble

namespace Cursor

/-- The start of a text. -/
def ofText (text : String) : Cursor := ⟨text.toList, 0⟩

/-- Whether a character separates tokens. -/
def isSpace (c : Char) : Bool :=
  c == ' ' || c == '\n' || c == '\t' || c == '\r'

/-- The place after the blanks. -/
def pastBlanks (cursor : Cursor) : Cursor :=
  let blanks := cursor.rest.takeWhile isSpace
  ⟨cursor.rest.dropWhile isSpace, cursor.position + blanks.length⟩

/-- The place after a mark of one byte. -/
def pastMark (cursor : Cursor) : Cursor :=
  ⟨cursor.rest.drop 1, cursor.position + 1⟩

/-- A fault that is noticed after what has been read. -/
def fault (cursor : Cursor) (fault : Fault) : Trouble :=
  ⟨.malformed fault, cursor.position⟩

/-- A fault that is noticed at the next byte. -/
def faultAhead (cursor : Cursor) (fault : Fault) : Trouble :=
  ⟨.malformed fault, if cursor.rest.isEmpty then cursor.position else cursor.position + 1⟩

/-- A misfit of what has been read. -/
def misfit (cursor : Cursor) (misfit : Misfit) : Trouble :=
  ⟨.misfit misfit, cursor.position⟩

/-- How far the end of an array is looked for when its items do not fit. -/
def pastArray (cursor : Cursor) : Cursor :=
  let cursor := cursor.pastBlanks
  match cursor.rest with
  | ']' :: _ => cursor.pastMark
  | ',' :: _ => cursor.pastMark.pastBlanks
  | _ => cursor

/-- The place after the end of an array, all items of which have been read. -/
def endArray (cursor : Cursor) : Reading Cursor :=
  let cursor := cursor.pastBlanks
  match cursor.rest with
  | [] => .error (cursor.faultAhead .eofInList)
  | ']' :: _ => .ok cursor.pastMark
  | ',' :: _ =>
    let cursor := cursor.pastMark.pastBlanks
    match cursor.rest with
    | ']' :: _ => .error (cursor.faultAhead .trailingComma)
    | _ => .error (cursor.faultAhead .trailingCharacters)
  | _ => .error (cursor.faultAhead .trailingCharacters)

/-- How far the end of an object is looked for when its members do not fit. -/
def pastObject (cursor : Cursor) : Cursor :=
  let cursor := cursor.pastBlanks
  match cursor.rest with
  | '\x7d' :: _ => cursor.pastMark
  | _ => cursor

/-- The place after the end of an object, all members of which have been read. -/
def endObject (cursor : Cursor) : Reading Cursor :=
  let cursor := cursor.pastBlanks
  match cursor.rest with
  | [] => .error (cursor.faultAhead .eofInObject)
  | '\x7d' :: _ => .ok cursor.pastMark
  | ',' :: _ => .error (cursor.faultAhead .trailingComma)
  | _ => .error (cursor.faultAhead .trailingCharacters)

/-- Whether another item follows in an array, and the place where it begins. -/
def nextItem (cursor : Cursor) (isFirst : Bool) : Reading (Bool × Cursor) :=
  let cursor := cursor.pastBlanks
  match cursor.rest with
  | [] => .error (cursor.faultAhead .eofInList)
  | ']' :: _ => .ok (false, cursor)
  | c :: _ =>
    if isFirst then .ok (true, cursor)
    else if c = ',' then
      let cursor := cursor.pastMark.pastBlanks
      match cursor.rest with
      | [] => .error (cursor.faultAhead .eofInValue)
      | ']' :: _ => .error (cursor.faultAhead .trailingComma)
      | _ => .ok (true, cursor)
    else .error (cursor.faultAhead .expectedListCommaOrEnd)

/-- Whether another member follows in an object, and the place after the opening quote of its name. -/
def nextMember (cursor : Cursor) (isFirst : Bool) : Reading (Bool × Cursor) :=
  let cursor := cursor.pastBlanks
  match cursor.rest with
  | [] => .error (cursor.faultAhead .eofInObject)
  | '\x7d' :: _ => .ok (false, cursor)
  | c :: _ =>
    if isFirst then
      if c = '"' then .ok (true, cursor.pastMark) else .error (cursor.faultAhead .keyMustBeString)
    else if c = ',' then
      let cursor := cursor.pastMark.pastBlanks
      match cursor.rest with
      | [] => .error (cursor.faultAhead .eofInValue)
      | '"' :: _ => .ok (true, cursor.pastMark)
      | '\x7d' :: _ => .error (cursor.faultAhead .trailingComma)
      | _ => .error (cursor.faultAhead .keyMustBeString)
    else .error (cursor.faultAhead .expectedObjectCommaOrEnd)

/-- The place after the colon between a name and a value. -/
def pastColon (cursor : Cursor) : Reading Cursor :=
  let cursor := cursor.pastBlanks
  match cursor.rest with
  | [] => .error (cursor.faultAhead .eofInObject)
  | ':' :: _ => .ok cursor.pastMark
  | _ => .error (cursor.faultAhead .expectedColon)

/-- The depth inside of an array or an object, of the depth that is left outside of it. -/
def enter (cursor : Cursor) (depth : Nat) : Reading Nat :=
  if depth ≤ 1 then .error (cursor.faultAhead .tooDeep) else .ok (depth - 1)

/-- Reads an array, at the opening mark of which the cursor stands. What is read inside of it need not fit,
    and then the place up to which it has been read matters. -/
def inArray {α : Type} (cursor : Cursor) (depth : Nat)
    (visit : Nat → Cursor → Reading (Except Misfit α × Cursor)) : Reading (α × Cursor) := do
  let depth ← cursor.enter depth
  match ← visit depth cursor.pastMark with
  | (.ok value, cursor) => return (value, ← cursor.endArray)
  | (.error misfit, cursor) => throw (cursor.pastArray.misfit misfit)

/-- Reads an object, at the opening mark of which the cursor stands. -/
def inObject {α : Type} (cursor : Cursor) (depth : Nat)
    (visit : Nat → Cursor → Reading (Except Misfit α × Cursor)) : Reading (α × Cursor) := do
  let depth ← cursor.enter depth
  match ← visit depth cursor.pastMark with
  | (.ok value, cursor) => return (value, ← cursor.endObject)
  | (.error misfit, cursor) => throw (cursor.pastObject.misfit misfit)

end Cursor

end NodeImages.Json
