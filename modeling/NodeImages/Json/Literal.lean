import NodeImages.Json.Cursor

/-!
# Strings, numbers and words of a JSON text

Numbers are read as the reader of the cluster's own answers reads them. An integer of at most 64 bits is
exact. Any other number has the significant digits that fit 64 bits, as a double, multiplied or divided
by a power of ten; so its last bits may differ from the nearest double.

* `Cursor.string`: the rest of a string after its opening quote;
* `Cursor.scalar`: a value without parts;
* `Cursor.refuse`: the trouble with a value that is not of the kind that is expected.
-/

namespace NodeImages.Json

namespace Literal

/-- The value of a hexadecimal digit. -/
def hexDigit? (c : Char) : Option Nat :=
  if '0' ≤ c ∧ c ≤ '9' then some (c.toNat - '0'.toNat)
  else if 'a' ≤ c ∧ c ≤ 'f' then some (c.toNat - 'a'.toNat + 10)
  else if 'A' ≤ c ∧ c ≤ 'F' then some (c.toNat - 'A'.toNat + 10)
  else none

/-- Four hexadecimal digits. -/
def hexFour? (a b c d : Char) : Option Nat := do
  let a ← hexDigit? a
  let b ← hexDigit? b
  let c ← hexDigit? c
  let d ← hexDigit? d
  return ((a * 16 + b) * 16 + c) * 16 + d

/-- The character that a short escape stands for. -/
def shortEscape? : Char → Option Char
  | '"' => some '"'
  | '\\' => some '\\'
  | '/' => some '/'
  | 'b' => some '\x08'
  | 'f' => some '\x0c'
  | 'n' => some '\n'
  | 'r' => some '\r'
  | 't' => some '\t'
  | _ => none

/-- The number of bytes of some text. -/
def bytes (text : List Char) : Nat :=
  text.foldl (fun n c => n + c.utf8Size) 0

/-- The trouble with an escape in numbers for which fewer than four characters are left. It takes four bytes;
    `position` counts the bytes before them. -/
def shortEscape (text : List Char) (position : Nat) : Trouble :=
  if 4 ≤ bytes text then ⟨.malformed .invalidEscape, position + 4⟩
  else ⟨.malformed .eofInString, position + bytes text⟩

/-- The rest of a string after its opening quote. `position` counts the bytes before `text`, and `done` are
    the characters that have been read, the last one first. -/
def string (text : List Char) (position : Nat) (done : List Char) : Reading (String × Cursor) :=
  let fault (fault : Fault) (position : Nat) : Reading (String × Cursor) := .error ⟨.malformed fault, position⟩
  match text with
  | [] => fault .eofInString position
  | '"' :: rest => .ok (String.ofList done.reverse, ⟨rest, position + 1⟩)
  | '\\' :: [] => fault .eofInString (position + 1)
  | '\\' :: 'u' :: a :: b :: c :: d :: rest =>
    match hexFour? a b c d with
    | none => fault .invalidEscape (position + 6)
    | some high =>
      if 0xdc00 ≤ high ∧ high ≤ 0xdfff then fault .loneSurrogate (position + 6)
      else if high < 0xd800 ∨ 0xdfff < high then string rest (position + 6) (Char.ofNat high :: done)
      else
        match rest with
        | [] => fault .eofInString (position + 6)
        | '\\' :: [] => fault .eofInString (position + 7)
        | '\\' :: 'u' :: a :: b :: c :: d :: rest =>
          match hexFour? a b c d with
          | none => fault .invalidEscape (position + 12)
          | some low =>
            if 0xdc00 ≤ low ∧ low ≤ 0xdfff then
              string rest (position + 12)
                (Char.ofNat (0x10000 + (high - 0xd800) * 0x400 + (low - 0xdc00)) :: done)
            else fault .loneSurrogate (position + 12)
        | '\\' :: 'u' :: rest => .error (shortEscape rest (position + 8))
        | '\\' :: _ => fault .unexpectedEndOfEscape (position + 8)
        | _ => fault .unexpectedEndOfEscape (position + 7)
  | '\\' :: 'u' :: rest => .error (shortEscape rest (position + 2))
  | '\\' :: c :: rest =>
    match shortEscape? c with
    | some e => string rest (position + 2) (e :: done)
    | none => fault .invalidEscape (position + 2)
  | c :: rest =>
    if c.val < 0x20 then fault .controlCharacter (position + 1)
    else string rest (position + c.utf8Size) (c :: done)

/-- The greatest significand that is kept exact. -/
def maxSignificand : Nat := 18446744073709551615

/-- Digits as far as the significand fits 64 bits: the significand, how many digits were added, and the
    rest. -/
def digits (significand count : Nat) (position : Nat) : List Char → Nat × Nat × Cursor
  | [] => (significand, count, ⟨[], position⟩)
  | c :: rest =>
    if c.isDigit then
      let next := significand * 10 + (c.toNat - '0'.toNat)
      if maxSignificand < next then (significand, count, ⟨c :: rest, position⟩)
      else digits next (count + 1) (position + 1) rest
    else (significand, count, ⟨c :: rest, position⟩)

/-- The number of digits at the front, and what follows them. -/
def skipDigits (count position : Nat) : List Char → Nat × Cursor
  | [] => (count, ⟨[], position⟩)
  | c :: rest =>
    if c.isDigit then skipDigits (count + 1) (position + 1) rest else (count, ⟨c :: rest, position⟩)

/-- `significand * 10 ^ exponent` in double precision, in steps of at most 308 powers of ten. -/
def scaled (significand : Float) (exponent : Int) : Nat → Option Float
  | 0 => some 0.0
  | fuel + 1 =>
    if exponent.natAbs ≤ 308 then
      let power := Float.ofScientific 1 false exponent.natAbs
      if 0 ≤ exponent then
        let value := significand * power
        if value.isInf then none else some value
      else some (significand / power)
    else if significand == 0.0 then some significand
    else if 0 ≤ exponent then none
    else scaled (significand / Float.ofScientific 1 false 308) (exponent + 308) fuel

/-- The float of a sign, a significand and an exponent of ten, read up to a cursor. -/
def float (positive : Bool) (significand : Nat) (exponent : Int) (cursor : Cursor) : Reading (Json × Cursor) :=
  -- Beyond 700 powers of ten every significand has become zero.
  match scaled (Float.ofNat significand) (max exponent (-1000)) 8 with
  | some value => .ok (.float (if positive then value else -value).toBits, cursor)
  | none => .error (cursor.fault .numberOutOfRange)

/-- How many digits it takes for a number to exceed a bound. -/
def digitsBeyond (bound value count : Nat) : List Char → Nat
  | [] => count
  | c :: rest =>
    let next := value * 10 + (c.toNat - '0'.toNat)
    if bound < next then count + 1 else digitsBeyond bound next (count + 1) rest

/-- The greatest exponent that is counted with. -/
def maxExponent : Nat := 2147483647

/-- The exponent of a number, from its mark on. -/
def exponent (positive : Bool) (significand : Nat) (starting : Int) (cursor : Cursor) : Reading (Json × Cursor) :=
  let cursor := cursor.pastMark
  let (up, cursor) : Bool × Cursor :=
    match cursor.rest with
    | '+' :: _ => (true, cursor.pastMark)
    | '-' :: _ => (false, cursor.pastMark)
    | _ => (true, cursor)
  match cursor.rest with
  | [] => .error (cursor.fault .eofInValue)
  | c :: _ =>
    if c.isDigit then
      let (count, after) := skipDigits 0 cursor.position cursor.rest
      let digits := cursor.rest.take count
      let value := digits.foldl (fun n d => n * 10 + (d.toNat - '0'.toNat)) 0
      if maxExponent < value then
        if significand ≠ 0 ∧ up then
          -- The excess is noticed at the digit that brings it.
          .error ⟨.malformed .numberOutOfRange, cursor.position + digitsBeyond maxExponent 0 0 digits⟩
        else .ok (.float (if positive then (0.0 : Float) else -0.0).toBits, after)
      else float positive significand (if up then starting + value else starting - value) after
    else .error ⟨.malformed .invalidNumber, cursor.position + 1⟩

/-- What follows the digits before the point, from the point on. -/
def fraction (positive : Bool) (significand : Nat) (shift : Int) (cursor : Cursor) : Reading (Json × Cursor) :=
  let (significand, count, after) := digits significand 0 (cursor.position + 1) (cursor.rest.drop 1)
  let (skipped, after) := skipDigits 0 after.position after.rest
  if count + skipped = 0 then
    .error (if after.rest.isEmpty then after.fault .eofInValue else after.faultAhead .invalidNumber)
  else
    match after.rest with
    | 'e' :: _ | 'E' :: _ => exponent positive significand (shift - count) after
    | _ => float positive significand (shift - count) after

/-- A number after its sign. -/
def number (positive : Bool) (cursor : Cursor) : Reading (Json × Cursor) :=
  match cursor.rest with
  | [] => .error (cursor.fault .eofInValue)
  | c :: rest =>
    let startsAnew :=
      match rest with
      | d :: _ => c == '0' && d.isDigit
      | [] => false
    if !c.isDigit then .error (cursor.faultAhead .invalidNumber)
    else if startsAnew then .error (cursor.pastMark.faultAhead .invalidNumber)
    else
      let (significand, _, after) := digits 0 0 cursor.position cursor.rest
      let (skipped, after) := skipDigits 0 after.position after.rest
      match after.rest with
      | '.' :: _ => fraction positive significand skipped after
      | 'e' :: _ | 'E' :: _ => exponent positive significand skipped after
      | _ =>
        if skipped ≠ 0 then float positive significand skipped after
        else if positive then .ok (.int significand, after)
        else if significand = 0 ∨ 0x8000000000000000 < significand then float false significand 0 after
        else .ok (.int (-(significand : Int)), after)

/-- The rest of a word: the letters that must follow. -/
def word (expected : List Char) (cursor : Cursor) : Reading Cursor :=
  match expected with
  | [] => .ok cursor
  | e :: expected =>
    match cursor.rest with
    | [] => .error (cursor.fault .eofInValue)
    | c :: _ =>
      if e = c then word expected cursor.pastMark else .error (cursor.faultAhead .expectedIdent)

end Literal

namespace Cursor

/-- The rest of a string after its opening quote. -/
def string (cursor : Cursor) : Reading (String × Cursor) :=
  Literal.string cursor.rest cursor.position []

/-- A value without parts. -/
def scalar (cursor : Cursor) : Reading (Json × Cursor) :=
  let word (letters : List Char) (value : Json) : Reading (Json × Cursor) :=
    (Literal.word letters cursor.pastMark).map (value, ·)
  match cursor.rest with
  | 'n' :: _ => word ['u', 'l', 'l'] .null
  | 't' :: _ => word ['r', 'u', 'e'] (.bool true)
  | 'f' :: _ => word ['a', 'l', 's', 'e'] (.bool false)
  | '"' :: _ => cursor.pastMark.string.map fun (text, after) => (.str text, after)
  | '-' :: _ => Literal.number false cursor.pastMark
  | [] => .error (cursor.faultAhead .eofInValue)
  | c :: _ =>
    if c.isDigit then Literal.number true cursor else .error (cursor.faultAhead .expectedValue)

/-- The trouble with a value that is not of the kind that is expected. A value without parts is read before
    it is refused, and one with parts is refused where it begins. -/
def refuse {α : Type} (cursor : Cursor) (expected : String) : Reading α := do
  match cursor.rest with
  | '[' :: _ => throw (cursor.misfit (.ofType .held (.arr []) expected))
  | '\x7b' :: _ => throw (cursor.misfit (.ofType .held (.obj []) expected))
  | _ =>
    let (value, after) ← cursor.scalar
    throw (after.misfit (.ofType .held value expected))

/-- The place after `null`, if that is what stands here. -/
def pastNull? (cursor : Cursor) : Reading (Option Cursor) := do
  let cursor := cursor.pastBlanks
  match cursor.rest with
  | 'n' :: _ => return some (← cursor.scalar).2
  | _ => return none

end Cursor

end NodeImages.Json
