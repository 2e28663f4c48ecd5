import NodeImages.Text.Characters
import NodeImages.Text.Quoted

/-!
# Spans of time as texts

A span is written as a sum of numbers with units, as in `2h 30m` or `1.5day`. Blanks may stand anywhere
but inside a unit. A number may have a fraction, which has to be a whole number of nanoseconds in a unit of
up to a minute, and a whole number of seconds in a greater one; a fraction of the least unit is refused.
-/

namespace NodeImages

/-- A span of time: whole seconds and nanoseconds. -/
structure Duration where
  seconds : Nat
  nanoseconds : Nat
  deriving DecidableEq, Repr, Inhabited

namespace Duration

/-- Why a text is no span of time. Places are counted in bytes. -/
inductive ParseFault
  | empty
  | invalidCharacter (position : Nat)
  | numberExpected (position : Nat)
  | unitMissing (value : Nat)
  | unknownUnit (unit : String)
  | overflow
  deriving DecidableEq, Repr

/-- The words for a fault. -/
def ParseFault.message : ParseFault → String
  | empty => "value was empty"
  | invalidCharacter position => s!"invalid character at {position}"
  | numberExpected position => s!"expected number at {position}"
  | unitMissing value => s!"time unit needed, for example {value}sec or {value}ms"
  | unknownUnit unit =>
    "unknown time unit " ++ Text.quoted unit ++
      ", supported units: ns, us/µs, ms, sec, min, hours, days, weeks, months, years " ++
      "(and few variations)"
  | overflow =>
    "number is too large or cannot be represented without a lack of precision " ++
      "(values below 1ns are not supported)"

/-- What a number is counted in. -/
inductive TimeUnit
  | nanosecond
  | microsecond
  | millisecond
  | second
  | minute
  | hour
  | day
  | week
  | month
  | year
  deriving DecidableEq, Repr

/-- The names of a unit. -/
def TimeUnit.names : TimeUnit → List String
  | nanosecond => ["nanos", "nsec", "ns"]
  | microsecond => ["usec", "us", "µs"]
  | millisecond => ["millis", "msec", "ms"]
  | second => ["seconds", "second", "secs", "sec", "s"]
  | minute => ["minutes", "minute", "min", "mins", "m"]
  | hour => ["hours", "hour", "hrs", "hr", "h"]
  | day => ["days", "day", "d"]
  | week => ["weeks", "week", "wks", "wk", "w"]
  | month => ["months", "month", "M"]
  | year => ["years", "year", "yrs", "yr", "y"]

/-- All units. -/
def TimeUnit.all : List TimeUnit :=
  [nanosecond, microsecond, millisecond, second, minute, hour, day, week, month, year]

/-- The unit of a given name. -/
def TimeUnit.ofName? (name : String) : Option TimeUnit :=
  all.find? fun unit => unit.names.contains name

/-- The nanoseconds of a unit below the second, the seconds of any other. A month is a twelfth of a
    year of 365.25 days. -/
def TimeUnit.size : TimeUnit → Nat
  | nanosecond => 1
  | microsecond => 1000
  | millisecond => 1000000
  | second => 1
  | minute => 60
  | hour => 3600
  | day => 86400
  | week => 604800
  | month => 2630016
  | year => 31557600

/-- Whether a unit is counted in nanoseconds. -/
def TimeUnit.belowSecond : TimeUnit → Bool
  | nanosecond | microsecond | millisecond => true
  | _ => false

/-- Whether the fraction of a unit is counted in nanoseconds. -/
def TimeUnit.fractionBelowSecond : TimeUnit → Bool
  | nanosecond | microsecond | millisecond | second | minute => true
  | _ => false

/-- The greatest number that is counted with. -/
def maxCount : Nat := 18446744073709551615

/-- A count, if it is not too large. -/
def counted (n : Nat) : Except ParseFault Nat :=
  if n ≤ maxCount then .ok n else .error .overflow

/-- Adds seconds and nanoseconds. -/
def plus (span : Duration) (seconds nanoseconds : Nat) : Except ParseFault Duration := do
  let nanos ← counted (span.nanoseconds + nanoseconds)
  let total ← counted (span.seconds + seconds + nanos / 1000000000)
  return ⟨total, nanos % 1000000000⟩

/-- A fraction, as numerator and denominator. -/
abbrev Fraction := Nat × Nat

/-- A fraction of a unit of a given size, if it is a whole number. -/
def portion (fraction : Fraction) (size : Nat) : Except ParseFault Nat := do
  let scaled ← counted (fraction.1 * size)
  if scaled % fraction.2 = 0 then return scaled / fraction.2 else .error .overflow

/-- Adds a number with its fraction in a unit. -/
def addNumber (span : Duration) (number : Nat) (fraction : Option Fraction) (unit : TimeUnit) :
    Except ParseFault Duration := do
  let whole ← counted (number * unit.size)
  let span ← if unit.belowSecond then span.plus 0 whole else span.plus whole 0
  match fraction with
  | none => return span
  | some fraction =>
    if unit = .nanosecond then .error .overflow
    else if unit.fractionBelowSecond then do
      let size := if unit.belowSecond then unit.size else unit.size * 1000000000
      span.plus 0 (← portion fraction size)
    else span.plus (← portion fraction unit.size) 0

/-- What is being read. -/
inductive Reading
  /-- Blanks, up to the first digit of a number. -/
  | between
  /-- The digits before the point. -/
  | whole (number : Nat)
  /-- The digits after the point. -/
  | fractional (number : Nat) (fraction : Fraction)
  /-- The letters of a unit, the last one first. -/
  | unit (number : Nat) (fraction : Option Fraction) (letters : List Char)

/-- Whether a character may be part of a unit. -/
def isUnitChar (c : Char) : Bool :=
  ('a' ≤ c && c ≤ 'z') || ('A' ≤ c && c ≤ 'Z') || c == 'µ'

/-- The value of a digit. -/
def digitValue (c : Char) : Nat := c.toNat - '0'.toNat

/-- A number with its unit is complete. -/
def finish (span : Duration) (number : Nat) (fraction : Option Fraction) (letters : List Char) :
    Except ParseFault Duration :=
  let name := String.ofList letters.reverse
  match TimeUnit.ofName? name with
  | some unit => span.addNumber number fraction unit
  | none => .error (if letters.isEmpty then .unitMissing number else .unknownUnit name)

/-- One character is read. `position` counts the bytes before it, and `before` those before the character
    in front of it. -/
def step (c : Char) (position before : Nat) (span : Duration) :
    Reading → Except ParseFault (Duration × Reading)
  | .between =>
    if c.isDigit then .ok (span, .whole (digitValue c))
    else if Text.isBlank c then .ok (span, .between)
    else .error (.numberExpected before)
  | .whole number =>
    if c.isDigit then do
      return (span, .whole (← counted ((← counted (number * 10)) + digitValue c)))
    else if Text.isBlank c then .ok (span, .whole number)
    else if isUnitChar c then .ok (span, .unit number none [c])
    else if c = '.' then .ok (span, .fractional number (0, 1))
    else .error (.invalidCharacter position)
  | .fractional number (numerator, denominator) =>
    if c.isDigit then do
      let denominator ← counted (denominator * 10)
      let numerator ← counted (numerator * 10 + digitValue c)
      return (span, .fractional number (numerator, denominator))
    else if Text.isBlank c then .ok (span, .fractional number (numerator, denominator))
    else if isUnitChar c ∧ denominator ≠ 1 then
      .ok (span, .unit number (some (numerator, denominator)) [c])
    else .error (.invalidCharacter before)
  | .unit number fraction letters =>
    if c.isDigit then do
      return (← span.finish number fraction letters, .whole (digitValue c))
    else if Text.isBlank c then do
      return (← span.finish number fraction letters, .between)
    else if isUnitChar c then .ok (span, .unit number fraction (c :: letters))
    else .error (.invalidCharacter position)

/-- Reads on from a state. -/
def readFrom (position before : Nat) (span : Duration) (reading : Reading) :
    List Char → Except ParseFault Duration
  | [] =>
    match reading with
    | .between => .ok span
    | .whole number => span.finish number none []
    | .fractional number (numerator, denominator) =>
      if denominator = 1 then .error (.invalidCharacter before)
      else span.finish number (some (numerator, denominator)) []
    | .unit number fraction letters => span.finish number fraction letters
  | c :: rest => do
    let (span, next) ← step c position before span reading
    let after := position + c.utf8Size
    -- A number is expected where the blanks in front of it begin, and a fraction is faulty at the first
    -- byte that has not been taken up.
    let before :=
      match reading, next with
      | .between, .between => before
      | .whole _, .fractional .. => position
      | _, _ => after
    readFrom after before span next rest

/-- The span of time that a text denotes. -/
def parse (text : String) : Except ParseFault Duration :=
  if text.toList.all Text.isBlank then .error .empty
  else readFrom 0 0 ⟨0, 0⟩ .between text.toList

end Duration

end NodeImages
