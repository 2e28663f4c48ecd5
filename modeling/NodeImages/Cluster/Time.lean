import NodeImages.Text.Characters

/-!
# Points in time

Times stand in objects as texts like `2024-05-01T10:00:00+02:00`. A time is kept in universal time and in
whole seconds, and so it is written: the time above as `2024-05-01T08:00:00Z`.
-/

namespace NodeImages.Cluster

/-- A point in universal time, in whole seconds. -/
structure Time where
  year : Int
  month : Nat
  day : Nat
  hour : Nat
  minute : Nat
  second : Nat
  deriving DecidableEq, Repr, Inhabited

/-- Why a text is no time. -/
inductive TimeFault
  | tooShort
  | invalid
  | outOfRange
  | trailing
  | impossible
  deriving DecidableEq, Repr

/-- The words for a fault. -/
def TimeFault.message : TimeFault → String
  | tooShort => "premature end of input"
  | invalid => "input contains invalid characters"
  | outOfRange => "input is out of range"
  | trailing => "trailing input"
  | impossible => "no possible date and time matching input"

namespace Time

/-- Whether a year has a 29th of February. -/
def isLeap (year : Int) : Bool :=
  year % 4 = 0 && (year % 100 ≠ 0 || year % 400 = 0)

/-- The number of days of a month. -/
def daysIn (year : Int) (month : Nat) : Nat :=
  match month with
  | 2 => if isLeap year then 29 else 28
  | 4 | 6 | 9 | 11 => 30
  | _ => 31

/-- The day before, as year, month and day. -/
def dayBefore (year : Int) (month day : Nat) : Int × Nat × Nat :=
  if 1 < day then (year, month, day - 1)
  else if 1 < month then (year, month - 1, daysIn year (month - 1))
  else (year - 1, 12, 31)

/-- The day after, as year, month and day. -/
def dayAfter (year : Int) (month day : Nat) : Int × Nat × Nat :=
  if day < daysIn year month then (year, month, day + 1)
  else if month < 12 then (year, month + 1, 1)
  else (year + 1, 1, 1)

/-- The first year that is counted. -/
def firstYear : Int := -262143

/-- The last year that is counted. -/
def lastYear : Int := 262142

/-- Whether a year is counted. -/
def isCounted (year : Int) : Bool := firstYear ≤ year && year ≤ lastYear

/-- Digits with leading zeros. -/
def padded (width n : Nat) : String :=
  let digits := toString n
  String.ofList (List.replicate (width - digits.length) '0') ++ digits

/-- The text of a year. A year of other than four digits has its sign. -/
def renderYear (year : Int) : String :=
  let digits := padded 4 year.natAbs
  if year < 0 then "-" ++ digits else if 9999 < year then "+" ++ digits else digits

/-- The text of a time. -/
def render (time : Time) : String :=
  renderYear time.year ++ "-" ++ padded 2 time.month ++ "-" ++ padded 2 time.day ++ "T" ++
    padded 2 time.hour ++ ":" ++ padded 2 time.minute ++ ":" ++ padded 2 time.second ++ "Z"

/-- What follows the blanks at the front. -/
def skipBlanks (text : List Char) : List Char := text.dropWhile Text.isBlank

/-- The number that the digits at the front of a text write, one of them at least, and what follows it. -/
def digits (text : List Char) (most : Nat) : Except TimeFault (Nat × List Char) :=
  let taken := (text.take most).takeWhile Char.isDigit
  match taken, text with
  | _, [] => .error .tooShort
  | [], _ => .error .invalid
  | taken, text =>
    .ok (taken.foldl (fun n c => n * 10 + (c.toNat - '0'.toNat)) 0, text.drop taken.length)

/-- A number of one digit or two that lies in a range. Blanks may stand in front of it. -/
def part (low high : Nat) (text : List Char) : Except TimeFault (Nat × List Char) := do
  let (n, rest) ← digits (skipBlanks text) 2
  if n < low ∨ high < n then throw .outOfRange
  return (n, rest)

/-- A year is of four digits at most, unless it has a sign. -/
def yearPart (text : List Char) : Except TimeFault (Int × List Char) := do
  let (year, rest) : Int × List Char ←
    match skipBlanks text with
    | '-' :: rest => do
      let (n, after) ← digits rest rest.length
      pure (-(n : Int), after)
    | '+' :: rest => do
      let (n, after) ← digits rest rest.length
      pure ((n : Int), after)
    | rest => do
      let (n, after) ← digits rest 4
      pure ((n : Int), after)
  if year < -2147483648 ∨ 2147483647 < year then throw .outOfRange
  return (year, rest)

/-- What follows one of the given characters. -/
def after (marks : List Char) : List Char → Except TimeFault (List Char)
  | [] => .error .tooShort
  | c :: rest => if c ∈ marks then .ok rest else .error .invalid

/-- What follows a fraction of a second, if there is one. -/
def afterFraction : List Char → Except TimeFault (List Char)
  | '.' :: rest => do
    let (_, _) ← digits rest 9
    return rest.dropWhile Char.isDigit
  | text => .ok text

/-- A number of exactly two digits, and what follows it. A text of less than two bytes is too short for it. -/
def twoDigits (text : List Char) : Except TimeFault (Nat × List Char) :=
  match text with
  | a :: b :: rest =>
    if a.isDigit ∧ b.isDigit then
      .ok ((a.toNat - '0'.toNat) * 10 + (b.toNat - '0'.toNat), rest)
    else .error .invalid
  | [a] => .error (if a.utf8Size < 2 then .tooShort else .invalid)
  | [] => .error .tooShort

/-- The distance from universal time in minutes, and what follows it. Universal time itself is written with a
    letter or in words. -/
def offset : List Char → Except TimeFault (Int × List Char)
  | [] => .error .tooShort
  | 'Z' :: rest | 'z' :: rest => .ok (0, rest)
  | c :: rest => do
    if (c :: rest.take 2).map Char.toUpper = ['U', 'T', 'C'] then return (0, rest.drop 2)
    if c ∉ ['+', '-', '−'] then throw .invalid
    let (hours, rest) ← twoDigits rest
    let (minutes, rest) ← twoDigits (rest.dropWhile fun c => c = ':' || Text.isBlank c)
    if 60 ≤ minutes then throw .outOfRange
    let distance : Int := hours * 60 + minutes
    return (if c = '+' then distance else -distance, rest)

/-- The time that a text denotes. Its parts may be short of digits, and blanks may stand around them. -/
def parse (text : String) : Except TimeFault Time := do
  let (year, rest) ← yearPart text.toList
  let (month, rest) ← part 1 12 (← after ['-'] (skipBlanks rest))
  let (day, rest) ← part 1 31 (← after ['-'] (skipBlanks rest))
  let (hour, rest) ← part 0 23 (← after ['T', 't', ' '] rest)
  let (minute, rest) ← part 0 59 (← after [':'] (skipBlanks rest))
  let (second, rest) ← part 0 60 (← after [':'] (skipBlanks rest))
  let (distance, rest) ← offset (skipBlanks (← afterFraction rest))
  if !(skipBlanks rest).isEmpty then throw .trailing
  if !isCounted year ∨ daysIn year month < day ∨ 1440 ≤ distance.natAbs then throw .outOfRange
  let minutes : Int := hour * 60 + minute - distance
  let (year, month, day) :=
    if minutes < 0 then dayBefore year month day
    else if 1440 ≤ minutes then dayAfter year month day
    else (year, month, day)
  if !isCounted year then throw .impossible
  let minutes := (minutes % 1440).toNat
  return ⟨year, month, day, minutes / 60, minutes % 60, second⟩

end Time

end NodeImages.Cluster
