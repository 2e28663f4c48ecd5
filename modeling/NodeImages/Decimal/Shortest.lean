/-!
# The shortest decimal of a float

A positive finite double is `m * 2 ^ q` with natural `m`. All reals of an interval around it round back
to it; the interval has its ends when `m` is even. Among the decimals in that interval those with the
fewest digits are preferred, and of these the one nearest to the value; of two equally near ones one is
taken by a rule (`Tie`).

The digits are found by trying grids of 1, 2, … 17 digits in exact arithmetic. On each grid only the two
neighbours of the value have to be tried: if any point of the grid lies in the interval, one of them does.
-/

namespace NodeImages.Decimal

/-- A positive finite double as `mantissa * 2 ^ exponent`, and whether the double below it is half as
    far away as the one above. -/
structure Binary where
  mantissa : Nat
  exponent : Int
  isPower : Bool

/-- A decimal `digits * 10 ^ exponent`. -/
structure Digits where
  digits : Nat
  exponent : Int
  deriving Repr

/-- Which of two equally near decimals is taken. -/
inductive Tie
  /-- The one with the even last digit. -/
  | toEven
  /-- The greater one. -/
  | up
  deriving DecidableEq, Repr

/-- The parts of a double, by its bits: mantissa and exponent. The sign is left aside. -/
def Binary.ofBits (bits : UInt64) : Binary :=
  let fraction := (bits &&& 0xfffffffffffff).toNat
  let biased := ((bits >>> 52) &&& 0x7ff).toNat
  if biased = 0 then ⟨fraction, -1074, false⟩
  else ⟨fraction + 0x10000000000000, (biased : Int) - 1075, fraction = 0 ∧ biased > 1⟩

/-- A fraction of naturals: numerator and denominator of `n * 2 ^ twos * 10 ^ tens`. -/
def scale (n : Nat) (twos tens : Int) : Nat × Nat :=
  (n * Nat.pow 2 twos.toNat * Nat.pow 10 tens.toNat,
    Nat.pow 2 (-twos).toNat * Nat.pow 10 (-tens).toNat)

/-- Whether the first fraction is less than the second. -/
def less (a b : Nat × Nat) : Bool :=
  a.1 * b.2 < b.1 * a.2

/-- The exponent of ten of the leading digit: the greatest `e` with `10 ^ e ≤ m * 2 ^ q`, searched
    downwards from an upper bound. -/
def leading (b : Binary) : Nat → Int → Int
  | 0, e => e
  | fuel + 1, e => if less (scale b.mantissa b.exponent 0) (scale 1 0 e) then leading b fuel (e - 1) else e

/-- The nearest point to the value on the grid of step `10 ^ e`, if it lies in the interval of the reals
    that round to the value. -/
def onGrid? (tie : Tie) (b : Binary) (e : Int) : Option Nat :=
  let value := scale b.mantissa b.exponent (-e)
  let below := value.1 / value.2
  -- In quarters of the last binary place, the interval runs from `low` to `high`.
  let low := scale (4 * b.mantissa - (if b.isPower then 1 else 2)) (b.exponent - 2) (-e)
  let high := scale (4 * b.mantissa + 2) (b.exponent - 2) (-e)
  let closed := b.mantissa % 2 == 0
  let inside (n : Nat) : Bool :=
    (less low (n, 1) || (closed && !less (n, 1) low)) &&
      (less (n, 1) high || (closed && !less high (n, 1)))
  let twiceRest := 2 * (value.1 - below * value.2)
  let upFirst := value.2 < twiceRest || (value.2 == twiceRest && (tie == .up || below % 2 == 1))
  let first := if upFirst then below + 1 else below
  let second := if upFirst then below else below + 1
  if inside first then some first else if inside second then some second else none

/-- The grids are tried from the coarsest on. -/
def searchGrid (tie : Tie) (b : Binary) (top : Int) : List Nat → Digits
  | [] => ⟨b.mantissa, b.exponent⟩
  | places :: rest =>
    let e := top - places
    match onGrid? tie b e with
    | some n => ⟨n, e⟩
    | none => searchGrid tie b top rest

/-- The fewest digits that read back as the positive finite double of the given bits. -/
def shortest (tie : Tie) (bits : UInt64) : Digits :=
  let b := Binary.ofBits bits
  -- `m * 2 ^ q < 2 ^ (q + 64)`, and 2 ^ 10 is little more than 10 ^ 3.
  let top := leading b 700 ((b.exponent + 64) * 3 / 10 + 20)
  searchGrid tie b top (List.range 18)

/-- The digits of a decimal without trailing zeros. -/
def Digits.trimmed (d : Digits) : Nat → Digits
  | 0 => d
  | fuel + 1 => if d.digits % 10 = 0 ∧ d.digits ≠ 0 then Digits.trimmed ⟨d.digits / 10, d.exponent + 1⟩ fuel else d

/-- Whether the bits are those of a NaN. -/
def isNaN (bits : UInt64) : Bool :=
  (bits &&& 0x7fffffffffffffff) > 0x7ff0000000000000

/-- Whether the bits are those of an infinity. -/
def isInfinite (bits : UInt64) : Bool :=
  (bits &&& 0x7fffffffffffffff) == 0x7ff0000000000000

/-- Whether the bits are those of a zero. -/
def isZero (bits : UInt64) : Bool :=
  (bits &&& 0x7fffffffffffffff) == 0

/-- Whether the sign bit is set. -/
def isNegative (bits : UInt64) : Bool :=
  (bits >>> 63) == 1

/-- The sign of a number that has one. -/
def signOf (bits : UInt64) : String := if isNegative bits then "-" else ""

/-- Digits in positional notation, with at least one digit after the point. -/
def Digits.positional (d : Digits) : String :=
  let digits := Nat.repr d.digits
  if 0 ≤ d.exponent then digits ++ String.ofList (List.replicate d.exponent.toNat '0') ++ ".0"
  else
    let places := (-d.exponent).toNat
    let padded := String.ofList (List.replicate (places + 1 - digits.length) '0') ++ digits
    let whole := padded.length - places
    String.ofList (padded.toList.take whole) ++ "." ++ String.ofList (padded.toList.drop whole)

/-- The exponent of ten of the digit in front. -/
def Digits.leading (d : Digits) : Int := d.exponent + (Nat.repr d.digits).length - 1

/-- Digits in scientific notation. The exponent has a sign and two digits at least. -/
def Digits.scientific (d : Digits) : String :=
  let digits := (Nat.repr d.digits).toList
  let rest := digits.drop 1
  let exponent := Nat.repr d.leading.natAbs
  String.ofList (digits.take 1) ++ (if rest.isEmpty then "" else "." ++ String.ofList rest) ++
    (if d.leading < 0 then "e-" else "e+") ++ (if exponent.length < 2 then "0" else "") ++ exponent

/-- A number in positional notation. -/
def positional (bits : UInt64) : String :=
  if isNaN bits then "NaN"
  else if isInfinite bits then signOf bits ++ "inf"
  else if isZero bits then signOf bits ++ "0.0"
  else signOf bits ++ ((shortest .up bits).trimmed 400).positional

/-- A number as JSON texts have it: positional while the point falls within or near the digits, else
    with an exponent. -/
def scientific (bits : UInt64) : String :=
  if isNaN bits || isInfinite bits then "null"
  else if isZero bits then signOf bits ++ "0.0"
  else
    let d := (shortest .toEven bits).trimmed 400
    signOf bits ++ (if -5 ≤ d.leading ∧ d.leading ≤ 15 then d.positional else d.scientific)

end NodeImages.Decimal
