/-!
# Bounded integers

Settings are integers of a fixed range. They are given as numbers or as decimal texts, and either way a
value outside the range is refused, with the same words.

* `IntegerKind.check`: an integer, if the range holds it;
* `IntegerKind.parse`: the integer a decimal text denotes, if the range holds it.
-/

namespace NodeImages

/-- Why an integer is refused. -/
inductive IntegerFault
  | tooLarge
  | tooSmall
  | zero
  | empty
  | invalidDigit
  deriving DecidableEq, Repr

/-- The words for a refusal. -/
def IntegerFault.message : IntegerFault → String
  | tooLarge => "number too large to fit in target type"
  | tooSmall => "number too small to fit in target type"
  | zero => "number would be zero for non-zero type"
  | empty => "cannot parse integer from empty string"
  | invalidDigit => "invalid digit found in string"

/-- A range of integers, which may leave out zero. -/
structure IntegerKind where
  low : Int
  high : Int
  nonZero : Bool
  deriving DecidableEq, Repr

namespace IntegerKind

/-- Eight bits without a sign. -/
def u8 : IntegerKind := ⟨0, 255, false⟩

/-- Sixteen bits without a sign. -/
def u16 : IntegerKind := ⟨0, 65535, false⟩

/-- Thirty-two bits without a sign. -/
def u32 : IntegerKind := ⟨0, 4294967295, false⟩

/-- Sixty-four bits without a sign. -/
def u64 : IntegerKind := ⟨0, 18446744073709551615, false⟩

/-- Eight bits with a sign. -/
def i8 : IntegerKind := ⟨-128, 127, false⟩

/-- Sixty-four bits with a sign. -/
def i64 : IntegerKind := ⟨-9223372036854775808, 9223372036854775807, false⟩

/-- Sixty-four bits without a sign, and not zero. -/
def nonZeroU64 : IntegerKind := { u64 with nonZero := true }

/-- Whether the range holds an integer. -/
def Holds (kind : IntegerKind) (n : Int) : Prop :=
  kind.low ≤ n ∧ n ≤ kind.high ∧ (kind.nonZero = true → n ≠ 0)

/-- The integer, if the range holds it. -/
def check (kind : IntegerKind) (n : Int) : Except IntegerFault Int :=
  if n < kind.low then .error .tooSmall
  else if kind.high < n then .error .tooLarge
  else if kind.nonZero ∧ n = 0 then .error .zero
  else .ok n

/-- A number that a setting may have: only those without a sign are taken, also for a range that holds
    negative ones. -/
def checkUnsigned (kind : IntegerKind) (n : Int) : Except IntegerFault Int :=
  if n < 0 then .error .tooSmall else kind.check n

/-- Digits from the left, each added to what is read so far; the sum moves away from zero in the
    direction of `sign` and must not leave the range. -/
def digits (kind : IntegerKind) (sign : Int) (value : Int) : List Char → Except IntegerFault Int
  | [] => .ok value
  | c :: rest =>
    if c.isDigit then
      let next := value * 10 + sign * (c.toNat - '0'.toNat : Nat)
      if next < kind.low then .error .tooSmall
      else if kind.high < next then .error .tooLarge
      else digits kind sign next rest
    else .error .invalidDigit

/-- The integer of a decimal text before zero is looked at. A plus may stand in front of any number, a
    minus only where the range holds negative ones; a sign alone is no number. -/
def parseAny (kind : IntegerKind) (text : List Char) : Except IntegerFault Int :=
  match text with
  | [] => .error .empty
  | ['+'] | ['-'] => .error .invalidDigit
  | '+' :: rest => kind.digits 1 0 rest
  | '-' :: rest => if kind.low < 0 then kind.digits (-1) 0 rest else .error .invalidDigit
  | text => kind.digits 1 0 text

/-- The integer that a decimal text denotes, if the range holds it. -/
def parse (kind : IntegerKind) (text : String) : Except IntegerFault Int :=
  match kind.parseAny text.toList with
  | .ok n => if kind.nonZero ∧ n = 0 then .error .zero else .ok n
  | .error fault => .error fault

/-- A check passes exactly the numbers of the kind, and passes them as they are. -/
theorem check_eq_ok_iff {kind : IntegerKind} {n m : Int} :
    kind.check n = .ok m ↔ m = n ∧ kind.Holds n := by
  unfold check Holds
  split
  · simp; omega
  · split
    · simp; omega
    · split
      · rename_i h
        simp [h.1, h.2]
      · rename_i h₁ h₂ h
        simp only [Except.ok.injEq]
        constructor
        · rintro rfl
          exact ⟨rfl, by omega, by omega, fun hz h0 => h ⟨hz, h0⟩⟩
        · rintro ⟨rfl, -⟩
          rfl

end IntegerKind

end NodeImages
