import Mathlib.Tactic.SplitIfs
import NodeImages.Proofs.Settings

/-!
# Numbers and their digits

A setting that is a number may be given as a number, or as a text with its decimal digits; so may a span of time that is
a number of seconds. The two forms are taken in different ways. A number is held against the ends of the range. Digits
are put together one after the other, and what has been put together must not leave the range on the way; and what is no
number of seconds may still be a span of time in words.

* `IntegerKind.digits_eq_ok_iff`: digits are read as their number, if it is not too large;
* `IntegerKind.parse_toString`: so the digits of a number are read as the number, if the range holds it;
* `Duration.parse_toString_ne`: without a unit they are no span of time in words;
* `Setting.number_as_digits`: in either form a number is taken for itself if it is in the range, and refused if not.
-/

namespace NodeImages

open Json

/-! ## Decimal digits -/

/-- A natural number is written in its decimal digits. -/
theorem toList_toString_natCast (n : Nat) : (toString (n : Int)).toList = Nat.toDigits 10 n := by
  rw [Int.toString_eq_repr, Int.repr_eq_if, if_pos (Int.natCast_nonneg n), Int.toNat_natCast, Nat.toList_repr]

/-- A number below zero is written with a minus in front of its digits. -/
theorem toList_toString_negSucc (n : Nat) : (toString (Int.negSucc n)).toList = '-' :: Nat.toDigits 10 (n + 1) := by
  rw [Int.toString_eq_repr, Int.repr, String.toList_append, Nat.toList_repr]
  rfl

theorem isDigit_of_mem_toDigits (n : Nat) : ∀ c ∈ Nat.toDigits 10 n, c.isDigit = true :=
  fun _ => Nat.isDigit_of_mem_toDigits (by decide) (by decide)

/-- More digits do not make a number smaller. -/
theorem le_ofDigitChars (value : Nat) (text : List Char) : value ≤ Nat.ofDigitChars 10 text value := by
  rw [Nat.ofDigitChars_eq_ofDigitChars_zero]
  exact Nat.le_add_right_of_le (Nat.le_mul_of_pos_left _ (Nat.pow_pos (by decide)))

/-- A number that is written has no references in it. -/
theorem dollar_notMem_toString (n : Int) : '$' ∉ (toString n).toList := by
  have plain (n : Nat) : '$' ∉ Nat.toDigits 10 n := fun listed =>
    absurd (isDigit_of_mem_toDigits n '$' listed) (by decide)
  cases n with
  | ofNat n => exact toList_toString_natCast n ▸ plain n
  | negSucc n =>
    rw [toList_toString_negSucc, List.mem_cons, not_or]
    exact ⟨by decide, plain (n + 1)⟩

/-! ## Digits in a range -/

namespace IntegerKind

variable {kind : IntegerKind} {m : Int} {text : List Char}

/-- Digits that are read on from a value are read as the number that they make of it, unless it is too large. -/
theorem digits_eq_ok_iff (low : kind.low ≤ 0) (value : Nat) (high : value ≤ kind.high)
    (decimal : ∀ c ∈ text, c.isDigit = true) :
    kind.digits 1 value text = .ok m ↔
      m = Nat.ofDigitChars 10 text value ∧ (Nat.ofDigitChars 10 text value : Int) ≤ kind.high := by
  induction text generalizing value with
  | nil =>
    rw [digits, Nat.ofDigitChars_nil, and_iff_left high, Except.ok.injEq, eq_comm]
  | cons c rest ih =>
    obtain ⟨digit, decimal⟩ := List.forall_mem_cons.1 decimal
    have next : (value : Int) * 10 + 1 * (c.toNat - '0'.toNat : Nat) = (10 * value + (c.toNat - '0'.toNat) : Nat) := by
      omega
    rw [digits, if_pos digit, Nat.ofDigitChars_cons]
    simp only [next]
    rw [if_neg (by omega)]
    split_ifs with large
    · -- What comes after the digit that makes the number too large does not make it smaller.
      have least := le_ofDigitChars (10 * value + (c.toNat - '0'.toNat)) rest
      refine iff_of_false (fun taken => ?_) fun h => ?_
      · cases taken
      · omega
    · exact ih _ (Int.not_lt.1 large) decimal

/-- Digits have no sign in front of them. -/
theorem parseAny_eq_digits (some : text ≠ []) (decimal : ∀ c ∈ text, c.isDigit = true) :
    kind.parseAny text = kind.digits 1 0 text := by
  cases text with
  | nil => exact absurd rfl some
  | cons c rest =>
    have digit := decimal c List.mem_cons_self
    have plus : c ≠ '+' := fun h => absurd (h ▸ digit) (by decide)
    have minus : c ≠ '-' := fun h => absurd (h ▸ digit) (by decide)
    rw [parseAny] <;> simp [plus, minus]

theorem parse_eq_ok_iff {text : String} :
    kind.parse text = .ok m ↔ kind.parseAny text.toList = .ok m ∧ (kind.nonZero = true → m ≠ 0) := by
  unfold parse
  cases kind.parseAny text.toList with
  | error fault => exact iff_of_false nofun fun h => nomatch h.1
  | ok n =>
    simp only [Except.ok.injEq]
    split_ifs with zero
    · refine iff_of_false nofun fun h => ?_
      obtain ⟨rfl, nonZero⟩ := h
      exact nonZero zero.1 zero.2
    · rw [Except.ok.injEq]
      refine ⟨?_, And.left⟩
      rintro rfl
      exact ⟨rfl, fun nonZero absent => zero ⟨nonZero, absent⟩⟩

/-- In a range without negative numbers, what a number is written in is read as the number, if the range holds it. -/
theorem parse_toString (low : kind.low = 0) (high : 0 ≤ kind.high) (n : Int) :
    kind.parse (toString n) = .ok m ↔ m = n ∧ kind.Holds n := by
  rw [parse_eq_ok_iff, Holds, low]
  cases n with
  | ofNat n =>
    have decimal := isDigit_of_mem_toDigits n
    rw [Int.ofNat_eq_natCast, toList_toString_natCast, parseAny_eq_digits Nat.toDigits_ne_nil decimal]
    have read := digits_eq_ok_iff (m := m) (Int.le_of_eq low) 0 high decimal
    rw [Nat.ofDigitChars_ten_toDigits] at read
    refine (and_congr_left fun _ => read).trans ?_
    constructor
    · rintro ⟨⟨rfl, fits⟩, nonZero⟩
      exact ⟨rfl, Int.natCast_nonneg n, fits, nonZero⟩
    · rintro ⟨rfl, -, fits, nonZero⟩
      exact ⟨⟨rfl, fits⟩, nonZero⟩
  | negSucc n =>
    have refused : kind.parseAny ('-' :: Nat.toDigits 10 (n + 1)) = .error .invalidDigit := by
      rw [parseAny, if_neg (by omega)]
      simp
    rw [toList_toString_negSucc, refused]
    exact iff_of_false (fun h => nomatch h.1) fun h => absurd h.2.1 (by omega)

end IntegerKind

/-! ## Digits without a unit -/

namespace Duration

variable {span next : Duration} {number position before : Nat} {text : List Char}

/-- Where only digits follow, no unit comes after them. -/
theorem readFrom_whole_ne (decimal : ∀ c ∈ text, c.isDigit = true) :
    readFrom position before span (.whole number) text ≠ .ok next := by
  induction text generalizing position before span number with
  | nil => exact nofun
  | cons c rest ih =>
    obtain ⟨digit, decimal⟩ := List.forall_mem_cons.1 decimal
    intro read
    obtain ⟨⟨middle, reading⟩, first, read⟩ := bind_eq_ok.1 read
    rw [step, if_pos digit] at first
    obtain ⟨tens, -, first⟩ := bind_eq_ok.1 first
    obtain ⟨sum, -, first⟩ := bind_eq_ok.1 first
    cases first
    exact ih decimal read

/-- What a number is written in is no span of time in words. -/
theorem parse_toString_ne (n : Int) : parse (toString n) ≠ .ok span := by
  intro read
  unfold parse at read
  split_ifs at read
  cases n with
  | ofNat n =>
    have decimal := isDigit_of_mem_toDigits n
    rw [Int.ofNat_eq_natCast, toList_toString_natCast] at read
    cases digits : Nat.toDigits 10 n with
    | nil => exact Nat.toDigits_ne_nil digits
    | cons c rest =>
      rw [digits] at read decimal
      obtain ⟨digit, decimal⟩ := List.forall_mem_cons.1 decimal
      obtain ⟨⟨middle, reading⟩, first, read⟩ := bind_eq_ok.1 read
      rw [step, if_pos digit] at first
      cases first
      exact readFrom_whole_ne decimal read
  | negSucc n =>
    have refused (rest : List Char) : readFrom 0 0 ⟨0, 0⟩ .between ('-' :: rest) = .error (.numberExpected 0) := rfl
    rw [toList_toString_negSucc, refused] at read
    cases read

end Duration

/-! ## Settings in digits -/

namespace Setting

variable {env : Environment} {kind : IntegerKind} {source : Source} {n m : Int} {s : Nat}

theorem expanded_toString (n : Int) : expanded env (toString n) = .ok (toString n) :=
  taken_eq_ok.2 (env.expand_of_notMem (dollar_notMem_toString n))

theorem number_int (low : kind.low = 0) :
    (number kind env).take source (.int n) = .ok m ↔ m = n ∧ kind.Holds n := by
  refine (taken_eq_ok.trans IntegerKind.checkUnsigned_eq_ok_iff).trans (and_congr_right fun _ => and_iff_right_of_imp ?_)
  exact fun holds => low ▸ holds.1

theorem number_toString (low : kind.low = 0) (high : 0 ≤ kind.high) :
    (number kind env).take source (.str (toString n)) = .ok m ↔ m = n ∧ kind.Holds n := by
  have taken : (number kind env).take source (.str (toString n)) = digits kind env (toString n) := rfl
  rw [taken, digits, expanded_toString]
  exact taken_eq_ok.trans (IntegerKind.parse_toString low high n)

theorem seconds_int :
    (seconds env).take source (.int n) = .ok s ↔ (s : Int) = n ∧ IntegerKind.u64.Holds n := by
  have taken : (seconds env).take source (.int n) =
      ((number .u64 env).take source (.int n)).map Int.toNat := rfl
  rw [taken, map_eq_ok]
  constructor
  · rintro ⟨m, number, rfl⟩
    obtain ⟨rfl, holds⟩ := (number_int rfl).1 number
    exact ⟨Int.toNat_of_nonneg holds.1, holds⟩
  · rintro ⟨rfl, holds⟩
    exact ⟨s, (number_int rfl).2 ⟨rfl, holds⟩, Int.toNat_natCast s⟩

/-- Digits that are no number of seconds are no span of time in words either. -/
theorem seconds_toString :
    (seconds env).take source (.str (toString n)) = .ok s ↔ (s : Int) = n ∧ IntegerKind.u64.Holds n := by
  have taken : (seconds env).take source (.str (toString n)) = span env (toString n) := rfl
  have parsed (m : Int) : IntegerKind.u64.parse (toString n) = .ok m ↔ m = n ∧ IntegerKind.u64.Holds n :=
    IntegerKind.parse_toString rfl (by decide) n
  rw [taken, span, expanded_toString]
  simp only [Except.bind]
  cases read : IntegerKind.u64.parse (toString n) with
  | ok m =>
    obtain ⟨rfl, holds⟩ := (parsed m).1 read
    have natural : (m.toNat : Int) = m := Int.toNat_of_nonneg holds.1
    simp only [Except.ok.injEq, and_iff_left holds]
    omega
  | error fault =>
    refine iff_of_false (fun words => ?_) fun h => ?_
    · obtain ⟨span, told, -⟩ := map_eq_ok.1 (taken_eq_ok.1 words)
      exact Duration.parse_toString_ne n told
    · exact nomatch read.symm.trans ((parsed n).2 ⟨rfl, h.2⟩)

/-- A number and its digits mean the same, in a setting whose range has no negative numbers and in a span of time. Either
    the range holds the number, and then both are taken for it, or both are refused. -/
theorem number_as_digits (low : kind.low = 0) (high : 0 ≤ kind.high) (env : Environment) (source : Source) (n : Int) :
    (∀ m, ((number kind env).take source (.int n) = .ok m ↔ m = n ∧ kind.Holds n) ∧
      ((number kind env).take source (.str (toString n)) = .ok m ↔ m = n ∧ kind.Holds n)) ∧
    ∀ s : Nat, ((seconds env).take source (.int n) = .ok s ↔ (s : Int) = n ∧ IntegerKind.u64.Holds n) ∧
      ((seconds env).take source (.str (toString n)) = .ok s ↔ (s : Int) = n ∧ IntegerKind.u64.Holds n) :=
  ⟨fun _ => ⟨number_int low, number_toString low high⟩, fun _ => ⟨seconds_int, seconds_toString⟩⟩

/-- The greatest number of a range is taken from its digits, and zero is refused where it is left out. A number below
    zero is no span of time. -/
theorem number_as_digits_limits :
    (IntegerKind.nonZeroU64.low = 0 ∧ 0 ≤ IntegerKind.nonZeroU64.high) ∧
    (number .nonZeroU64 .empty).take .held (.str "18446744073709551615") = .ok 18446744073709551615 ∧
    (∀ m, (number .nonZeroU64 .empty).take .held (.int 0) ≠ .ok m) ∧
    (∀ m, (number .nonZeroU64 .empty).take .held (.str "0") ≠ .ok m) ∧
    ∀ s, (seconds .empty).take .held (.str "-1") ≠ .ok s := by
  have low : IntegerKind.nonZeroU64.low = 0 := rfl
  have high : 0 ≤ IntegerKind.nonZeroU64.high := by decide
  have greatest := number_as_digits low high .empty .held 18446744073709551615
  have zero := number_as_digits low high .empty .held 0
  have negative := number_as_digits low high .empty .held (-1)
  refine ⟨⟨low, high⟩, ?_, fun m taken => ?_, fun m taken => ?_, fun s taken => ?_⟩
  · exact ((greatest.1 _).2).2 ⟨rfl, by decide, by decide, by decide⟩
  · exact (((zero.1 m).1).1 taken).2.2.2 rfl rfl
  · exact (((zero.1 m).2).1 taken).2.2.2 rfl rfl
  · exact absurd (((negative.2 s).2).1 taken).2.1 (by decide)

end Setting

end NodeImages
