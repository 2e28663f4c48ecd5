import Mathlib.Tactic.SplitIfs
import NodeImages.Config.Setting
import NodeImages.Proofs.Encodings

/-!
# Settings that are accepted

A setting may be given in several ways, and whatever is accepted is in the range of the setting. Written out it is
accepted again, under any environment, since a number has no references in it; of a text this holds if there is no
dollar in it.

* `IntegerKind.parse_holds`, `Duration.parse_seconds_le`: what is read from digits or words is not too large;
* `Setting.natural_holds`, `Setting.seconds_le`, `Setting.optionalText_ne`: so a setting keeps its range;
* `Setting.restores_natural` and the others of its name: and what is written of it is taken for it again.
-/

namespace NodeImages

open Json

/-! ## Digits -/

namespace IntegerKind

variable {kind : IntegerKind} {sign value n m : Int}

/-- Digits that are read within the bounds of a kind give a number within them, as every further digit is checked. -/
theorem digits_le {text : List Char} (low : kind.low ≤ value) (high : value ≤ kind.high)
    (read : kind.digits sign value text = .ok n) : kind.low ≤ n ∧ n ≤ kind.high := by
  induction text generalizing value with
  | nil => exact Except.ok.inj read ▸ ⟨low, high⟩
  | cons c rest ih =>
    simp only [digits] at read
    split_ifs at read with _ small large
    exact ih (Int.not_lt.1 small) (Int.not_lt.1 large) read

/-- A text that is read as a number gives one within the bounds. -/
theorem parseAny_le {text : List Char} (low : kind.low ≤ 0) (high : 0 ≤ kind.high)
    (read : kind.parseAny text = .ok n) : kind.low ≤ n ∧ n ≤ kind.high := by
  unfold parseAny at read
  split at read
  · cases read
  · cases read
  · cases read
  · exact digits_le low high read
  · split_ifs at read
    exact digits_le low high read
  · exact digits_le low high read

/-- What is read from digits is in the range, if zero is between its ends. -/
theorem parse_holds {text : String} (low : kind.low ≤ 0) (high : 0 ≤ kind.high) (read : kind.parse text = .ok n) :
    kind.Holds n := by
  unfold parse at read
  split at read
  · rename_i any
    split_ifs at read with zero
    cases read
    obtain ⟨above, below⟩ := parseAny_le low high any
    exact ⟨above, below, fun nonZero absent => zero ⟨nonZero, absent⟩⟩
  · cases read

theorem checkUnsigned_eq_ok_iff : kind.checkUnsigned n = .ok m ↔ m = n ∧ 0 ≤ n ∧ kind.Holds n := by
  unfold checkUnsigned
  split_ifs with negative
  · exact iff_of_false nofun fun h => Int.not_lt.2 h.2.1 negative
  · rw [check_eq_ok_iff, and_iff_right (Int.not_lt.1 negative)]

end IntegerKind

/-! ## Spans of time -/

namespace Duration

variable {span next : Duration} {number : Nat} {fraction : Option Fraction} {letters : List Char}

/-- A count is accepted as it is if it is not too great. -/
theorem counted_eq_ok_iff {n m : Nat} : counted n = .ok m ↔ m = n ∧ n ≤ maxCount := by
  unfold counted
  split_ifs with fits
  · exact ⟨fun h => ⟨(Except.ok.inj h).symm, fits⟩, fun h => congrArg _ h.1.symm⟩
  · exact iff_of_false nofun fun h => fits h.2

/-- A sum of spans that is accepted has a count of seconds. -/
theorem plus_seconds_le {seconds nanoseconds : Nat} (added : span.plus seconds nanoseconds = .ok next) :
    next.seconds ≤ maxCount := by
  obtain ⟨nanos, -, added⟩ := bind_eq_ok.1 added
  obtain ⟨total, fits, added⟩ := bind_eq_ok.1 added
  obtain ⟨rfl, least⟩ := counted_eq_ok_iff.1 fits
  exact Except.ok.inj added ▸ least

/-- So has a span with one more number. -/
theorem addNumber_seconds_le {unit : TimeUnit} (added : span.addNumber number fraction unit = .ok next) :
    next.seconds ≤ maxCount := by
  obtain ⟨whole, -, added⟩ := bind_eq_ok.1 added
  cases fraction with
  | none =>
    simp only at added
    split_ifs at added
    all_goals
      obtain ⟨sum, first, added⟩ := bind_eq_ok.1 added
      exact Except.ok.inj added ▸ plus_seconds_le first
  | some fraction =>
    simp only at added
    split_ifs at added
    all_goals
      obtain ⟨sum, -, added⟩ := bind_eq_ok.1 added
      -- Of the least unit there is no fraction.
      first
        | cases added
        | obtain ⟨part, -, added⟩ := bind_eq_ok.1 added
          exact plus_seconds_le added

/-- So has one whose last number has come to its end. -/
theorem finish_seconds_le (finished : span.finish number fraction letters = .ok next) : next.seconds ≤ maxCount := by
  simp only [finish] at finished
  split at finished
  · exact addNumber_seconds_le finished
  · cases finished

/-- A character leaves the span as it is, unless it comes after a unit. -/
theorem step_cases {c : Char} {position before : Nat} {reading reading' : Reading}
    (read : step c position before span reading = .ok (next, reading')) :
    next = span ∨ ∃ number fraction letters, span.finish number fraction letters = .ok next := by
  cases reading with
  | between =>
    rw [step] at read
    split_ifs at read
    all_goals
      cases read
      exact .inl rfl
  | whole number =>
    rw [step] at read
    split_ifs at read
    · obtain ⟨tens, -, read⟩ := bind_eq_ok.1 read
      obtain ⟨sum, -, read⟩ := bind_eq_ok.1 read
      cases read
      exact .inl rfl
    all_goals
      cases read
      exact .inl rfl
  | fractional number fraction =>
    rw [step] at read
    split_ifs at read
    · obtain ⟨denominator, -, read⟩ := bind_eq_ok.1 read
      obtain ⟨numerator, -, read⟩ := bind_eq_ok.1 read
      cases read
      exact .inl rfl
    all_goals
      cases read
      exact .inl rfl
  | unit number fraction letters =>
    rw [step] at read
    split_ifs at read
    · obtain ⟨sum, finished, read⟩ := bind_eq_ok.1 read
      cases read
      exact .inr ⟨_, _, _, finished⟩
    · obtain ⟨sum, finished, read⟩ := bind_eq_ok.1 read
      cases read
      exact .inr ⟨_, _, _, finished⟩
    · cases read
      exact .inl rfl

/-- A span that has been read has a count of seconds, whatever has been read before. -/
theorem readFrom_seconds_le {position before : Nat} {reading : Reading} {text : List Char}
    (start : span.seconds ≤ maxCount) (read : readFrom position before span reading text = .ok next) :
    next.seconds ≤ maxCount := by
  induction text generalizing position before span reading with
  | nil =>
    cases reading with
    | between => exact Except.ok.inj read ▸ start
    | whole number =>
      rw [readFrom] at read
      exact finish_seconds_le read
    | fractional number fraction =>
      rw [readFrom] at read
      split_ifs at read
      exact finish_seconds_le read
    | unit number fraction letters =>
      rw [readFrom] at read
      exact finish_seconds_le read
  | cons c rest ih =>
    obtain ⟨⟨middle, reading'⟩, first, read⟩ := bind_eq_ok.1 read
    refine ih ?_ read
    obtain rfl | ⟨_, _, _, finished⟩ := step_cases first
    · exact start
    · exact finish_seconds_le finished

/-- A span of time that is read has no more seconds than are counted with. -/
theorem parse_seconds_le {text : String} (read : parse text = .ok span) : span.seconds ≤ maxCount := by
  unfold parse at read
  split_ifs at read
  exact readFrom_seconds_le (Nat.zero_le _) read

end Duration

/-! ## Texts without references -/

namespace Environment

theorem expandChars_cons {env : Environment} {c : Char} {rest : List Char} (h : c ≠ '$') :
    env.expandChars (c :: rest) = (env.expandChars rest).map (c :: ·) := by
  rw [expandChars]
  · rfl
  all_goals simp [h]

/-- A text without a dollar sign is not expanded, whatever the environment is. -/
theorem expandChars_of_notMem (env : Environment) {text : List Char} (plain : '$' ∉ text) :
    env.expandChars text = .ok text := by
  induction text with
  | nil => rw [expandChars]
  | cons c rest ih =>
    obtain ⟨apart, plain⟩ := not_or.1 (mt List.mem_cons.2 plain)
    rw [expandChars_cons (Ne.symm apart), ih plain]
    rfl

theorem expand_of_notMem (env : Environment) {text : String} (plain : '$' ∉ text.toList) :
    env.expand text = .ok text := by
  rw [expand, expandChars_of_notMem env plain]
  exact congrArg _ String.ofList_toList

end Environment

namespace Setting

variable {env : Environment} {kind : IntegerKind} {source : Source} {value : Json}

/-- A result is accepted for a setting if it is one. -/
theorem taken_eq_ok {α ε : Type} {words : ε → String} {result : Except ε α} {a : α} :
    taken words result = .ok a ↔ result = .ok a := by
  cases result with
  | error fault => exact iff_of_false nofun nofun
  | ok b => exact ⟨fun h => congrArg _ (Except.ok.inj h), fun h => congrArg _ (Except.ok.inj h)⟩

/-! ## What is accepted -/

/-- The number of a setting is one of its kind, whatever it was given as. -/
theorem number_holds {n : Int} (low : kind.low ≤ 0) (high : 0 ≤ kind.high)
    (accepted : (number kind env).take source value = .ok n) : kind.Holds n := by
  cases value with
  | int given =>
    obtain ⟨rfl, -, holds⟩ := IntegerKind.checkUnsigned_eq_ok_iff.1 (taken_eq_ok.1 accepted)
    exact holds
  | str given =>
    obtain ⟨text, -, accepted⟩ := bind_eq_ok.1 accepted
    exact IntegerKind.parse_holds low high (taken_eq_ok.1 accepted)
  | _ => cases accepted

/-- A natural number that is accepted is in its range. -/
theorem natural_holds {n : Nat} (low : kind.low = 0) (high : 0 ≤ kind.high)
    (accepted : (natural kind env).take source value = .ok n) : kind.Holds n := by
  obtain ⟨m, number, rfl⟩ := map_eq_ok.1 accepted
  have holds := number_holds (Int.le_of_eq low) high number
  rwa [Int.toNat_of_nonneg (low ▸ holds.1)]

/-- A span of time that is accepted is not too large. -/
theorem seconds_le {n : Nat} (accepted : (seconds env).take source value = .ok n) : n ≤ Duration.maxCount := by
  cases value with
  | int given =>
    obtain ⟨m, number, rfl⟩ := map_eq_ok.1 accepted
    obtain ⟨rfl, -, holds⟩ := IntegerKind.checkUnsigned_eq_ok_iff.1 (taken_eq_ok.1 number)
    exact Int.toNat_le.2 holds.2.1
  | str given =>
    obtain ⟨text, -, accepted⟩ := bind_eq_ok.1 accepted
    split at accepted
    · rename_i digits
      cases accepted
      have holds := IntegerKind.parse_holds (by decide) (by decide) digits
      exact Int.toNat_le.2 holds.2.1
    · obtain ⟨span, read, rfl⟩ := map_eq_ok.1 (taken_eq_ok.1 accepted)
      exact Duration.parse_seconds_le read
  | _ => cases accepted

/-- A text of which nothing is left is not there. -/
theorem optionalText_ne {given : Option String} (accepted : (optionalText env).take source value = .ok given) :
    given ≠ some "" := by
  obtain ⟨before, -, rfl⟩ := map_eq_ok.1 accepted
  intro empty
  simpa using (Option.filter_eq_some_iff.1 empty).2

/-! ## What is written -/

/-- A natural number of the kind is restored from its integer. -/
theorem restores_natural {n : Nat} (holds : kind.Holds n) : (natural kind env).Restores (fun n => .int n) n := by
  intro source form arranges
  rw [arranges.int]
  have accepted : (number kind env).take source (.int n) = .ok n :=
    taken_eq_ok.2 (IntegerKind.checkUnsigned_eq_ok_iff.2 ⟨rfl, Int.natCast_nonneg n, holds⟩)
  exact map_eq_ok.2 ⟨n, accepted, Int.toNat_natCast n⟩

/-- A span of whole seconds is restored from its count. -/
theorem restores_seconds {n : Nat} (fits : n ≤ Duration.maxCount) : (seconds env).Restores (fun n => .int n) n := by
  intro source form arranges
  rw [arranges.int]
  have holds : IntegerKind.u64.Holds n := ⟨Int.natCast_nonneg n, Int.ofNat_le.2 fits, nofun⟩
  have accepted := IntegerKind.checkUnsigned_eq_ok_iff.2 ⟨rfl, Int.natCast_nonneg n, holds⟩
  exact map_eq_ok.2 ⟨n, taken_eq_ok.2 accepted, Int.toNat_natCast n⟩

/-- A text without a dollar sign is restored from itself. -/
theorem restores_text {given : String} (plain : '$' ∉ given.toList) : (text env).Restores .str given :=
  Schema.restores_textAs (taken_eq_ok.2 (env.expand_of_notMem plain))

/-- So is a text that may be missing, unless it is empty. -/
theorem restores_optionalText {given : Option String} (present : given ≠ some "")
    (plain : ∀ text ∈ given, '$' ∉ text.toList) : (optionalText env).Restores .strOrNull given := by
  intro source form arranges
  have refuses (source : Source) (value : String) : (text env).take source .null ≠ .ok value := nofun
  have restores := Schema.restores_strOrNull refuses given fun text listed => restores_text (plain text listed)
  refine map_eq_ok.2 ⟨given, restores source form arranges, ?_⟩
  cases given with
  | none => rfl
  | some text => rw [Option.filter_some, if_pos (by simpa using fun empty => present (congrArg some empty))]

end Setting

end NodeImages
