/-!
# Texts out of bytes

Bytes are read as UTF-8, and what is no UTF-8 is not refused: every start of a character that goes no further,
and every byte that starts no character, counts as one character that replaces it.
-/

namespace NodeImages.Text

/-- The character that replaces bytes of which no character can be made. -/
def replacement : Char := '\uFFFD'

/-- What a byte begins that may be the first one of a character: its part of the number of the character, and the
    ranges in which the bytes after it lie. -/
def firstByte? (byte : UInt8) : Option (Nat × List (UInt8 × UInt8)) :=
  let any := (0x80, 0xbf)
  if byte < 0x80 then some (byte.toNat, [])
  else if byte < 0xc2 then none
  else if byte < 0xe0 then some (byte.toNat % 0x20, [any])
  else if byte = 0xe0 then some (0, [(0xa0, 0xbf), any])
  else if byte = 0xed then some (0xd, [(0x80, 0x9f), any])
  else if byte < 0xf0 then some (byte.toNat % 0x10, [any, any])
  else if byte = 0xf0 then some (0, [(0x90, 0xbf), any, any])
  else if byte < 0xf4 then some (byte.toNat % 8, [any, any, any])
  else if byte = 0xf4 then some (4, [(0x80, 0x8f), any, any])
  else none

/-- The character of which `value` has been read so far, and the bytes that are left after it. -/
def complete (value : Nat) : List (UInt8 × UInt8) → List UInt8 → Char × List UInt8
  | [], bytes => (Char.ofNat value, bytes)
  | _ :: _, [] => (replacement, [])
  | (low, high) :: ranges, byte :: rest =>
    if low ≤ byte ∧ byte ≤ high then complete (value * 0x40 + byte.toNat % 0x40) ranges rest
    else (replacement, byte :: rest)

/-- The completion of a character leaves no more bytes than it was given. -/
theorem length_complete_le (value : Nat) (ranges : List (UInt8 × UInt8)) (bytes : List UInt8) :
    (complete value ranges bytes).2.length ≤ bytes.length := by
  induction ranges generalizing value bytes with
  | nil => simp [complete]
  | cons range ranges ih =>
    cases bytes with
    | nil => simp [complete]
    | cons byte rest =>
      simp only [complete]
      split
      · exact Nat.le_succ_of_le (ih _ _)
      · exact Nat.le_refl _

/-- The characters of bytes. -/
def lossy : List UInt8 → List Char
  | [] => []
  | byte :: rest =>
    match firstByte? byte with
    | none => replacement :: lossy rest
    | some (value, ranges) =>
      have := length_complete_le value ranges rest
      let after := complete value ranges rest
      after.1 :: lossy after.2
  termination_by bytes => bytes.length
  decreasing_by
    · simp
    · simp only [List.length_cons]; omega

end NodeImages.Text
