import NodeImages.Decimal.Shortest
import NodeImages.Json.Basic
import NodeImages.Text.Quoted

/-!
# Misfits

What can be wrong with a value that is to be taken for a value of a certain kind (`Misfit`), and the words
for it (`Misfit.message`). The words show a value as it is shown where it comes from (`Source`).
-/

namespace NodeImages.Json

/-- Where a value comes from. -/
inductive Source
  /-- A program holds it. -/
  | held
  /-- It has been read from a text and laid aside, until it is known what it is to be taken for. -/
  | laidAside
  /-- It has been read from a relaxed text. -/
  | relaxed
  deriving DecidableEq, Repr

/-- A value in words. -/
def shown (source : Source) : Json → String
  | .null => if source = .relaxed then "unit value" else "null"
  | .bool b => s!"boolean `{b}`"
  | .int n => s!"integer `{n}`"
  | .float bits =>
    "floating point `" ++
      (if source = .relaxed then Decimal.positional bits else Decimal.scientific bits) ++ "`"
  | .str text => "string " ++ Text.quoted text
  | .arr _ => "sequence"
  | .obj _ | .torn _ _ => "map"
  | .unreadable _ reason => reason

/-- What is wrong with a value. -/
inductive Misfit
  /-- It is of another kind than is expected. -/
  | wrongType (found expected : String)
  /-- It is of the right kind but not one of those that are expected. -/
  | wrongValue (found expected : String)
  /-- An array has too few items or too many. -/
  | wrongLength (length : Nat) (expected : String)
  | missingField (name : String)
  | duplicateField (name : String)
  | unknownField (name : String) (known : List String)
  | unknownVariant (name : String) (known : List String)
  /-- What takes up the value refuses it in words of its own. -/
  | refused (words : String)
  deriving DecidableEq, Repr

/-- Names in backticks, as a choice among them is put. -/
def choiceWords (names : List String) : String :=
  match names with
  | [] => "there are no fields"
  | [a] => s!"expected `{a}`"
  | [a, b] => s!"expected `{a}` or `{b}`"
  | names => "expected one of " ++ ", ".intercalate (names.map fun n => s!"`{n}`")

namespace Misfit

/-- The words for a misfit. -/
def message : Misfit → String
  | wrongType found expected => "invalid type: " ++ found ++ ", expected " ++ expected
  | wrongValue found expected => "invalid value: " ++ found ++ ", expected " ++ expected
  | wrongLength length expected => s!"invalid length {length}, expected {expected}"
  | missingField name => s!"missing field `{name}`"
  | duplicateField name => s!"duplicate field `{name}`"
  | unknownField name known => s!"unknown field `{name}`, " ++ choiceWords known
  | unknownVariant name known => s!"unknown variant `{name}`, " ++ choiceWords known
  | refused words => words

/-- A value is of another kind than is expected. One that could not even be read is no value of any kind. -/
def ofType (source : Source) (value : Json) (expected : String) : Misfit :=
  match value with
  | .unreadable _ reason => refused reason
  | value => wrongType (shown source value) expected

/-- A number of things. -/
def counted (count : Nat) (thing : String) : String :=
  if count = 1 then s!"1 {thing}" else s!"{count} {thing}s"

end Misfit

end NodeImages.Json
