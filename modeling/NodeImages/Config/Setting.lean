import NodeImages.Duration
import NodeImages.Environment
import NodeImages.Integer
import NodeImages.Json.Record

/-!
# Settings

A setting is a number, a span of time or a text. Each may be given as a text with references to the
environment, which are put in before the text is read.

* `Setting.number`: an integer of a fixed range, given as a number or as decimal digits;
* `Setting.seconds`: a span of time in whole seconds, given as a number of them or in words;
* `Setting.text`, `Setting.optionalText`: a text, the latter absent when nothing is left of it.
-/

namespace NodeImages.Setting

open Json

/-- Turns a refusal of a part of the program into a misfit of the value that was read. -/
def taken {α ε : Type} (words : ε → String) (result : Except ε α) : Except Misfit α :=
  result.mapError fun fault => .refused (words fault)

/-- A text with the references to the environment put in. -/
def expanded (env : Environment) (text : String) : Except Misfit String :=
  taken id (env.expand text)

/-- An integer of a fixed range that is given in digits. -/
def digits (kind : IntegerKind) (env : Environment) (text : String) : Except Misfit Int :=
  (expanded env text).bind fun text => taken IntegerFault.message (kind.parse text)

/-- An integer of a fixed range. A number may not be negative, also where the range holds negative
    ones; digits are read with their sign. -/
def number (kind : IntegerKind) (env : Environment) : Schema Int :=
  .oneOf "a non-negative number or a string containing one" fun
    | .int n => some (taken IntegerFault.message (kind.checkUnsigned n))
    | .str text => some (digits kind env text)
    | _ => none

/-- A natural number of a fixed range without negative numbers. -/
def natural (kind : IntegerKind) (env : Environment) : Schema Nat :=
  (number kind env).map Int.toNat

/-- A span of time in words, of which only whole seconds are kept, or in digits. -/
def span (env : Environment) (text : String) : Except Misfit Nat :=
  (expanded env text).bind fun text =>
    match IntegerKind.u64.parse text with
    | .ok n => .ok n.toNat
    | .error _ => taken Duration.ParseFault.message ((Duration.parse text).map (·.seconds))

/-- A span of time in seconds: a number of them, digits, or words. -/
def seconds (env : Environment) : Schema Nat :=
  .oneOf "a number of seconds or a duration string" fun
    | .int n => some ((taken IntegerFault.message (IntegerKind.u64.checkUnsigned n)).map Int.toNat)
    | .str text => some (span env text)
    | _ => none

/-- A text. -/
def text (env : Environment) : Schema String :=
  .textAs "a string" (expanded env)

/-- A text that may be left out. One of which nothing is left counts as left out. -/
def optionalText (env : Environment) : Schema (Option String) :=
  (text env).optional.map fun given => given.filter (!·.isEmpty)

end NodeImages.Setting
