import NodeImages.Code
import NodeImages.Text.Quoted

/-!
# Failures

A failure is a status code with the messages gathered on the way up, the cause first: whoever passes
a failure on adds what it was doing at the time (`Failure.tip`).

* `Failure.message`: the messages on one line;
* `Failure.display`, `Failure.displayLong`: code and messages for a log, on one line or on several.
-/

namespace NodeImages

/-- Why an operation did not succeed. -/
structure Failure where
  /-- What kind of failure it is. -/
  code : Code
  /-- What went wrong, the cause first. -/
  messages : List String
  deriving DecidableEq, Repr, Inhabited

namespace Failure

/-- A failure with one message, or with none when the message is empty. -/
def of (code : Code) (message : String) : Failure :=
  ⟨code, if message.isEmpty then [] else [message]⟩

/-- A failure of the caller: a wrong argument. -/
def ofInput (message : String) : Failure :=
  .of .invalidArgument message

/-- A failure of which only the code is known. -/
def ofCode (code : Code) : Failure :=
  .of code ""

/-- A failed call to the operating system. Its text is recorded even when it is empty. -/
def ofIo (kind : IoKind) (text : String) : Failure :=
  ⟨.ofIo kind, [text]⟩

/-- The failure to find a value where one was needed. -/
def missing : Failure :=
  ⟨.internal, []⟩

/-- The same failure under another code. -/
def withCode (failure : Failure) (code : Code) : Failure :=
  { failure with code }

/-- The failure with one more message. -/
def append (failure : Failure) (message : String) : Failure :=
  { failure with messages := failure.messages ++ [message] }

/-- Adds what was being done when the failure came up. -/
def tip (failure : Failure) (doing : String) : Failure :=
  failure.append doing

/-- The failure together with the messages of another one, set apart by a line of dashes. -/
def merge (failure other : Failure) : Failure :=
  { failure with messages := failure.messages ++ "---" :: other.messages }

/-- All messages on one line. -/
def message (failure : Failure) : String :=
  " : ".intercalate failure.messages

/-- Code and messages on one line. -/
def display (failure : Failure) : String :=
  "Error \x7b code: " ++ failure.code.name ++
    (if failure.messages.isEmpty then ""
      else ", messages: [" ++ ", ".intercalate (failure.messages.map Text.quoted) ++ "]") ++
    " \x7d"

/-- Code and messages, one a line. -/
def displayLong (failure : Failure) : String :=
  "Error \x7b\n    code: " ++ failure.code.name ++ ",\n" ++
    (if failure.messages.isEmpty then ""
      else "    messages: [\n" ++
        String.join (failure.messages.map fun m => "        " ++ Text.quoted m ++ ",\n") ++
        "    ],\n") ++
    "\x7d"

@[simp]
theorem code_tip (failure : Failure) (doing : String) : (failure.tip doing).code = failure.code :=
  rfl

end Failure

/-- The outcome of an operation that may fail. -/
abbrev Outcome (α : Type) := Except Failure α

namespace Outcome

/-- Adds to a failure what was being done. -/
def tip {α : Type} (outcome : Outcome α) (doing : String) : Outcome α :=
  outcome.mapError (·.tip doing)

end Outcome

end NodeImages
