import NodeImages.Config.Basic
import NodeImages.Failure
import NodeImages.Json5.Reader

/-!
# Configuration files

A configuration file is opened, its text is read as relaxed JSON, and the value is decoded. Each step may
fail in its own way (`ConfigFault`); a file that cannot be opened is a failure of the file system.
-/

namespace NodeImages

/-- What a path leads to. -/
inductive FileEntry
  | missing
  | directory
  /-- The path goes on below something that is not a directory. -/
  | belowFile
  /-- The path, or a step of it, is longer than the file system allows. -/
  | tooLong
  /-- No file can have such a name: there is a null character in it. -/
  | unnameable
  /-- A file whose bytes are not a text. -/
  | bytes
  | text (contents : String)
  deriving DecidableEq, Repr

/-- The text of a file, or why it cannot be had. -/
def FileEntry.read : FileEntry → Outcome String
  | missing => .error (.ofIo .notFound "No such file or directory (os error 2)")
  | directory => .error (.ofIo .isADirectory "Is a directory (os error 21)")
  | belowFile => .error (.ofIo .notADirectory "Not a directory (os error 20)")
  | tooLong => .error (.ofIo .invalidFilename "File name too long (os error 36)")
  | unnameable => .error (.ofIo .invalidInput "file name contained an unexpected NUL byte")
  | bytes => .error (.ofIo .invalidData "stream did not contain valid UTF-8")
  | text contents => .ok contents

/-- Why there is no configuration. -/
inductive ConfigFault
  /-- The file could not be opened. -/
  | unopened (failure : Failure)
  /-- The text does not follow the grammar. -/
  | malformed
  /-- The value is not that of a configuration. -/
  | mismatch (misfit : Json.Misfit)
  deriving DecidableEq, Repr

namespace ConfigFault

/-- The code of a fault. -/
def code : ConfigFault → Code
  | unopened failure => failure.code
  | malformed | mismatch _ => .invalidArgument

end ConfigFault

namespace Config

/-- The configuration of a JSON value. -/
def ofJson (env : Environment) (value : Json) : Except ConfigFault Config :=
  ((schema env).ofJson value).mapError .mismatch

/-- The configuration of a relaxed JSON text. -/
def ofText (env : Environment) (text : String) : Except ConfigFault Config :=
  match Json5.read? text with
  | none => .error .malformed
  | some value => ((schema env).take .relaxed value).mapError .mismatch

/-- The configuration of a file. -/
def ofFile (env : Environment) (path : String) (entry : FileEntry) : Except ConfigFault Config := do
  let text ← (entry.read.tip s!"Could not open config file {path}").mapError .unopened
  ofText env text

end Config

end NodeImages
