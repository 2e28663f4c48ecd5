import NodeImages.Config.File

/-!
# A file system of which something is known

A file system is given by some of its directories and files. A path is followed step by step: from the root if
it starts with a slash, and otherwise from a directory of its own.

* `FileSystem.follow`: where the steps of a path lead;
* `FileSystem.lookup`: what a path leads to.
-/

namespace NodeImages.Simulation

/-- What is known of a file system. Places are given by the steps that lead to them from the root. -/
structure FileSystem where
  directories : List (List String) := []
  files : List (List String × FileEntry) := []
  /-- Where a path starts that does not start at the root. -/
  home : List String := []

namespace FileSystem

/-- The greatest size in bytes of a step of a path. -/
def maxStep : Nat := 255

/-- The greatest size in bytes of a path. -/
def maxPath : Nat := 4095

/-- What stands at a place. -/
def entry (system : FileSystem) (place : List String) : FileEntry :=
  if place.isEmpty || place == system.home || system.directories.contains place then .directory
  else (system.files.lookup place).getD .missing

/-- Where the steps of a path lead from a place. Steps lead on from directories only. -/
def follow (system : FileSystem) (place : List String) : List String → FileEntry
  | [] => system.entry place
  | step :: rest =>
    match system.entry place with
    | .directory =>
      if step == "" || step == "." then system.follow place rest
      else if step == ".." then system.follow place.dropLast rest
      else if maxStep < step.utf8ByteSize then .tooLong
      else system.follow (place ++ [step]) rest
    | .missing => .missing
    | _ => .belowFile

/-- What a path leads to. -/
def lookup (system : FileSystem) (path : String) : FileEntry :=
  if path.contains '\x00' then .unnameable
  else if maxPath < path.utf8ByteSize then .tooLong
  else if path.isEmpty then .missing
  else system.follow (if path.startsWith "/" then [] else system.home) (path.splitOn "/")

end FileSystem

end NodeImages.Simulation
