/-!
# Status codes

Every failure carries one of seventeen canonical codes, numbered from zero. Failures that come from
outside are given the code that fits them: answers of the cluster by their HTTP status
(`Code.ofHttpStatus`), failures of the file system and of sockets by their kind (`Code.ofIo`).
-/

namespace NodeImages

/-- A canonical status code. -/
inductive Code
  | ok
  | cancelled
  | unknown
  | invalidArgument
  | deadlineExceeded
  | notFound
  | alreadyExists
  | permissionDenied
  | resourceExhausted
  | failedPrecondition
  | aborted
  | outOfRange
  | unimplemented
  | internal
  | unavailable
  | dataLoss
  | unauthenticated
  deriving DecidableEq, Repr, Inhabited

/-- What went wrong in a call to the operating system. -/
inductive IoKind
  | notFound | permissionDenied | connectionRefused | connectionReset | hostUnreachable
  | networkUnreachable | connectionAborted | notConnected | addrInUse | addrNotAvailable
  | networkDown | brokenPipe | alreadyExists | wouldBlock | notADirectory | isADirectory
  | directoryNotEmpty | readOnlyFilesystem | filesystemLoop | staleNetworkFileHandle | invalidInput
  | invalidData | timedOut | writeZero | storageFull | notSeekable | quotaExceeded | fileTooLarge
  | resourceBusy | executableFileBusy | deadlock | crossesDevices | tooManyLinks | invalidFilename
  | argumentListTooLong | interrupted | unsupported | unexpectedEof | outOfMemory | inProgress
  | other | uncategorized
  deriving DecidableEq, Repr

namespace Code

/-- All codes, in the order of their numbers. -/
def all : List Code :=
  [ok, cancelled, unknown, invalidArgument, deadlineExceeded, notFound, alreadyExists,
   permissionDenied, resourceExhausted, failedPrecondition, aborted, outOfRange, unimplemented,
   internal, unavailable, dataLoss, unauthenticated]

/-- The number of a code. -/
def number : Code → Nat
  | ok => 0
  | cancelled => 1
  | unknown => 2
  | invalidArgument => 3
  | deadlineExceeded => 4
  | notFound => 5
  | alreadyExists => 6
  | permissionDenied => 7
  | resourceExhausted => 8
  | failedPrecondition => 9
  | aborted => 10
  | outOfRange => 11
  | unimplemented => 12
  | internal => 13
  | unavailable => 14
  | dataLoss => 15
  | unauthenticated => 16

/-- The name of a code, as messages show it. -/
def name : Code → String
  | ok => "Ok"
  | cancelled => "Cancelled"
  | unknown => "Unknown"
  | invalidArgument => "InvalidArgument"
  | deadlineExceeded => "DeadlineExceeded"
  | notFound => "NotFound"
  | alreadyExists => "AlreadyExists"
  | permissionDenied => "PermissionDenied"
  | resourceExhausted => "ResourceExhausted"
  | failedPrecondition => "FailedPrecondition"
  | aborted => "Aborted"
  | outOfRange => "OutOfRange"
  | unimplemented => "Unimplemented"
  | internal => "Internal"
  | unavailable => "Unavailable"
  | dataLoss => "DataLoss"
  | unauthenticated => "Unauthenticated"

/-- The code of a given name; a name that no code has is `unknown`. -/
def ofName (text : String) : Code :=
  (all.find? fun code => code.name == text).getD unknown

/-- The code of a refused request to the cluster, by the status of the answer. -/
def ofHttpStatus (status : Nat) : Code :=
  if status = 400 ∨ status = 422 then invalidArgument
  else if status = 401 then unauthenticated
  else if status = 403 then permissionDenied
  else if status = 404 then notFound
  else if status = 409 then alreadyExists
  else if status = 410 then aborted
  else if status = 429 then resourceExhausted
  else if 500 ≤ status ∧ status ≤ 599 then unavailable
  else unknown

/-- The code of a failed call to the operating system. -/
def ofIo : IoKind → Code
  | .notFound => notFound
  | .permissionDenied => permissionDenied
  | .connectionRefused | .connectionReset | .connectionAborted => unavailable
  | .alreadyExists => alreadyExists
  | .invalidInput | .invalidData => invalidArgument
  | .timedOut => deadlineExceeded
  | .interrupted => aborted
  | .notConnected | .brokenPipe | .wouldBlock | .other | .unexpectedEof => internal
  | _ => unknown

end Code

namespace IoKind

/-- Every kind with its name and the text that describes it. -/
def table : List (IoKind × String × String) :=
  [(notFound, "NotFound", "entity not found"),
   (permissionDenied, "PermissionDenied", "permission denied"),
   (connectionRefused, "ConnectionRefused", "connection refused"),
   (connectionReset, "ConnectionReset", "connection reset"),
   (hostUnreachable, "HostUnreachable", "host unreachable"),
   (networkUnreachable, "NetworkUnreachable", "network unreachable"),
   (connectionAborted, "ConnectionAborted", "connection aborted"),
   (notConnected, "NotConnected", "not connected"),
   (addrInUse, "AddrInUse", "address in use"),
   (addrNotAvailable, "AddrNotAvailable", "address not available"),
   (networkDown, "NetworkDown", "network down"),
   (brokenPipe, "BrokenPipe", "broken pipe"),
   (alreadyExists, "AlreadyExists", "entity already exists"),
   (wouldBlock, "WouldBlock", "operation would block"),
   (notADirectory, "NotADirectory", "not a directory"),
   (isADirectory, "IsADirectory", "is a directory"),
   (directoryNotEmpty, "DirectoryNotEmpty", "directory not empty"),
   (readOnlyFilesystem, "ReadOnlyFilesystem", "read-only filesystem or storage medium"),
   (filesystemLoop, "FilesystemLoop",
    "filesystem loop or indirection limit (e.g. symlink loop)"),
   (staleNetworkFileHandle, "StaleNetworkFileHandle", "stale network file handle"),
   (invalidInput, "InvalidInput", "invalid input parameter"),
   (invalidData, "InvalidData", "invalid data"),
   (timedOut, "TimedOut", "timed out"),
   (writeZero, "WriteZero", "write zero"),
   (storageFull, "StorageFull", "no storage space"),
   (notSeekable, "NotSeekable", "seek on unseekable file"),
   (quotaExceeded, "QuotaExceeded", "quota exceeded"),
   (fileTooLarge, "FileTooLarge", "file too large"),
   (resourceBusy, "ResourceBusy", "resource busy"),
   (executableFileBusy, "ExecutableFileBusy", "executable file busy"),
   (deadlock, "Deadlock", "deadlock"),
   (crossesDevices, "CrossesDevices", "cross-device link or rename"),
   (tooManyLinks, "TooManyLinks", "too many links"),
   (invalidFilename, "InvalidFilename", "invalid filename"),
   (argumentListTooLong, "ArgumentListTooLong", "argument list too long"),
   (interrupted, "Interrupted", "operation interrupted"),
   (unsupported, "Unsupported", "unsupported"),
   (unexpectedEof, "UnexpectedEof", "unexpected end of file"),
   (outOfMemory, "OutOfMemory", "out of memory"),
   (inProgress, "InProgress", "in progress"),
   (other, "Other", "other error"),
   (uncategorized, "Uncategorized", "uncategorized error")]

/-- The kind of a given name; a name that no kind has is `other`. -/
def ofName (text : String) : IoKind :=
  ((table.find? fun row => row.2.1 == text).map (·.1)).getD other

/-- The text that describes a kind. -/
def description (kind : IoKind) : String :=
  ((table.find? fun row => row.1 == kind).map (·.2.2)).getD ""

end IoKind

end NodeImages
