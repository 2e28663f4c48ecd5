import NodeImages.Failure

/-!
# The log

A process has one log, which is opened once.
-/

namespace NodeImages

/-- The log of a process. -/
structure Logging where
  opened : Bool := false
  deriving DecidableEq, Repr, Inhabited

namespace Logging

/-- Opens the log. This can be done once. -/
def start (log : Logging) : Outcome Logging :=
  if log.opened then .error (.of .internal "Logging already initialized")
  else .ok { opened := true }

end Logging

end NodeImages
