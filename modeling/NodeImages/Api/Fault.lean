import NodeImages.Failure
import NodeImages.Json.Record

/-!
# Faults of calls to the cluster

A call may be refused by the cluster with an answer of its own, may not get through, or may be answered
by something unreadable (`CallFault`). Watching pods adds faults of its own (`WatchFault`). Each fault
becomes a failure with the code that fits it.
-/

namespace NodeImages.Api

/-- The answer of the cluster to a request that it refuses. -/
structure Refusal where
  status : String
  message : String
  reason : String
  /-- The HTTP status. -/
  code : Nat
  deriving DecidableEq, Repr, Inhabited

namespace Refusal

open Json

/-- How a refusal stands in JSON. -/
def schema : Schema Refusal := .record {
  form := .plain
  expected := "struct ErrorResponse"
  start := { status := "", message := "", reason := "", code := 0 }
  fields := [
    .needed "status" .text fun status refusal => { refusal with status },
    .defaulted "message" .text fun message refusal => { refusal with message },
    .defaulted "reason" .text fun reason refusal => { refusal with reason },
    .needed "code" (.integer 0 65535 "u16") fun code refusal => { refusal with code := code.toNat }] }

/-- A refusal in full, for a log. -/
def display (refusal : Refusal) : String :=
  "ErrorResponse \x7b status: " ++ Text.quoted refusal.status ++ ", message: " ++
    Text.quoted refusal.message ++ ", reason: " ++ Text.quoted refusal.reason ++ ", code: " ++
    toString refusal.code ++ " \x7d"

end Refusal

/-- Why a call was of no use. -/
inductive CallFault
  /-- The cluster refused it. -/
  | refused (refusal : Refusal)
  /-- It did not get through. -/
  | transport (text : String)
  /-- The answer is not what was asked for. -/
  | unreadable (text : String)
  /-- The request could not be made. -/
  | unbuilt (text : String)
  /-- A line of the answer is longer than is allowed. -/
  | lineTooLong
  /-- The server asks for a secure connection, which cannot be had. -/
  | insecure
  deriving DecidableEq, Repr

namespace CallFault

/-- The words for a fault. -/
def message : CallFault → String
  | refused refusal =>
    s!"ApiError: {refusal.message}: {refusal.reason} (" ++ refusal.display ++ ")"
  | transport text => s!"ServiceError: {text}"
  | unreadable text => s!"Error deserializing response: {text}"
  | unbuilt text => s!"Failed to build request: {text}"
  | lineTooLong => "Error finding newline character"
  | insecure => "TLS required but no TLS stack selected"

/-- The code of a fault. -/
def code : CallFault → Code
  | refused refusal => .ofHttpStatus refusal.code
  | transport _ => .unavailable
  | unreadable _ => .invalidArgument
  | unbuilt _ | lineTooLong | insecure => .internal

/-- The failure that a fault amounts to. -/
def failure (fault : CallFault) : Failure :=
  .of fault.code fault.message

end CallFault

/-- What can go wrong while pods are watched. -/
inductive WatchFault
  /-- The pods could not be listed. -/
  | listing (cause : CallFault)
  /-- The stream of changes could not be started. -/
  | starting (cause : CallFault)
  /-- The stream of changes carried a refusal. -/
  | refused (refusal : Refusal)
  /-- The stream of changes broke. -/
  | broken (cause : CallFault)
  /-- The cluster did not say which version of the pods it gave. -/
  | unversioned
  deriving DecidableEq, Repr

namespace WatchFault

/-- The words for a fault. -/
def message : WatchFault → String
  | listing cause => s!"failed to perform initial object list: {cause.message}"
  | starting cause => s!"failed to start watching object: {cause.message}"
  | refused refusal =>
    s!"error returned by apiserver during watch: {refusal.message}: {refusal.reason}"
  | broken cause => s!"watch stream failed: {cause.message}"
  | unversioned =>
    "no metadata.resourceVersion in watch result (does resource support watch?)"

/-- The failure that a fault amounts to. -/
def failure (fault : WatchFault) : Failure :=
  .of .unavailable fault.message

end WatchFault

end NodeImages.Api
