import NodeImages.Api.Call
import NodeImages.Work.Manager

/-!
# Watching pods

A watch lists all pods, page by page, and then follows the changes from the version of the list on. A stream
of changes that ends is taken up again from the last version seen. When the cluster no longer knows that
version, or does not give one, the watch starts over with a new list.

A watch stands at a stage between two steps (`Watcher`): a step either needs the answer to a call or goes
without one, and may bring out an item. Nothing that goes wrong ends a watch.

* `Change.ofLine`: a line of the stream of changes;
* `Watcher.step`, `Watcher.onPage`, `Watcher.onStream`: the steps.
-/

namespace NodeImages.Api

open Json Cluster Work

/-- A line of the stream of changes. -/
inductive Change
  /-- A pod is new or has changed. -/
  | present (pod : Pod)
  | gone (pod : Pod)
  /-- Nothing has changed up to a version. -/
  | bookmark (version : String)
  | refused (refusal : Refusal)
  deriving Repr

namespace Change

/-- The version that a bookmark gives, in its metadata. -/
def bookmarkMeta : Schema String := .record {
  form := .plain
  expected := "struct BookmarkMeta"
  start := ""
  fields := [
    .needed "resourceVersion" .text fun version _ => version,
    .defaulted "annotations" texts fun _ version => version] }

/-- A bookmark has to say what kind of object it is about. -/
def kindSchema : RecordSchema Unit where
  form := .plain
  expected := "struct TypeMeta"
  start := ()
  fields := [.needed "apiVersion" .text fun _ _ => (), .needed "kind" .text fun _ _ => ()]

/-- How a bookmark stands in JSON. What kind of object it is about is looked at last. -/
def bookmarkSchema : Schema String := .record {
  form := .gathering
  expected := "struct Bookmark"
  start := ""
  fields := [.needed "metadata" bookmarkMeta fun version _ => version]
  conclude others version := (kindSchema.take .laidAside (.obj others)).map fun _ => version }

/-- What kind of change a change is. -/
inductive Kind
  | added
  | modified
  | deleted
  | bookmark
  | error
  deriving DecidableEq, Repr

namespace Kind

/-- The name of a kind. -/
def name : Kind → String
  | added => "ADDED"
  | modified => "MODIFIED"
  | deleted => "DELETED"
  | bookmark => "BOOKMARK"
  | error => "ERROR"

/-- All kinds. -/
def all : List Kind := [added, modified, deleted, bookmark, error]

/-- How a kind stands in JSON. -/
def schema : Schema Kind := .choice all name

/-- How the object of a change stands in JSON: what it is depends on the kind of the change. -/
def objectSchema : Kind → Schema Change
  | added | modified => Pod.schema.map .present
  | deleted => Pod.schema.map .gone
  | bookmark => bookmarkSchema.map .bookmark
  | error => Refusal.schema.map .refused

end Kind

/-- What has been read of a change. -/
inductive Draft
  | nothing
  | kind (kind : Kind)
  /-- The object came first, so it had to be laid aside. -/
  | object (value : Json)
  | change (change : Change)

/-- What a change is that has been read this far. -/
def Draft.finish : Draft → Except Misfit Change
  | .nothing | .object _ => .error (.missingField "type")
  | .kind _ => .error (.missingField "object")
  | .change found => .ok found

/-- The members of a change. Every member takes a character, so the length of the text bounds their number. -/
def members (depth fuel : Nat) (isFirst : Bool) (draft : Draft) (cursor : Cursor) :
    Reading (Except Misfit Draft × Cursor) :=
  match fuel with
  | 0 => .ok (.ok draft, cursor)
  | fuel + 1 => do
    let (more, cursor) ← cursor.nextMember isFirst
    if !more then return (.ok draft, cursor)
    let (name, cursor) ← cursor.string
    let goOn (draft : Draft) (cursor : Cursor) := members depth fuel false draft cursor
    match name, draft with
    | "type", .nothing =>
      let (kind, cursor) ← Kind.schema.read depth (← cursor.pastColon)
      goOn (.kind kind) cursor
    | "type", .object value =>
      let (kind, cursor) ← Kind.schema.read depth (← cursor.pastColon)
      match kind.objectSchema.take .laidAside value with
      | .ok change => goOn (.change change) cursor
      | .error misfit => return (.error misfit, cursor)
    | "object", .nothing =>
      let (value, cursor) ← (← cursor.pastColon).value depth
      goOn (.object value) cursor
    | "object", .kind kind =>
      let (change, cursor) ← kind.objectSchema.read depth (← cursor.pastColon)
      goOn (.change change) cursor
    | "type", _ | "object", _ => return (.error (.duplicateField name), cursor)
    | _, _ => goOn draft (← (← cursor.pastColon).pastValue)

/-- The words for what is expected of a change. -/
def expected : String := "adjacently tagged enum WatchEvent"

/-- The items of an array that stands for a change: its kind and its object. -/
def items (depth : Nat) (cursor : Cursor) : Reading (Except Misfit Change × Cursor) := do
  let (more, cursor) ← cursor.nextItem true
  if !more then return (.error (.wrongLength 0 expected), cursor)
  let (kind, cursor) ← Kind.schema.read depth cursor
  let (more, cursor) ← cursor.nextItem false
  if !more then return (.error (.wrongLength 1 expected), cursor)
  let (change, cursor) ← kind.objectSchema.read depth cursor
  return (.ok change, cursor)

/-- Reads a change: an object with its kind and its object, or an array of both. -/
def read (depth : Nat) (cursor : Cursor) : Reading (Change × Cursor) :=
  let cursor := cursor.pastBlanks
  match cursor.rest with
  | '\x7b' :: _ => cursor.inObject depth fun depth cursor => do
    let (draft, cursor) ← members depth (cursor.rest.length + 1) true .nothing cursor
    return (draft.bind Draft.finish, cursor)
  | '[' :: _ => cursor.inArray depth items
  | _ => cursor.refuse expected

/-- A line of the stream of changes, if there is anything on it. A line that stops too early is passed
    over; one that is a refusal counts as such. -/
def ofLine (line : String) : Option (Except CallFault Change) :=
  match readText read line with
  | .ok change => some (.ok change)
  | .error fault =>
    if fault.cause.isEof then none
    else
      match Refusal.schema.ofText line with
      | .ok refusal => some (.error (.refused refusal))
      | .error _ => some (.error (.unreadable fault.message))

/-- The lines of a text, without the marks at their ends. -/
def linesOf (stream : String) : List String :=
  (splitAll '\n' stream.toList).map fun line =>
    String.ofList (if line.getLast? = some '\r' then line.dropLast else line)

/-- The changes on the lines of a text. -/
def ofStream (stream : String) : List (Except CallFault Change) :=
  (linesOf stream).filterMap ofLine

end Change

/-- How far a watch has come. -/
inductive Watcher
  /-- It has to start over. -/
  | empty
  /-- Pods of a page are being brought out; the next page is to be asked for, or the list is complete. -/
  | listing (pods : List Pod) (next version : Option String)
  /-- The stream of changes is to be taken up. -/
  | listed (version : String)
  /-- Changes are being brought out. -/
  | following (version : String) (changes : List (Except CallFault Change))
  deriving Repr

namespace Watcher

/-- The first stage of a watch. -/
def start : Watcher := empty

/-- What a watch brings out. -/
abbrev Item := Except WatchFault WatchEvent

/-- What a watch needs before it can go on. -/
inductive Need
  | nothing
  /-- The next page of the list. -/
  | page (call : Call (Page Pod))
  /-- The stream of changes. -/
  | stream (call : Call (List (Except CallFault Change)))

/-- The number of pods on a page. -/
def pageSize : Nat := 500

/-- How long a stream of changes is kept up, in seconds. -/
def streamSeconds : Nat := 290

/-- Lists a page of pods. -/
def listCall (space : String) (next : Option String) : Call (Page Pod) where
  request := Request.of .get (podsPath space ++ "?")
    (("limit", toString pageSize) :: (next.map (("continue", ·))).toList) none
  read response := response.value (Page.schema Pod.schema)
  conclude := whileDoing "listing pods"

/-- Takes up the stream of changes from a version on. What comes is read as it is, whatever its status. -/
def streamCall (space version : String) : Call (List (Except CallFault Change)) where
  request := Request.of .get (podsPath space ++ "?")
    [("allowWatchBookmarks", "true"), ("resourceVersion", version),
      ("timeoutSeconds", toString streamSeconds), ("watch", "true")] none
  read response := .ok (Change.ofStream response.text)
  conclude := whileDoing "watching pods"

/-- What the watch on the pods of a namespace needs before it can go on. -/
def need (space : String) : Watcher → Need
  | listing [] next version =>
    if next.isNone && version.isSome then .nothing else .page (listCall space next)
  | listed version => .stream (streamCall space version)
  | _ => .nothing

/-- A text, unless it is empty. -/
def nonEmpty (text : Option String) : Option String := text.filter (!·.isEmpty)

/-- A page of the list has been asked for. -/
def onPage (answer : Except CallFault (Page Pod)) : Option Item × Watcher :=
  match answer with
  | .error fault => (some (.error (.listing fault)), empty)
  | .ok page =>
    let next := nonEmpty page.next
    let version := nonEmpty page.version
    if next.isNone && version.isNone then (some (.error .unversioned), empty)
    else (none, listing page.items next version)

/-- The stream of changes from a version on has been asked for. -/
def onStream (version : String) (answer : Except CallFault (List (Except CallFault Change))) :
    Option Item × Watcher :=
  match answer with
  | .error fault => (some (.error (.starting fault)), listed version)
  | .ok changes => (none, following version changes)

/-- A change of a pod, which has to say the version of the pod. -/
def onPod (pod : Pod) (event : WatchEvent) (rest : List (Except CallFault Change)) :
    Option Item × Watcher :=
  match nonEmpty pod.metadata.version with
  | none => (some (.error .unversioned), empty)
  | some version => (some (.ok event), following version rest)

/-- The status under which the cluster says that it no longer knows a version. -/
def goneStatus : Nat := 410

/-- A step for which no answer is needed. -/
def step : Watcher → Option Item × Watcher
  | empty => (some (.ok .listBegins), listing [] none none)
  | listing (pod :: rest) next version => (some (.ok (.listed pod)), listing rest next version)
  | listing [] none (some version) => (some (.ok .listComplete), listed version)
  | listing [] next version => (none, listing [] next version)
  | listed version => (none, listed version)
  | following version [] => (none, listed version)
  | following version (.error fault :: rest) =>
    (some (.error (.broken fault)), following version rest)
  | following version (.ok change :: rest) =>
    match change with
    | .present pod => onPod pod (.changed pod) rest
    | .gone pod => onPod pod (.gone pod) rest
    | .bookmark version => (none, following version rest)
    | .refused refusal =>
      (some (.error (.refused refusal)),
        if refusal.code = goneStatus then empty else following version rest)

end Watcher

end NodeImages.Api
