import Mathlib.Data.List.Nodup
import NodeImages.Api.Reporter
import NodeImages.Json.MergePatch
import NodeImages.Json.Printer
import NodeImages.Proofs.Dictionary

/-!
# What the patches of a report leave behind

A merge patch of an object keeps what it does not name, on every level. An update is therefore written in two
patches: the first one removes the failures of the batch before, so that the second one puts its own into an empty
place, and nothing of the earlier ones is left among them.

* `get?_mergePatch`: a member after a patch, whatever the value was before;
* `mergePatch_ofDictionary`: a dictionary that is put into an empty place comes out as it is;
* `Supersedes`, `supersedes_of_patches`: what the two patches make of any status;
* `Call.sent_of_result`, `sent_of_patched`: a call that goes well has been answered, and not with a refusal;
* `report_supersedes_status`: the status after a report that went well.
-/

namespace NodeImages.Json

/-! ## Merge patches -/

/-- A member after a patch, by what the patch says of it. -/
def mergedMember (old : Option Json) : Option Json → Option Json
  | none => old
  | some .null => none
  | some change => some (mergePatch (old.getD (.obj [])) change)

theorem mergedMember_some (old : Option Json) {change : Json} (h : change ≠ .null) :
    mergedMember old (some change) = some (mergePatch (old.getD (.obj [])) change) := by
  cases change with
  | null => exact absurd rfl h
  | _ => rfl

/-- A member that is not null is merged into the one of its name. -/
theorem mergeMembers_cons {change : Json} (h : change ≠ .null) (members : List (String × Json))
    (name : String) (rest : List (String × Json)) :
    mergeMembers members ((name, change) :: rest) =
      mergeMembers (Dictionary.insertEntry name
        (mergePatch ((members.lookup name).getD (.obj [])) change) members) rest := by
  rw [mergeMembers]
  exact h

/-- A member that is removed is gone, and the others are left. -/
theorem lookup_removeMember (name : String) (members : List (String × Json)) (k : String) :
    (removeMember name members).lookup k = if k = name then none else members.lookup k := by
  rw [removeMember, Dictionary.lookup_filter (· ≠ name)]
  by_cases h : k = name <;> simp [h]

/-- Each member of a patched object comes of its own member in the patch. -/
theorem lookup_mergeMembers {changes : List (String × Json)} (nodup : (changes.map Prod.fst).Nodup)
    (members : List (String × Json)) (name : String) :
    (mergeMembers members changes).lookup name =
      mergedMember (members.lookup name) (changes.lookup name) := by
  induction changes generalizing members with
  | nil => rw [mergeMembers, List.lookup_nil, mergedMember]
  | cons entry rest ih =>
    obtain ⟨k, change⟩ := entry
    obtain ⟨hk, hrest⟩ := List.nodup_cons.1 nodup
    -- The rest of the patch does not come back to the member.
    have hlast : rest.lookup k = none := Dictionary.lookup_of_notMem hk
    rw [Dictionary.lookup_cons]
    by_cases hnull : change = .null
    · -- A member under null goes, and nothing is patched in its place.
      subst hnull
      rw [mergeMembers, ih hrest, lookup_removeMember]
      by_cases h : name = k
      · rw [if_pos h, if_pos h, h, hlast]
        rfl
      · rw [if_neg h, if_neg h]
    · rw [mergeMembers_cons hnull, ih hrest, Dictionary.lookup_insertEntry]
      by_cases h : name = k
      · rw [if_pos h, if_pos h, h, hlast, mergedMember_some _ hnull]
        rfl
      · rw [if_neg h, if_neg h]

theorem lookup_membersOf (value : Json) (name : String) : (membersOf value).lookup name = value.get? name := by
  cases value <;> rfl

/-- A member after a patch that names each member once, whatever the value was before. -/
theorem get?_mergePatch {changes : List (String × Json)} (nodup : (changes.map Prod.fst).Nodup)
    (value : Json) (name : String) :
    (value.mergePatch (.obj changes)).get? name =
      mergedMember (value.get? name) (changes.lookup name) := by
  rw [mergePatch, get?, lookup_mergeMembers nodup, lookup_membersOf]

/-- An entry that comes after all others is put at the end. -/
theorem insertEntry_of_lt {entries : List (String × Json)} {name : String} {value : Json}
    (h : ∀ entry ∈ entries, entry.1 < name) :
    Dictionary.insertEntry name value entries = entries ++ [(name, value)] := by
  induction entries with
  | nil => rfl
  | cons entry rest ih =>
    obtain ⟨n, v⟩ := entry
    have hlt : n < name := h (n, v) (List.mem_cons_self ..)
    have hrest : ∀ entry ∈ rest, entry.1 < name := fun entry hentry => h entry (.tail _ hentry)
    rw [Dictionary.insertEntry, if_neg (Std.not_lt.2 (Std.le_of_lt hlt)), if_neg (Std.ne_of_lt hlt).symm,
      ih hrest]
    rfl

/-- Arrays are put in one after the other as they are, if their names ascend. -/
theorem mergeMembers_ascending {done changes : List (String × Json)}
    (arrays : ∀ entry ∈ changes, ∃ items, entry.2 = .arr items)
    (ascending : (done ++ changes).Pairwise fun a b => a.1 < b.1) :
    mergeMembers done changes = done ++ changes := by
  -- The changes that have been made so far are a dictionary, to which the next one comes last.
  induction changes generalizing done with
  | nil => rw [mergeMembers, List.append_nil]
  | cons entry rest ih =>
    obtain ⟨name, value⟩ := entry
    obtain ⟨items, rfl⟩ := arrays (name, value) (List.mem_cons_self ..)
    have hlater : ∀ entry ∈ done, entry.1 < name := fun entry hentry =>
      (List.pairwise_append.1 ascending).2.2 entry hentry _ (List.mem_cons_self ..)
    have harr (value : Json) : value.mergePatch (.arr items) = .arr items := by
      rw [mergePatch]
      exact nofun
    rw [mergeMembers_cons (show Json.arr items ≠ .null from nofun), harr, insertEntry_of_lt hlater,
      ih (fun entry hentry => arrays entry (.tail _ hentry)) (by simpa using ascending),
      List.append_assoc, List.singleton_append]

/-- A dictionary of arrays that is put into an empty place comes out as it is. -/
theorem mergePatch_ofDictionary {dictionary : Dictionary Json}
    (arrays : ∀ entry ∈ dictionary.entries, ∃ items, entry.2 = .arr items) :
    mergePatch (.obj []) (.ofDictionary dictionary) = .ofDictionary dictionary := by
  rw [ofDictionary, mergePatch, membersOf, mergeMembers_ascending arrays (by simpa using dictionary.ascending),
    List.nil_append]

theorem ofDictionary_ne_null (dictionary : Dictionary Json) : ofDictionary dictionary ≠ .null := nofun

/-- Members that are present have their values. -/
theorem lookup_present {members : List (String × Option Json)} (nodup : (members.map Prod.fst).Nodup)
    (name : String) :
    (members.filterMap fun (name, value) => value.map (name, ·)).lookup name = (members.lookup name).join := by
  induction members with
  | nil => rfl
  | cons entry rest ih =>
    obtain ⟨k, value⟩ := entry
    obtain ⟨hk, hrest⟩ := List.nodup_cons.1 nodup
    rw [Dictionary.lookup_cons, List.filterMap_cons]
    cases value with
    | some value =>
      show List.lookup name ((k, value) :: _) = _
      rw [Dictionary.lookup_cons, ih hrest]
      by_cases h : name = k
      · rw [if_pos h, if_pos h]
        rfl
      · rw [if_neg h, if_neg h]
    | none =>
      -- The name is left out, so it is found nowhere: it does not stand among the others either.
      show List.lookup name (List.filterMap _ rest) = _
      rw [ih hrest]
      by_cases h : name = k
      · rw [if_pos h, h, Dictionary.lookup_of_notMem hk]
        rfl
      · rw [if_neg h]

theorem names_present_sublist (members : List (String × Option Json)) :
    ((members.filterMap fun (name, value) => value.map (name, ·)).map Prod.fst).Sublist
      (members.map Prod.fst) := by
  induction members with
  | nil => exact .slnil
  | cons entry rest ih =>
    obtain ⟨name, value⟩ := entry
    cases value with
    | some value => exact ih.cons_cons name
    | none => exact ih.cons name

/-- A member after a patch from which some members are left out. -/
theorem get?_mergePatch_objOf {members : List (String × Option Json)}
    (nodup : (members.map Prod.fst).Nodup) (value : Json) (name : String) :
    (value.mergePatch (.objOf members)).get? name =
      mergedMember (value.get? name) (members.lookup name).join := by
  rw [objOf, get?_mergePatch ((names_present_sublist members).nodup nodup), lookup_present nodup]

end NodeImages.Json

namespace NodeImages.Cluster

open Json

/-! ## The status -/

/-- A status carries the outcome of a summary, and nothing of the outcome that was there before; all else is as
    it was. -/
structure Supersedes (summary : CacheStatus) (old : Option Json) (status : Json) : Prop where
  outcome : status.get? "status" = summary.status.map fun outcome => .str outcome.name
  reason : status.get? "reason" = some (.str summary.reason)
  message : status.get? "message" = some (.str summary.message)
  failures :
    status.get? "failures" =
      if summary.failures.isEmpty then none
      else some (.ofDictionary (summary.failures.map fun failures => .arr (failures.map (·.toJson))))
  completionTime : status.get? "completionTime" = summary.completionTime.map .str
  other {name : String} :
    name ∉ ["status", "reason", "message", "failures", "completionTime"] →
      status.get? name = old.bind (·.get? name)

/-- No member of a status has the name of another. -/
theorem CacheStatus.nodup_members (status : CacheStatus) : (status.members.map Prod.fst).Nodup := by
  show ["status", "reason", "message", "failures", "startTime", "completionTime"].Nodup
  decide

/-- Nothing is written of what a batch does not tell of. -/
theorem CacheStatus.lookup_members_other {status : CacheStatus} (unstarted : status.startTime = none)
    {name : String}
    (h : name ∉ ["status", "reason", "message", "failures", "completionTime"]) :
    (status.members.lookup name).join = none := by
  -- The start time has a place among the members, but it is left out.
  by_cases hstart : name = "startTime"
  · subst hstart
    simp [members, Dictionary.lookup_cons, unstarted]
  · have hname : name ∉ status.members.map Prod.fst := by
      show name ∉ ["status", "reason", "message", "failures", "startTime", "completionTime"]
      simp_all
    rw [Dictionary.lookup_of_notMem hname]
    rfl

/-- A summary that is patched into a status without failures. -/
theorem supersedes_of_cleared {summary : CacheStatus} (unstarted : summary.startTime = none)
    {old : Option Json} {cleared : Json}
    (hfailures : cleared.get? "failures" = none)
    (hother : ∀ name ≠ "failures", cleared.get? name = old.bind (·.get? name)) :
    Supersedes summary old (cleared.mergePatch summary.toJson) := by
  have hmember (name : String) := get?_mergePatch_objOf summary.nodup_members cleared name
  rw [CacheStatus.toJson]
  constructor
  case outcome =>
    rw [hmember]
    cases h : summary.status <;> simp [CacheStatus.members, mergedMember, h, mergePatch]
  case reason =>
    rw [hmember]
    simp [CacheStatus.members, Dictionary.lookup_cons, mergedMember, mergePatch]
  case message =>
    rw [hmember]
    simp [CacheStatus.members, Dictionary.lookup_cons, mergedMember, mergePatch]
  case failures =>
    have hlookup : (summary.members.lookup "failures").join =
        if summary.failures.isEmpty then none
        else some (.ofDictionary (summary.failures.map fun fs => .arr (fs.map (·.toJson)))) := by
      simp [CacheStatus.members, Dictionary.lookup_cons]
    rw [hmember, hfailures, hlookup]
    -- The failures come into an empty place, so none of them meets another one of its image.
    by_cases hempty : summary.failures.isEmpty = true
    · rw [if_pos hempty, mergedMember]
    · rw [if_neg hempty, mergedMember_some _ (ofDictionary_ne_null _), Option.getD_none,
        mergePatch_ofDictionary]
      intro entry hentry
      obtain ⟨failure, -, rfl⟩ := List.mem_map.1 hentry
      exact ⟨_, rfl⟩
  case completionTime =>
    rw [hmember]
    cases h : summary.completionTime <;>
      simp [CacheStatus.members, Dictionary.lookup_cons, mergedMember, mergePatch, h, strOrNull]
  case other =>
    intro name hname
    rw [hmember, CacheStatus.lookup_members_other unstarted hname, mergedMember, hother]
    rintro rfl
    exact hname (by decide)

end NodeImages.Cluster

namespace NodeImages.Api

open Json Cluster Work

/-! ## Both patches -/

/-- The two patches of a report make the outcome of a batch supersede the status, whatever that was. -/
theorem supersedes_of_patches {summary : CacheStatus} (unstarted : summary.startTime = none)
    {before between after : Json}
    (hclear : between.get? "status" = (before.mergePatch clearingPatch).get? "status")
    (hwrite : after.get? "status" = (between.mergePatch (statusPatch summary)).get? "status") :
    ∃ status, after.get? "status" = some status ∧
      Supersedes summary (before.get? "status") status := by
  -- The first patch leaves an object, even if there was none.
  let cleared : Json := ((before.get? "status").getD (.obj [])).mergePatch (.obj [("failures", .null)])
  have hbetween : between.get? "status" = some cleared := by
    rw [hclear, clearingPatch, get?_mergePatch (by simp)]
    rfl
  have hfailures : cleared.get? "failures" = none := by
    rw [get?_mergePatch (by simp)]
    rfl
  have hother (name : String) (hname : name ≠ "failures") :
      cleared.get? name = (before.get? "status").bind (·.get? name) := by
    rw [get?_mergePatch (by simp), Dictionary.lookup_cons, if_neg hname]
    cases before.get? "status" <;> rfl
  refine ⟨cleared.mergePatch summary.toJson, ?_, supersedes_of_cleared unstarted hfailures hother⟩
  rw [hwrite, statusPatch, get?_mergePatch (by simp), hbetween]
  rfl

/-! ## Calls that go well -/

section

variable {σ α : Type} {send : Send σ} {service service' : σ}

/-- A request that can be made is made as it was asked for. -/
theorem Request.of_ok {method : Method} {target : String} {query : List (String × String)}
    {body : Option (String × Json)} {request : Request}
    (h : Request.of method target query body = .ok request) :
    request.method = method ∧ request.path = String.ofList (targetPath target) ∧
      request.contentType = body.map (·.1) ∧ request.body = body.map (·.2) := by
  simp only [Request.of] at h
  split at h
  · cases h
  · split at h
    · cases h
      exact ⟨rfl, rfl, rfl, rfl⟩
    · cases h

/-- A refusal has no value. -/
theorem Response.not_refusal_of_value {schema : Schema α} {response : Response} {value : α}
    (h : response.value schema = .ok value) : response.isRefusal = false := by
  by_contra hrefusal
  rw [Response.value, Response.check, if_pos (by simpa using hrefusal)] at h
  cases h

/-- A call that goes well has been answered, and not with a refusal. -/
theorem Call.result_of_perform {call : Call α} {doing : String} {value : α}
    (hconclude : call.conclude = whileDoing doing)
    (h : call.perform send service = (service', .ok value)) :
    call.result send service = (service', .ok value) := by
  rw [Call.perform] at h
  rcases hresult : call.result send service with ⟨after, _ | result⟩
  · simp [hresult, hconclude, whileDoing, Outcome.tip, Except.mapError] at h
  · simpa [hresult, hconclude, whileDoing, Outcome.tip, Except.mapError] using h

/-- A call with a result has been sent and answered, and the answer could be read. -/
theorem Call.sent_of_result {call : Call α} {value : α} (h : call.result send service = (service', .ok value)) :
    ∃ request response, call.request = .ok request ∧ send service request = (service', .ok response) ∧
      call.read response = .ok value := by
  rw [Call.result] at h
  cases hrequest : call.request with
  | error fault => simp [hrequest] at h
  | ok request =>
    rcases hsend : send service request with ⟨after, _ | response⟩
    · simp [hrequest, hsend, Except.bind] at h
    · simp only [hrequest, hsend, Except.bind, Prod.mk.injEq] at h
      exact ⟨request, response, rfl, h.1 ▸ hsend, h.2⟩

/-- Where the status of an image cache is to be found on a server. -/
def statusPath (space name : String) : String := String.ofList (targetPath (statusTarget space name))

/-- A patch of a status that goes well has been sent and has not been refused. -/
theorem sent_of_patched {space name doing : String} {patch : Json}
    (h : (patchStatus space name doing patch).perform send service = (service', .ok ())) :
    ∃ request response, send service request = (service', .ok response) ∧
      response.isRefusal = false ∧ request.method = .patch ∧ request.path = statusPath space name ∧
      request.contentType = some mergePatchType ∧ request.body = some patch := by
  obtain ⟨request, response, hrequest, hsend, hread⟩ := Call.sent_of_result (Call.result_of_perform rfl h)
  have hof : Request.of .patch (statusTarget space name) [] (some (mergePatchType, patch)) = .ok request := by
    simp only [patchStatus] at hrequest
    cases hnamed : named name with
    | error fault => simp [hnamed, bind, Except.bind] at hrequest
    | ok _ => simpa [hnamed, bind, Except.bind] using hrequest
  -- A refusal would not have been read as an image cache.
  have haccepted : response.isRefusal = false := by
    simp only [patchStatus] at hread
    cases hvalue : response.value ImageCache.schema with
    | error fault => simp [hvalue, Except.map] at hread
    | ok cache => exact Response.not_refusal_of_value hvalue
  obtain ⟨hmethod, hpath, htype, hbody⟩ := Request.of_ok hof
  exact ⟨request, response, hsend, haccepted, hmethod, hpath, htype, hbody⟩

/-- Calls that go well go well one after the other. -/
theorem Call.performed_of_ok {call : Call Unit} {rest : List (Call Unit)}
    (h : Call.performAll send service (call :: rest) = (service', .ok ())) :
    ∃ between, call.perform send service = (between, .ok ()) ∧
      Call.performAll send between rest = (service', .ok ()) := by
  rw [Call.performAll] at h
  rcases hcall : call.perform send service with ⟨between, _ | _⟩
  · simp [hcall] at h
  · rw [hcall] at h
    exact ⟨between, rfl, h⟩

end

/-! ## Reports -/

/-- A server that takes a merge patch for what it is: unless it refuses one, the status that it stores under the
    path of the patch is afterwards the one of the patched value. -/
def MergesStatus {σ : Type} (send : Send σ) (stored : σ → String → Json) : Prop :=
  ∀ (service service' : σ) (request : Request) (response : Response) (patch : Json),
    request.method = .patch → request.contentType = some mergePatchType → request.body = some patch →
    send service request = (service', .ok response) → response.isRefusal = false →
    (stored service' request.path).get? "status" =
      ((stored service request.path).mergePatch patch).get? "status"

/-- When an update has been reported, the status that is stored is the outcome of its batch. Nothing of the
    outcome before is left, whatever that was, and all else in the status is as before. -/
theorem report_supersedes_status {σ : Type} {send : Send σ} {stored : σ → String → Json}
    (merges : MergesStatus send stored) {service service' : σ} {update : Update} {now : String}
    (reported : report send service update now = (service', .ok ())) :
    ∃ space name status, ImageCache.splitKey update.key = (some space, name) ∧
      (stored service' (statusPath space name)).get? "status" = some status ∧
      Supersedes (update.summarize now) ((stored service (statusPath space name)).get? "status") status := by
  rw [report, reportCalls] at reported
  rcases hkey : ImageCache.splitKey update.key with ⟨_ | space, name⟩
  · simp [hkey] at reported
  · simp only [hkey] at reported
    -- Both patches go to the same path, the second one to what the first one has left there.
    obtain ⟨between, hclearing, hrest⟩ := Call.performed_of_ok reported
    obtain ⟨after, hwriting, hdone⟩ := Call.performed_of_ok hrest
    obtain rfl : after = service' := by simpa [Call.performAll] using hdone
    obtain ⟨request, response, hsend, haccepted, hmethod, hpath, htype, hbody⟩ := sent_of_patched hclearing
    have hclear := merges _ _ _ _ _ hmethod htype hbody hsend haccepted
    obtain ⟨request, response, hsend, haccepted, hmethod, hpath', htype, hbody⟩ := sent_of_patched hwriting
    have hwrite := merges _ _ _ _ _ hmethod htype hbody hsend haccepted
    rw [hpath] at hclear
    rw [hpath'] at hwrite
    obtain ⟨status, hstatus, hsupersedes⟩ := supersedes_of_patches rfl hclear hwrite
    exact ⟨space, name, status, rfl, hstatus, hsupersedes⟩

/-- A server with one object, which it patches. Its answer is the patched object. -/
def patching : Send Json := fun stored request =>
  let patched := stored.mergePatch (request.body.getD (.obj []))
  (patched, .ok ⟨200, patched.render⟩)

/-- This server merges every patch into its object. -/
theorem mergesStatus_patching : MergesStatus patching fun stored _ => stored := by
  intro service service' request response patch _ _ hbody hsend _
  simp only [patching, hbody, Option.getD_some, Prod.mk.injEq] at hsend
  rw [← hsend.1]

/-- An image cache with the outcome of an earlier batch, in which two images have failed. -/
def outcomeBefore : Json :=
  .obj [("metadata", .obj []), ("spec", .obj [("cacheSpec", .arr [])]),
    ("status", .obj [("failures", .obj [("x:1", .arr []), ("y:1", .arr [])]), ("status", .str "Failed")])]

/-- A batch of the image cache in which an image has been pulled. -/
def pulledAgain : Update :=
  let request := .of "x:1" (.named "a") .create (.named "space/cache")
  ⟨"space/cache", [(.real "j", { request, status := .succeeded })]⟩

/-- A success is reported over the failures of an earlier batch. -/
theorem report_supersedes_status_again :
    (report patching outcomeBefore pulledAgain "now").2 = .ok () ∧
      ∃ space name status, ImageCache.splitKey pulledAgain.key = (some space, name) ∧
        (report patching outcomeBefore pulledAgain "now").1.get? "status" = some status ∧
        Supersedes (pulledAgain.summarize "now") (outcomeBefore.get? "status") status := by
  have hok : (report patching outcomeBefore pulledAgain "now").2 = .ok () := by decide +kernel
  generalize hreport : report patching outcomeBefore pulledAgain "now" = reported at hok ⊢
  obtain ⟨after, outcome⟩ := reported
  subst hok
  exact ⟨rfl, report_supersedes_status mergesStatus_patching hreport⟩

end NodeImages.Api
