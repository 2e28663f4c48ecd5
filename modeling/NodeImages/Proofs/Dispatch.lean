import NodeImages.Proofs.Confinement
import NodeImages.Proofs.Items
import NodeImages.Proofs.Pulls

/-!
# Dispatches

A dispatch asks a client of the cluster one thing after the other, and what it asks next depends on the answers. Here
it is followed from the request to its end, for a client that may answer anything.

* `JobClient.Leads`: the calls of a dispatch that is led to its end, and what can be noticed of it;
* `leads_iff`: a dispatch that waits for an answer is led to its end in one way, which can be told in advance;
* `Table.Gains`: an entry comes into the table, and nothing else happens to it;
* `JobId.fresh_injective`: synthetic jobs of different serial numbers are different;
* `dispatch_decides_and_records`: the calls that are made for a request, and that the table tells of them.

That the client hands out the name of a job twice is not excluded. The second job takes the place of the first one in
the table (`dispatch_replaces`).
-/

namespace NodeImages.Work

open Cluster

/-! ## Clients -/

/-- What a client of the cluster answers to a dispatch. -/
structure JobClient where
  /-- Whether the node of a request has its image. -/
  present : Request → Outcome Bool
  /-- The name of a new job that pulls the image of a request. -/
  pull : Request → Outcome String
  /-- The name of a new job that takes the image of a request off its node. -/
  removal : Request → Outcome String

/-- What a dispatch asks a client for. -/
inductive Ask
  /-- Whether the node has the image. -/
  | presence (request : Request)
  /-- A job that pulls the image. -/
  | pull (request : Request)
  /-- A job that takes the image off the node. -/
  | removal (request : Request)

/-- The job that a request needs. -/
def Ask.job (request : Request) : Ask :=
  if request.kind.removes then .removal request else .pull request

/-- What a dispatch asks for at a point. -/
def Dispatch.asks : Dispatch → Option Ask
  | asking request => some (.presence request)
  | creating request => some (.job request)
  | _ => none

namespace JobClient

/-- The move that brings the answer. -/
def answer (client : JobClient) : Ask → Move
  | .presence request => .presence (client.present request)
  | .pull request => .job (client.pull request)
  | .removal request => .job (client.removal request)

/-- What comes of a call: the name of a job, if it is to create one, or a failure. -/
def outcome (client : JobClient) : Ask → Outcome (Option String)
  | .presence request => (client.present request).map fun _ => none
  | .pull request => (client.pull request).map some
  | .removal request => (client.removal request).map some

/-- What comes of the job that a request needs. -/
def creation (client : JobClient) (request : Request) : Outcome String :=
  if request.kind.removes then client.removal request else client.pull request

/-- The dispatch in hand is led to its end. -/
inductive Leads (client : JobClient) : Engine → List Ask → List Note → Engine → Prop
  /-- It is over. -/
  | finished {engine : Engine} (idle : engine.inHand = none) : Leads client engine [] [] engine
  /-- The client is asked, and the dispatch goes on from the answer. -/
  | ask {engine final : Engine} {inHand : Job.InHand} {ask : Ask} {asks : List Ask} {notes : List Note}
      (hand : engine.inHand = some inHand) (asked : inHand.dispatch.asks = some ask)
      (rest : Leads client (engine.act (client.answer ask)).1 asks notes final) :
      Leads client engine (ask :: asks) ((engine.act (client.answer ask)).2 ++ notes) final

variable {client : JobClient} {engine final : Engine} {item : Option Item} {request : Request} {ask : Ask}
  {asks : List Ask} {notes : List Note}

theorem answer_job (client : JobClient) (request : Request) :
    client.answer (.job request) = .job (client.creation request) := by
  rw [Ask.job, creation]
  split <;> rfl

theorem outcome_job (client : JobClient) (request : Request) :
    client.outcome (.job request) = (client.creation request).map some := by
  rw [Ask.job, creation]
  split <;> rfl

theorem leads_finished (idle : engine.inHand = none) :
    client.Leads engine asks notes final ↔ asks = [] ∧ notes = [] ∧ final = engine := by
  constructor
  · intro leads
    cases leads with
    | finished => exact ⟨rfl, rfl, rfl⟩
    | ask hand => exact absurd (hand.symm.trans idle) (Option.some_ne_none _)
  · rintro ⟨rfl, rfl, rfl⟩
    exact .finished idle

theorem leads_ask {inHand : Job.InHand} (hand : engine.inHand = some inHand)
    (asked : inHand.dispatch.asks = some ask) :
    client.Leads engine asks notes final ↔ ∃ asks' notes', asks = ask :: asks' ∧
      notes = (engine.act (client.answer ask)).2 ++ notes' ∧
      client.Leads (engine.act (client.answer ask)).1 asks' notes' final := by
  constructor
  · intro leads
    cases leads with
    | finished idle => exact absurd (hand.symm.trans idle) (Option.some_ne_none _)
    | ask hand' asked' rest =>
      obtain rfl := Option.some.inj (hand.symm.trans hand')
      obtain rfl := Option.some.inj (asked.symm.trans asked')
      exact ⟨_, _, rfl, rfl, rest⟩
  · rintro ⟨asks', notes', rfl, rfl, rest⟩
    exact .ask hand asked rest

/-- A call that the dispatch is over with is the last one. -/
theorem leads_last {inHand : Job.InHand} (hand : engine.inHand = some inHand)
    (asked : inHand.dispatch.asks = some ask) (idle : (engine.act (client.answer ask)).1.inHand = none) :
    client.Leads engine asks notes final ↔
      asks = [ask] ∧ engine.act (client.answer ask) = (final, notes) := by
  rw [leads_ask hand asked]
  simp only [leads_finished idle]
  constructor
  · rintro ⟨_, _, rfl, rfl, rfl, rfl, rfl⟩
    exact ⟨rfl, by rw [List.append_nil]⟩
  · rintro ⟨rfl, hact⟩
    exact ⟨[], [], rfl, by rw [hact, List.append_nil], rfl, rfl, by rw [hact]⟩

end JobClient

/-! ## To the end of a dispatch -/

namespace JobClient

/-- The calls that are still made from a point of a dispatch on, and the point at which it is over. -/
def settle (client : JobClient) : Dispatch → List Ask × Dispatch
  | .asking request =>
    match client.present request with
    | .ok false =>
      ([.presence request, .job request], (Dispatch.creating request).onJob (client.creation request))
    | answer => ([.presence request], (Dispatch.asking request).onPresence answer)
  | .creating request => ([.job request], (Dispatch.creating request).onJob (client.creation request))
  | dispatch => ([], dispatch)

end JobClient

namespace Engine

/-- The dispatcher takes up a request, for itself or with an item of the queue. -/
inductive TakesUp (engine : Engine) (request : Request) : Move → Prop
  | called (idle : engine.inHand = none) : TakesUp engine request (.dispatch request)
  | taken (idle : engine.inHand = none) (going : engine.stopping = false) {work : Queue Item}
      (next : engine.work.take = (work, .item (.image request))) (belongs : request.kind ≠ .statusUpdate) :
      TakesUp engine request .take

variable {engine : Engine} {item : Option Item} {dispatch : Dispatch} {request : Request}

theorem handle_of_asks (asked : dispatch.asks ≠ none) :
    engine.handle item dispatch = ({ engine with inHand := some ⟨item, dispatch⟩ }, []) := by
  cases dispatch <;> first | rfl | exact absurd rfl asked

/-- What is made of a dispatch that is over does not depend on what was in hand, and nothing is in hand then. -/
theorem handle_of_finished (engine : Engine) (item : Option Item) (finished : dispatch.asks = none)
    (inHand : Option Job.InHand) :
    ({ engine with inHand } : Engine).handle item dispatch = engine.handle item dispatch ∧
      (engine.handle item dispatch).1.inHand = none := by
  cases dispatch with
  | asking | creating => exact absurd finished (Option.some_ne_none _)
  | _ => cases item <;> exact ⟨rfl, rfl⟩

end Engine

namespace JobClient

variable {client : JobClient} {engine final : Engine} {item : Option Item} {request : Request}
  {asks : List Ask} {notes : List Note}

/-- There is nothing to ask for when a job has been asked for. -/
theorem asks_onJob (request : Request) (answer : Outcome String) :
    ((Dispatch.creating request).onJob answer).asks = none := by
  cases answer <;> rfl

theorem leads_creating :
    client.Leads { engine with inHand := some ⟨item, .creating request⟩ } asks notes final ↔
      asks = [.job request] ∧
        engine.handle item ((Dispatch.creating request).onJob (client.creation request)) = (final, notes) := by
  obtain ⟨handled, idle⟩ := engine.handle_of_finished item (asks_onJob request (client.creation request))
    (some ⟨item, .creating request⟩)
  have hact : ({ engine with inHand := some ⟨item, .creating request⟩ } : Engine).act
      (client.answer (.job request)) =
        engine.handle item ((Dispatch.creating request).onJob (client.creation request)) := by
    rw [answer_job, Engine.act]
    exact handled
  rw [leads_last rfl rfl (by rw [hact, idle]), hact]

/-- A dispatch that waits for an answer is led to its end in one way. -/
theorem leads_iff {dispatch : Dispatch} (asked : dispatch.asks ≠ none) :
    client.Leads (engine.handle item dispatch).1 asks notes final ↔
      asks = (client.settle dispatch).1 ∧ engine.handle item (client.settle dispatch).2 = (final, notes) := by
  rw [Engine.handle_of_asks asked]
  cases dispatch with
  | creating request => exact leads_creating
  | asking request =>
    have hact : ({ engine with inHand := some ⟨item, .asking request⟩ } : Engine).act
        (client.answer (.presence request)) =
          ({ engine with inHand := some ⟨item, .asking request⟩ } : Engine).handle item
            ((Dispatch.asking request).onPresence (client.present request)) := rfl
    have last (finished : ((Dispatch.asking request).onPresence (client.present request)).asks = none) :
        client.Leads { engine with inHand := some ⟨item, .asking request⟩ } asks notes final ↔
          asks = [.presence request] ∧
            engine.handle item ((Dispatch.asking request).onPresence (client.present request)) = (final, notes) := by
      obtain ⟨handled, idle⟩ := engine.handle_of_finished item finished (some ⟨item, .asking request⟩)
      rw [leads_last rfl rfl (by rw [hact, handled, idle]), hact, handled]
    rw [settle]
    rcases answer : client.present request with failure | _ | _
    · rw [answer] at last
      exact last rfl
    · -- The node does not have the image, and a job is asked for.
      rw [leads_ask rfl rfl, hact, answer]
      constructor
      · rintro ⟨_, _, rfl, rfl, rest⟩
        obtain ⟨rfl, handled⟩ := leads_creating.1 rest
        exact ⟨rfl, handled⟩
      · rintro ⟨rfl, handled⟩
        exact ⟨[.job request], notes, rfl, rfl, leads_creating.2 ⟨rfl, handled⟩⟩
    · rw [answer] at last
      exact last rfl
  | _ => exact absurd rfl asked

end JobClient

/-! ## Serial numbers -/

/-- The number that a hexadecimal digit stands for. -/
def hexDigit (digit : Char) : Nat :=
  if digit.isDigit then digit.toNat - '0'.toNat else digit.toNat - 'a'.toNat + 10

/-- The number that hexadecimal digits stand for. -/
def readHex (digits : List Char) : Nat :=
  digits.foldl (fun value digit => 16 * value + hexDigit digit) 0

theorem hexDigit_digitChar {n : Nat} (h : n < 16) : hexDigit n.digitChar = n := by
  have all : ∀ n : Fin 16, hexDigit n.val.digitChar = n.val := by decide
  exact all ⟨n, h⟩

theorem readHex_toDigits (n : Nat) : readHex (Nat.toDigits 16 n) = n := by
  induction n using Nat.strongRecOn with
  | ind n ih =>
    rw [Nat.toDigits_eq_if (by decide)]
    split
    · rename_i small
      rw [readHex, List.foldl_cons, List.foldl_nil, hexDigit_digitChar small, Nat.mul_zero, Nat.zero_add]
    · rename_i large
      have front := ih (n / 16) (by omega)
      rw [readHex] at front ⊢
      rw [List.foldl_append, front, List.foldl_cons, List.foldl_nil, hexDigit_digitChar (Nat.mod_lt _ (by decide))]
      exact Nat.div_add_mod n 16

/-- Leading zeros add nothing to a number. -/
theorem readHex_zeros (count : Nat) (digits : List Char) :
    readHex (List.replicate count '0' ++ digits) = readHex digits := by
  rw [readHex, List.foldl_append]
  congr 1
  induction count with
  | zero => rfl
  | succ count ih => rw [List.replicate_succ, List.foldl_cons]; exact ih

/-- Synthetic jobs of different serial numbers are different. -/
theorem JobId.fresh_injective : Function.Injective JobId.fresh := by
  intro a b h
  have names := JobId.synthetic.inj h
  rw [String.ext_iff, String.toList_append, String.toList_append, List.append_cancel_left_eq, String.toList_ofList,
    String.toList_ofList] at names
  have values := congrArg readHex names
  rwa [readHex_zeros, readHex_zeros, readHex_toDigits, readHex_toDigits] at values

/-! ## What is decided and recorded -/

/-- An entry comes into a table, in place of an earlier one of its job, and nothing else happens to it. -/
structure Table.Gains (table : Table) (entry : Entry) (table' : Table) : Prop where
  entries : ∀ other, other ∈ table'.entries ↔ other = entry ∨ other ∈ table.entries ∧ other.job ≠ entry.job
  size : table'.size = if entry.job ∈ table.jobs then table.size else table.size + 1

theorem Table.gains_put (table : Table) (job : JobId) (result : Result) :
    table.Gains ⟨job, result, false⟩ (table.put job result) := by
  by_cases hnew : job ∈ table.jobs
  · have hput : table.put job result = table.modify job fun _ => (result, false) := by
      rw [jobs] at hnew
      rw [put, dif_pos hnew]
    refine ⟨fun other => ?_, ?_⟩
    · -- The earlier entry of the job gives way where it stands.
      constructor
      · intro h
        rw [hput] at h
        obtain ⟨old, hold, rfl⟩ := mem_modify.1 h
        by_cases hjob : old.job = job
        · exact .inl (by rw [if_pos hjob, hjob])
        · rw [if_neg hjob]
          exact .inr ⟨hold, hjob⟩
      · rintro (rfl | ⟨h, hjob⟩)
        · exact mem_put_self _ _ _
        · rw [hput]
          exact mem_modify.2 ⟨other, h, if_neg hjob⟩
    · rw [if_pos hnew, hput, size, modify, List.length_map, size]
  · refine ⟨fun other => ?_, ?_⟩
    · rw [mem_put_of_new hnew, or_comm]
      refine or_congr_right (and_iff_left_of_imp fun h hjob => hnew ?_).symm
      exact mem_jobs.2 ⟨other, h, hjob⟩
    · rw [if_neg hnew, size, entries_put_of_new hnew, List.length_append, List.length_singleton, size]

/-- The calls that a request leads to: what is asked for depends on the kind of work, the policy and the image, and
    then on what the node has answered. -/
structure JobClient.Decides (client : JobClient) (policy : PullPolicy) (request : Request) (asks : List Ask) :
    Prop where
  removal : request.kind = .purge → asks = [.removal request]
  unasked : request.kind ≠ .purge → policy = .always ∨ Image.Floats request.image.toList →
    asks = [.pull request]
  asked : request.kind ≠ .purge → ¬ (policy = .always ∨ Image.Floats request.image.toList) →
    asks = .presence request ::
      match client.present request with
      | .ok false => [.pull request]
      | _ => []

/-- What a dispatch has made of an engine, by what came of its last call. -/
inductive Dispatched (engine : Engine) (request : Request) (notes : List Note) (final : Engine) :
    Outcome (Option String) → Prop
  /-- The call failed. -/
  | refused {failure : Failure} (refusal : Failure) (code : refusal.code = failure.code)
      (noted : notes = [.refused refusal]) (table : final.table = engine.table) :
      Dispatched engine request notes final (.error failure)
  /-- A job was created. -/
  | created {name : String} {result : Result} (result_eq : result = ⟨request, .jobCreated, "", ""⟩)
      (noted : notes = [.recorded (.real name) result])
      (table : engine.table.Gains ⟨.real name, result, false⟩ final.table) :
      Dispatched engine request notes final (.ok (some name))
  /-- No job was needed. The entry is that of a synthetic job that there has not been before. -/
  | needless {job : JobId} {result : Result} (result_eq : result = ⟨request, .alreadyPulled, "", ""⟩)
      (job_eq : job = .fresh engine.nextSynthetic) (fresh : ∀ serial < engine.nextSynthetic, .fresh serial ≠ job)
      (next : final.nextSynthetic = engine.nextSynthetic + 1) (noted : notes = [.recorded job result])
      (table : engine.table.Gains ⟨job, result, false⟩ final.table) :
      Dispatched engine request notes final (.ok none)

namespace JobClient

variable {client : JobClient} {engine final : Engine} {item : Option Item} {request : Request}
  {asks : List Ask} {notes : List Note}

theorem decides_settle (client : JobClient) (policy : PullPolicy) (request : Request) :
    client.Decides policy request (client.settle (.first policy request)).1 := by
  rw [Dispatch.first]
  by_cases hkind : request.kind = .purge
  · have job : Ask.job request = .removal request := if_pos (Kind.removes_iff.2 hkind)
    rw [if_pos (by rw [Kind.removes_iff.2 hkind, Bool.true_or]), settle, job]
    exact ⟨fun _ => rfl, fun h => absurd hkind h, fun h => absurd hkind h⟩
  · have removes : request.kind.removes = false := by rwa [← Bool.not_eq_true, Kind.removes_iff]
    have job : Ask.job request = .pull request := if_neg (by rw [removes]; exact Bool.false_ne_true)
    rw [removes, Bool.false_or]
    split
    · rename_i unasked
      rw [PullPolicy.pullsUnasked_iff] at unasked
      rw [settle, job]
      exact ⟨fun h => absurd h hkind, fun _ _ => rfl, fun _ h => absurd unasked h⟩
    · rename_i asked
      rw [PullPolicy.pullsUnasked_iff] at asked
      refine ⟨fun h => absurd h hkind, fun _ h => absurd h asked, fun _ _ => ?_⟩
      rw [settle, job]
      rcases client.present request with _ | _ | _ <;> rfl

end JobClient

namespace Dispatched

variable {client : JobClient} {engine final : Engine} {item : Option Item} {request : Request}
  {notes : List Note}

theorem of_failed {failure : Failure} (doing : String)
    (handled : engine.handle item (.failed (failure.tip doing)) = (final, notes)) :
    Dispatched engine request notes final (.error failure) := by
  obtain ⟨rfl, rfl⟩ := Prod.mk.inj handled
  exact .refused (failure.tip doing) (Failure.code_tip ..) rfl Engine.table_giveBack

theorem of_needless (handled : engine.handle item (.needless request) = (final, notes)) :
    Dispatched engine request notes final (.ok none) := by
  have serial : (engine.finish item).nextSynthetic = engine.nextSynthetic := by cases item <;> rfl
  rw [Engine.handle, Engine.record, Engine.table_finish, serial] at handled
  obtain ⟨rfl, rfl⟩ := Prod.mk.inj handled
  refine .needless rfl rfl (fun number lt h => ?_) rfl rfl (engine.table.gains_put ..)
  exact absurd (JobId.fresh_injective h) (Nat.ne_of_lt lt)

/-- A job is created, or the call fails. -/
theorem of_job
    (handled : engine.handle item ((Dispatch.creating request).onJob (client.creation request)) = (final, notes)) :
    Dispatched engine request notes final (client.outcome (.job request)) := by
  rw [JobClient.outcome_job]
  cases h : client.creation request with
  | error failure =>
    rw [h] at handled
    exact .of_failed _ handled
  | ok name =>
    rw [h, Dispatch.onJob, Engine.handle, Engine.record, Engine.table_finish] at handled
    obtain ⟨rfl, rfl⟩ := Prod.mk.inj handled
    exact .created rfl rfl (engine.table.gains_put ..)

/-- The work queue has no part in it. -/
theorem of_work {work : Queue Item} {outcome : Outcome (Option String)}
    (dispatched : Dispatched { engine with work } request notes final outcome) :
    Dispatched engine request notes final outcome := by
  cases dispatched with
  | refused refusal code noted table => exact .refused refusal code noted table
  | created result_eq noted table => exact .created result_eq noted table
  | needless result_eq job_eq fresh next noted table =>
    exact .needless result_eq job_eq fresh next noted table

end Dispatched

/-- The calls before the last one have shown that there is more to be asked for. What came of the last one settles the
    dispatch. -/
theorem JobClient.dispatched_settle {client : JobClient} {engine final : Engine} {item : Option Item}
    {request : Request} {notes : List Note} {dispatch : Dispatch} (asked : dispatch.asks ≠ none)
    (of : dispatch.IsOf request)
    (handled : engine.handle item (client.settle dispatch).2 = (final, notes)) :
    ∃ front last, (client.settle dispatch).1 = front ++ [last] ∧
      (∀ ask ∈ front, client.outcome ask = .ok none) ∧
      Dispatched engine request notes final (client.outcome last) := by
  cases dispatch with
  | creating =>
    obtain rfl := of
    exact ⟨[], _, rfl, fun _ h => absurd h List.not_mem_nil, .of_job handled⟩
  | asking =>
    obtain rfl := of
    rw [settle] at handled ⊢
    rcases answer : client.present _ with failure | _ | _ <;> rw [answer] at handled
    · refine ⟨[], _, rfl, fun _ h => absurd h List.not_mem_nil, ?_⟩
      rw [outcome, answer]
      exact .of_failed _ handled
    · refine ⟨[.presence _], _, rfl, fun ask h => ?_, .of_job handled⟩
      rw [List.mem_singleton.1 h, outcome, answer]
      rfl
    · refine ⟨[], _, rfl, fun _ h => absurd h List.not_mem_nil, ?_⟩
      rw [outcome, answer]
      exact .of_needless handled
  | _ => exact absurd rfl asked

/-- A dispatch that is over has touched nothing but the table, the serial numbers and, for an item, the work queue. -/
theorem Engine.handle_frame {engine final : Engine} {item : Option Item} {dispatch : Dispatch} {notes : List Note}
    (finished : dispatch.asks = none) (handled : engine.handle item dispatch = (final, notes)) :
    final = { engine with
      inHand := none
      table := final.table
      work := final.work
      nextSynthetic := final.nextSynthetic } ∧ (item = none → final.work = engine.work) := by
  obtain ⟨rfl, rfl⟩ := Prod.mk.inj handled
  cases dispatch with
  | asking | creating => exact absurd finished (Option.some_ne_none _)
  | _ => cases item <;> exact ⟨rfl, fun h => by first | rfl | cases h⟩

theorem JobClient.asks_settle (client : JobClient) (dispatch : Dispatch) :
    (client.settle dispatch).2.asks = none := by
  cases dispatch with
  | asking request =>
    rw [settle]
    rcases client.present request with _ | _ | _
    · rfl
    · exact asks_onJob _ _
    · rfl
  | creating request => exact asks_onJob _ _
  | _ => rfl

/-- A request that is taken up is at the first point of its dispatch. -/
theorem Engine.TakesUp.act_eq {engine : Engine} {request : Request} {move : Move}
    (takesUp : engine.TakesUp request move) :
    engine.inHand = none ∧ ∃ work item, (move = .dispatch request → work = engine.work ∧ item = none) ∧
      engine.act move =
        ({ engine with work } : Engine).handle item (.first engine.settings.policy request) := by
  cases takesUp with
  | called idle =>
    refine ⟨idle, engine.work, none, fun _ => ⟨rfl, rfl⟩, ?_⟩
    rw [act, idle]
    rfl
  | @taken idle going work next belongs =>
    refine ⟨idle, work, some (.image request), Move.noConfusion, ?_⟩
    rw [act, idle, going, next]
    exact if_neg belongs

/-- A request that is taken up is dispatched to the end, whatever the client answers, and in one way only. A purge
    asks for one job; any other work asks for one job if the policy or the image leaves nothing to be decided, and
    otherwise asks the node, and for one job if the node does not have the image. All calls but the last go well. If
    the last one fails, the dispatch fails with its code, and the table stays as it is; otherwise the one entry of
    the request comes into the table, of the job that was created or of a synthetic one, and nothing else happens to
    the table. -/
theorem dispatch_decides_and_records (client : JobClient) (engine : Engine) (request : Request) (move : Move)
    (takesUp : engine.TakesUp request move) :
    (engine.act move).2 = [] ∧ (∃ asks notes final, client.Leads (engine.act move).1 asks notes final) ∧
    ∀ asks notes final, client.Leads (engine.act move).1 asks notes final →
      client.Decides engine.settings.policy request asks ∧
      (∃ front last, asks = front ++ [last] ∧ (∀ ask ∈ front, client.outcome ask = .ok none) ∧
        Dispatched engine request notes final (client.outcome last)) ∧
      final = { engine with
        table := final.table
        work := final.work
        nextSynthetic := final.nextSynthetic } ∧
      (move = .dispatch request → final.work = engine.work) := by
  obtain ⟨idle, work, item, direct, hact⟩ := takesUp.act_eq
  have asked : (Dispatch.first engine.settings.policy request).asks ≠ none := by
    rw [Dispatch.first]
    split <;> exact Option.some_ne_none _
  rw [hact]
  refine ⟨by rw [Engine.handle_of_asks asked],
    ⟨_, _, _, (JobClient.leads_iff asked).2 ⟨rfl, rfl⟩⟩, fun asks notes final leads => ?_⟩
  obtain ⟨rfl, handled⟩ := (JobClient.leads_iff asked).1 leads
  obtain ⟨frame, stays⟩ := Engine.handle_frame (client.asks_settle _) handled
  obtain ⟨front, last, split, well, dispatched⟩ :=
    JobClient.dispatched_settle asked (Dispatch.isOf_first _ _) handled
  refine ⟨client.decides_settle _ _, ⟨front, last, split, well, dispatched.of_work⟩, ?_, fun hmove => ?_⟩
  · rw [← idle] at frame
    exact frame
  · obtain ⟨rfl, hitem⟩ := direct hmove
    exact stays hitem

/-- A client that finds an image on no node, and hands out the same name for all jobs. -/
def JobClient.monotonous : JobClient := ⟨fun _ => .ok false, fun _ => .ok "j", fun _ => .ok "j"⟩

/-- The request to pull an image on the node `a` for the image cache `w`. -/
def Request.pulling (image : String) : Request :=
  { image, node := .named "a", runtimeVersion := "", kind := .create, cache := .named "w" }

theorem dispatch_decides_and_records_tagged :
    (Engine.new {} {} {}).TakesUp (.pulling "x:1") (.dispatch (.pulling "x:1")) ∧
    ∃ final, JobClient.monotonous.Leads ((Engine.new {} {} {}).act (.dispatch (.pulling "x:1"))).1
        [.presence (.pulling "x:1"), .pull (.pulling "x:1")]
        [.recorded (.real "j") ⟨.pulling "x:1", .jobCreated, "", ""⟩] final ∧
      final.table.size = 1 := by
  have takesUp : (Engine.new {} {} {}).TakesUp (.pulling "x:1") (.dispatch (.pulling "x:1")) := .called rfl
  obtain ⟨-, ⟨asks, notes, final, leads⟩, all⟩ :=
    dispatch_decides_and_records .monotonous (.new {} {} {}) (.pulling "x:1") _ takesUp
  obtain ⟨decides, ⟨front, last, split, -, dispatched⟩, -⟩ := all _ _ _ leads
  have asked : ¬ (PullPolicy.ifNotPresent = .always ∨ Image.Floats "x:1".toList) := by
    rw [← PullPolicy.pullsUnasked_iff]
    decide
  have hasks : asks = [.presence (.pulling "x:1"), .pull (.pulling "x:1")] := decides.asked (by decide) asked
  have parts : [Ask.presence (.pulling "x:1")] ++ [.pull (.pulling "x:1")] = front ++ [last] :=
    hasks.symm.trans split
  obtain rfl := List.singleton_inj.1 (List.append_inj' parts rfl).2
  cases dispatched with
  | created result_eq noted table =>
    subst result_eq noted hasks
    exact ⟨takesUp, final, leads, table.size⟩

/-- A client that hands out a name again has the second job recorded in place of the first one. The dispatch goes
    well, but there is no entry more, and the one that was there is gone. -/
theorem dispatch_replaces :
    let first := Request.pulling "x:1"
    let second := Request.pulling "y:1"
    let engine := (Engine.new { policy := .always } {} {}).after [.dispatch first, .job (.ok "j")]
    ∃ final, engine.TakesUp second (.dispatch second) ∧
      JobClient.monotonous.Leads (engine.act (.dispatch second)).1 [.pull second]
        [.recorded (.real "j") ⟨second, .jobCreated, "", ""⟩] final ∧
      JobClient.monotonous.outcome (.pull second) = .ok (some "j") ∧
      engine.table.size = 1 ∧ final.table.size = 1 ∧
      engine.table.entries.map (·.result.request.image) = ["x:1"] ∧
      final.table.entries.map (·.result.request.image) = ["y:1"] :=
  ⟨_, .called rfl, .ask rfl rfl (.finished rfl), rfl, rfl, rfl, rfl, rfl⟩

end NodeImages.Work
