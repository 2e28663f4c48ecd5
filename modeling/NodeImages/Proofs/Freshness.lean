import NodeImages.Proofs.Queue
import NodeImages.Work.Reporting

/-!
# Reports in order

The reporter writes the reports of an image cache one after the other, each over the one before. A report that
could not be written is put in again behind those that have come in since, so it may be written over a newer one.
Nothing is overtaken so long as a report comes in only when no other of its key waits to be tried again, and a
report fails only when no other of its key is in the queue (`Reporting.Overtakes`).

* `Reporting.Move`: what the reporter does, and what happens to its queue meanwhile;
* `Reporting.Aligned`, `Turnover`: the reports of a key that are outstanding are in the order in which they came
  in, kept by `act_turnover`;
* `written_in_order`: unless something is overtaken, an older report is not written any more once a newer one has
  been, and the one that is written last is the newest of those that are written;
* `older_written_last`: a retry that is written over a newer report.
-/

namespace NodeImages.Work

namespace Reporting

/-! ## Courses of a reporter -/

/-- What the reporter does between two points at which it waits, or what happens to its queue. -/
inductive Move
  /-- A report is put into the queue. -/
  | add (report : Report)
  /-- A timer of the queue falls due. -/
  | fire (timer : Nat)
  /-- The reporter stops, or takes the next report. -/
  | take
  /-- The writing of the report in hand has gone well, or has failed. -/
  | written (outcome : Outcome Unit)
  /-- Time passes. -/
  | tick (time : Nat)
  /-- The reporter is told to stop. -/
  | stop
  /-- The queue is closed. -/
  | close

/-- A reporter with an empty queue. -/
def new (config : QueueConfig) : Reporting where
  queue := { config }

/-- What a move makes of the reporter and its queue. -/
def act (reporting : Reporting) : Move → Reporting
  | .add report => { reporting with queue := reporting.queue.add report }
  | .fire timer => { reporting with queue := reporting.queue.fire timer }
  | .take => reporting.take
  | .written outcome => reporting.written outcome
  | .tick time => { reporting with now := reporting.now + time }
  | .stop => { reporting with stopping := true }
  | .close => { reporting with queue := reporting.queue.close }

/-- The reporter after a row of moves. -/
def after (reporting : Reporting) (moves : List Move) : Reporting := moves.foldl act reporting

/-- The reports of a key. -/
def ofKey (key : String) (reports : List Report) : List Report :=
  reports.filter (Keyed.key · = key)

/-- The reports of a key that come in with a move. A closed queue takes in nothing. -/
def addedBy (key : String) (reporting : Reporting) : Move → List Report
  | .add report => if reporting.queue.closed then [] else ofKey key [report]
  | _ => []

/-- The reports of a key that have been written with a move. -/
def writtenBy (key : String) (reporting : Reporting) : Move → List Report
  | .written (.ok ()) => ofKey key reporting.inHand.toList
  | _ => []

/-- What comes up in the moves of a row, one after the other. -/
def along (f : Reporting → Move → List Report) : Reporting → List Move → List Report
  | _, [] => []
  | reporting, move :: rest => f reporting move ++ along f (reporting.act move) rest

/-- The reports of a key that come in, in this order. -/
def added (key : String) : Reporting → List Move → List Report := along (addedBy key)

/-- The reports of a key that are written, in this order. -/
def reported (key : String) : Reporting → List Move → List Report := along (writtenBy key)

/-- A move lets reports of a key overtake one another: one comes in while another waits to be tried again, or
    one that has failed is put behind another. -/
def Overtakes (key : String) (reporting : Reporting) : Move → Prop
  | .add report => Keyed.key report = key ∧ ofKey key (reporting.queue.timers.map (·.item)) ≠ []
  | .written (.error _) => ∃ report, reporting.inHand = some report ∧ Keyed.key report = key ∧
      reporting.queue.mayRetry report = true ∧ ofKey key reporting.queue.items ≠ []
  | _ => False

/-- No report of a key is overtaken in a row of moves. -/
def Orderly (key : String) : Reporting → List Move → Prop
  | _, [] => True
  | reporting, move :: rest => ¬ reporting.Overtakes key move ∧ Orderly key (reporting.act move) rest

/-! ## What is outstanding -/

/-- The reports of a key that are yet to be done with: the one in hand first, and those in the queue last. -/
def outstanding (key : String) (reporting : Reporting) : List Report :=
  ofKey key reporting.inHand.toList ++ ofKey key (reporting.queue.timers.map (·.item)) ++
    ofKey key reporting.queue.items

/-- A report of a key that waits to be tried again is the only one of its key. -/
structure Aligned (key : String) (reporting : Reporting) : Prop where
  sound : reporting.queue.Sound
  alone : ofKey key (reporting.queue.timers.map (·.item)) = [] ∨
    ∃ report, ofKey key (reporting.queue.timers.map (·.item)) = [report] ∧
      ofKey key reporting.inHand.toList = [] ∧ ofKey key reporting.queue.items = []

/-- Of what is outstanding, that which comes in comes last, and that which goes was first. What is written is
    part of what goes. -/
def Turnover (before came written after : List Report) : Prop :=
  ∃ gone, before ++ came = gone ++ after ∧ written.Sublist gone

variable {key : String} {reporting : Reporting} {report : Report}

@[simp] theorem ofKey_nil : ofKey key [] = [] := rfl

/-- The reports of a key are found in either part of a row. -/
@[simp] theorem ofKey_append (reports late : List Report) :
    ofKey key (reports ++ late) = ofKey key reports ++ ofKey key late :=
  List.filter_append ..

theorem ofKey_cons (reports : List Report) :
    ofKey key (report :: reports) = ofKey key [report] ++ ofKey key reports :=
  ofKey_append [report] reports

theorem ofKey_singleton_of_eq (h : Keyed.key report = key) : ofKey key [report] = [report] :=
  List.filter_cons_of_pos (by simpa using h)

theorem ofKey_singleton_of_ne (h : Keyed.key report ≠ key) : ofKey key [report] = [] :=
  List.filter_cons_of_neg (by simpa using h)

namespace Turnover

variable {a b c came came' written written' : List Report}

theorem refl (a : List Report) : Turnover a [] [] a := ⟨[], by simp, .slnil⟩

theorem of_eq (h : a = b) : Turnover a [] [] b := h ▸ refl a

/-- What is turned over in two steps is turned over in both together. -/
theorem trans (h : Turnover a came written b) (h' : Turnover b came' written' c) :
    Turnover a (came ++ came') (written ++ written') c := by
  obtain ⟨gone, heq, hsub⟩ := h
  obtain ⟨gone', heq', hsub'⟩ := h'
  refine ⟨gone ++ gone', ?_, hsub.append hsub'⟩
  rw [← List.append_assoc, heq, List.append_assoc, heq', List.append_assoc]

end Turnover

namespace Aligned

/-- A reporter that has just been set up has nothing of any key. -/
theorem new (key : String) (config : QueueConfig) : (Reporting.new config).Aligned key :=
  ⟨.new config, .inl rfl⟩

/-- While a report of the key is in hand or in the queue, none waits to be tried again. -/
theorem timers_eq_nil (aligned : reporting.Aligned key)
    (h : ofKey key reporting.inHand.toList ≠ [] ∨ ofKey key reporting.queue.items ≠ []) :
    ofKey key (reporting.queue.timers.map (·.item)) = [] := by
  rcases aligned.alone with hnone | ⟨_, -, hhand, hitems⟩
  · exact hnone
  · rcases h with h | h
    · exact absurd hhand h
    · exact absurd hitems h

/-- There are not enough timers of the key to be in another order. -/
theorem eq_of_perm (aligned : reporting.Aligned key) {reports : List Report}
    (h : (ofKey key (reporting.queue.timers.map (·.item))).Perm reports) :
    reports = ofKey key (reporting.queue.timers.map (·.item)) := by
  rcases aligned.alone with hnone | ⟨other, hone, -⟩
  · rw [hnone] at h ⊢
    exact List.nil_perm.1 h
  · rw [hone] at h ⊢
    exact List.singleton_perm.1 h |>.symm

end Aligned

/-! ## Moves -/

/-- What a move makes of the reports of a key. -/
structure Keeps (key : String) (reporting : Reporting) (move : Move) : Prop where
  aligned : (reporting.act move).Aligned key
  turnover : Turnover (outstanding key reporting) (addedBy key reporting move) (writtenBy key reporting move)
    (outstanding key (reporting.act move))

/-- A move in which no report of the key is touched. -/
theorem Keeps.of_same {move : Move} (aligned : reporting.Aligned key)
    (sound : (reporting.act move).queue.Sound)
    (hand : ofKey key (reporting.act move).inHand.toList = ofKey key reporting.inHand.toList)
    (timers : ofKey key ((reporting.act move).queue.timers.map (·.item)) =
      ofKey key (reporting.queue.timers.map (·.item)))
    (items : ofKey key (reporting.act move).queue.items = ofKey key reporting.queue.items)
    (came : addedBy key reporting move = []) (written : writtenBy key reporting move = []) :
    Keeps key reporting move := by
  refine ⟨⟨sound, by rw [hand, timers, items]; exact aligned.alone⟩, ?_⟩
  rw [came, written]
  exact .of_eq (by rw [outstanding, outstanding, hand, timers, items])

/-- A report that comes in is the last of its key, unless it overtakes one that waits. -/
theorem keeps_add (aligned : reporting.Aligned key) (h : ¬ reporting.Overtakes key (.add report)) :
    Keeps key reporting (.add report) := by
  have sound : (reporting.queue.add report).Sound := aligned.sound.accept report
  by_cases hclosed : reporting.queue.closed = true
  · have hsame : reporting.act (.add report) = reporting := by
      rw [act, Queue.add, Queue.accept, if_pos hclosed]
    exact .of_same aligned sound (by rw [hsame]) (by rw [hsame]) (by rw [hsame]) (if_pos hclosed) rfl
  · have hact : reporting.act (.add report) =
        { reporting with queue := { reporting.queue with items := reporting.queue.items ++ [report] } } := by
      rw [act, Queue.add, Queue.accept, if_neg hclosed]
    refine ⟨⟨sound, ?_⟩, ?_⟩
    · rw [hact]
      dsimp only
      rw [ofKey_append]
      -- A report that comes in beside one that waits is of another key.
      refine aligned.alone.imp_right ?_
      rintro ⟨other, hone, hhand, hnone⟩
      refine ⟨other, hone, hhand, ?_⟩
      rw [hnone, List.nil_append]
      refine ofKey_singleton_of_ne fun hkey => h ⟨hkey, ?_⟩
      rw [hone]
      exact List.cons_ne_nil _ _
    · rw [addedBy, if_neg hclosed, hact, outstanding, outstanding]
      dsimp only
      rw [ofKey_append, ← List.append_assoc]
      exact ⟨[], rfl, .slnil⟩

/-- A timer that falls due puts back what waited for it. -/
theorem keeps_fire (aligned : reporting.Aligned key) (timer : Nat) :
    Keeps key reporting (.fire timer) := by
  have sound := aligned.sound.fire timer
  rcases aligned.sound.fire_cases timer with ⟨hitems, htimers⟩ | ⟨item, hperm, hitems⟩
  · exact .of_same aligned sound rfl (by rw [act, htimers]) (by rw [act, hitems]) rfl rfl
  · have hsame := aligned.eq_of_perm (hperm.filter (Keyed.key · = key))
    rw [← ofKey, ofKey_cons] at hsame
    by_cases hkey : Keyed.key item = key
    · -- The only report of the key that waits joins the others, or is dropped by a closed queue.
      rw [ofKey_singleton_of_eq hkey] at hsame
      rcases aligned.alone with hnone | ⟨other, hone, hhand, hnone⟩
      · rw [hnone] at hsame
        exact absurd hsame (List.cons_ne_nil _ _)
      · rw [hone] at hsame
        obtain ⟨rfl, htimers⟩ : item = other ∧
            ofKey key ((reporting.queue.fire timer).timers.map (·.item)) = [] := by
          simpa using hsame
        refine ⟨⟨sound, .inl htimers⟩, ?_⟩
        rw [outstanding, outstanding, hone, hhand, hnone, act]
        dsimp only
        rw [hhand, htimers]
        rcases hitems with hitems | hitems
        · rw [hitems, hnone]
          exact ⟨[item], rfl, List.nil_sublist _⟩
        · rw [hitems, ofKey_append, hnone, ofKey_singleton_of_eq hkey]
          exact .refl _
    · rw [ofKey_singleton_of_ne hkey, List.nil_append] at hsame
      refine .of_same aligned sound rfl hsame ?_ rfl rfl
      rcases hitems with hitems | hitems
      · rw [act, hitems]
      · rw [act, hitems, ofKey_append, ofKey_singleton_of_ne hkey, List.append_nil]

/-- A reporter takes the first report, if it is idle and there is one. -/
theorem take_cases (reporting : Reporting) :
    (reporting.take.queue = reporting.queue ∧ reporting.take.inHand = reporting.inHand) ∨
    ∃ report rest processing, reporting.inHand = none ∧ reporting.queue.items = report :: rest ∧
      reporting.take = { reporting with
        queue := { reporting.queue with items := rest, processing }, inHand := some report } := by
  rw [take]
  split
  · exact .inl ⟨rfl, rfl⟩
  · rename_i hidle
    split
    · exact .inl ⟨rfl, rfl⟩
    · split
      · rename_i queue report htake
        obtain ⟨rest, processing, hitems, rfl⟩ := Queue.take_eq_item htake
        refine .inr ⟨report, rest, processing, ?_, hitems, rfl⟩
        rw [Bool.or_eq_true, not_or, Option.not_isSome_iff_eq_none] at hidle
        exact hidle.2
      · exact .inl ⟨rfl, rfl⟩
      · exact .inl ⟨rfl, rfl⟩

/-- What is taken was in front, so that the order is kept. -/
theorem keeps_take (aligned : reporting.Aligned key) : Keeps key reporting .take := by
  rcases take_cases reporting with ⟨hqueue, hhand⟩ | ⟨report, rest, processing, hhand, hitems, htake⟩
  · have hact : (reporting.act .take).queue = reporting.queue := hqueue
    exact .of_same aligned (hact ▸ aligned.sound) (congrArg (ofKey key ·.toList) hhand) (by rw [hact])
      (by rw [hact]) rfl rfl
  · have hcons : ofKey key reporting.queue.items = ofKey key [report] ++ ofKey key rest := by
      rw [hitems, ofKey_cons]
    refine ⟨⟨?_, ?_⟩, .of_eq ?_⟩
    · rw [act, htake]
      exact aligned.sound.of_eq rfl rfl rfl
    · -- If a report of the key waits, neither the one that is taken nor the others are of the key.
      rw [act, htake]
      refine aligned.alone.imp_right ?_
      rintro ⟨other, hone, -, hnone⟩
      rw [hcons, List.append_eq_nil_iff] at hnone
      exact ⟨other, hone, hnone⟩
    · rw [act, htake, outstanding, outstanding, hhand, hcons]
      dsimp only [Option.toList]
      rcases aligned.alone with hnone | ⟨other, hone, -, hnone⟩
      · rw [hnone]
        simp
      · rw [hcons, List.append_eq_nil_iff] at hnone
        rw [hone, hnone.1, hnone.2]
        rfl

/-- The report in hand is done with, or is put in again where it overtakes none of its key. -/
theorem Aligned.written (aligned : reporting.Aligned key) (hand : reporting.inHand = some report)
    (hkey : Keyed.key report = key) (queue : Queue Report) (sound : queue.Sound)
    {written : List Report} (sub : written.Sublist [report])
    (h : (queue.items = reporting.queue.items ∧ queue.timers = reporting.queue.timers) ∨
      written = [] ∧ ofKey key reporting.queue.items = [] ∧
        (queue.items = reporting.queue.items ++ [report] ∧ queue.timers = reporting.queue.timers ∨
          queue.items = reporting.queue.items ∧
            queue.timers.map (·.item) = reporting.queue.timers.map (·.item) ++ [report])) :
    ({ reporting with inHand := none, queue } : Reporting).Aligned key ∧
      Turnover (outstanding key reporting) [] written
        (outstanding key { reporting with inHand := none, queue }) := by
  have hone := ofKey_singleton_of_eq hkey
  -- As a report of the key is in hand, no other waits to be tried again.
  have hnone := aligned.timers_eq_nil (.inl (by
    rw [hand, Option.toList, hone]
    exact List.cons_ne_nil _ _))
  have hbefore : outstanding key reporting = report :: ofKey key reporting.queue.items := by
    rw [outstanding, hand, hnone, Option.toList, hone]
    rfl
  rw [hbefore, outstanding]
  dsimp only [Option.toList]
  rcases h with ⟨items, timers⟩ | ⟨rfl, hitems, ⟨items, timers⟩ | ⟨items, timers⟩⟩
  · refine ⟨⟨sound, .inl (timers ▸ hnone)⟩, [report], ?_, sub⟩
    rw [items, timers, hnone]
    simp
  · refine ⟨⟨sound, .inl (timers ▸ hnone)⟩, .of_eq ?_⟩
    rw [items, timers, hnone, ofKey_append, hitems, hone]
    rfl
  · have hwaits : ofKey key (queue.timers.map (·.item)) = [report] := by
      rw [timers, ofKey_append, hnone, hone]
      rfl
    refine ⟨⟨sound, .inr ⟨report, hwaits, rfl, items ▸ hitems⟩⟩, .of_eq ?_⟩
    rw [items, hwaits, hitems]
    rfl

/-- The writing of the report in hand is over, and its report leaves the queue or is put in again. -/
theorem written_cases (hand : reporting.inHand = some report) (sound : reporting.queue.Sound)
    (outcome : Outcome Unit) :
    ∃ queue, reporting.written outcome = { reporting with inHand := none, queue } ∧ queue.Sound ∧
      ((queue.items = reporting.queue.items ∧ queue.timers = reporting.queue.timers) ∨
        (∃ failure, outcome = .error failure) ∧ reporting.queue.mayRetry report = true ∧
          (queue.items = reporting.queue.items ++ [report] ∧ queue.timers = reporting.queue.timers ∨
            queue.items = reporting.queue.items ∧
              queue.timers.map (·.item) = reporting.queue.timers.map (·.item) ++ [report])) := by
  have sound' : (reporting.queue.done report).Sound := sound.of_eq rfl rfl rfl
  rw [written, hand]
  cases outcome with
  | ok => exact ⟨_, rfl, sound'.of_eq rfl rfl rfl, .inl ⟨rfl, rfl⟩⟩
  | error failure =>
    refine ⟨_, rfl, sound'.requeue _ _, ?_⟩
    exact ((reporting.queue.done report).requeue_cases reporting.now report).imp_right
      fun ⟨retry, last⟩ => ⟨⟨failure, rfl⟩, retry, last⟩

/-- A report that was written is done with, and one that was not is put back, so long as it overtakes none. -/
theorem keeps_written (aligned : reporting.Aligned key) (outcome : Outcome Unit)
    (h : ¬ reporting.Overtakes key (.written outcome)) : Keeps key reporting (.written outcome) := by
  cases hand : reporting.inHand with
  | none =>
    have hsame : reporting.act (.written outcome) = reporting := by rw [act, written, hand]
    refine .of_same aligned (by rw [hsame]; exact aligned.sound) (by rw [hsame]) (by rw [hsame])
      (by rw [hsame]) rfl ?_
    cases outcome with
    | error failure => rfl
    | ok => rw [writtenBy, hand, Option.toList, ofKey_nil]
  | some report =>
    obtain ⟨queue, hact, sound, hqueue⟩ := written_cases hand aligned.sound outcome
    rw [← act] at hact
    have hwritten : (writtenBy key reporting (.written outcome)).Sublist (ofKey key [report]) := by
      cases outcome with
      | error failure => exact List.nil_sublist _
      | ok => rw [writtenBy, hand, Option.toList]
    by_cases hkey : Keyed.key report = key
    · rw [ofKey_singleton_of_eq hkey] at hwritten
      obtain ⟨aligned', turnover⟩ := aligned.written hand hkey queue sound hwritten
        (hqueue.imp_right fun ⟨⟨failure, hfailed⟩, retry, last⟩ => by
          subst hfailed
          exact ⟨rfl, by_contra fun hitems => h ⟨report, hand, hkey, retry, hitems⟩, last⟩)
      exact ⟨hact ▸ aligned', hact ▸ turnover⟩
    · -- A report of another key leaves those of the key alone, wherever it goes.
      have hnone := ofKey_singleton_of_ne hkey
      rw [hnone, List.sublist_nil] at hwritten
      refine .of_same aligned (hact ▸ sound) (by rw [hact, hand]; exact hnone.symm) ?_ ?_ rfl hwritten
      · rw [hact]
        rcases hqueue with ⟨-, timers⟩ | ⟨-, -, ⟨-, timers⟩ | ⟨-, timers⟩⟩
        · rw [timers]
        · rw [timers]
        · rw [timers, ofKey_append, hnone, List.append_nil]
      · rw [hact]
        rcases hqueue with ⟨items, -⟩ | ⟨-, -, ⟨items, -⟩ | ⟨items, -⟩⟩
        · rw [items]
        · rw [items, ofKey_append, hnone, List.append_nil]
        · rw [items]

/-- So long as nothing is overtaken, every move keeps what is outstanding of a key in order. -/
theorem act_turnover (aligned : reporting.Aligned key) {move : Move} (h : ¬ reporting.Overtakes key move) :
    Keeps key reporting move := by
  cases move with
  | add report => exact keeps_add aligned h
  | fire timer => exact keeps_fire aligned timer
  | take => exact keeps_take aligned
  | written outcome => exact keeps_written aligned outcome h
  | tick time => exact .of_same aligned aligned.sound rfl rfl rfl rfl rfl
  | stop => exact .of_same aligned aligned.sound rfl rfl rfl rfl rfl
  | close => exact .of_same aligned (aligned.sound.of_eq rfl rfl rfl) rfl rfl rfl rfl rfl

/-! ## Rows of moves -/

theorem after_append (reporting : Reporting) (early late : List Move) :
    reporting.after (early ++ late) = (reporting.after early).after late := List.foldl_append

theorem along_append {f : Reporting → Move → List Report} (early late : List Move) :
    along f reporting (early ++ late) = along f reporting early ++ along f (reporting.after early) late := by
  induction early generalizing reporting with
  | nil => rfl
  | cons move rest ih =>
    rw [List.cons_append, along, ih, along, List.append_assoc]
    rfl

/-- A row of moves is orderly if its beginning and the rest are. -/
theorem orderly_append {early late : List Move} :
    Orderly key reporting (early ++ late) ↔
      Orderly key reporting early ∧ Orderly key (reporting.after early) late := by
  induction early generalizing reporting with
  | nil => exact (and_iff_right trivial).symm
  | cons move rest ih =>
    rw [List.cons_append, Orderly, ih, Orderly, and_assoc]
    rfl

/-- In a row of moves, what is outstanding of a key stays in order. -/
theorem turnover_after (aligned : reporting.Aligned key) {moves : List Move}
    (orderly : Orderly key reporting moves) :
    (reporting.after moves).Aligned key ∧
      Turnover (outstanding key reporting) (added key reporting moves) (reported key reporting moves)
        (outstanding key (reporting.after moves)) := by
  induction moves generalizing reporting with
  | nil => exact ⟨aligned, .refl _⟩
  | cons move rest ih =>
    have keeps := act_turnover aligned orderly.1
    obtain ⟨aligned', turnover⟩ := ih keeps.aligned orderly.2
    exact ⟨aligned', keeps.turnover.trans turnover⟩

/-- What is in hand is the first of what is outstanding. -/
theorem outstanding_of_inHand (hand : reporting.inHand = some report) (hkey : Keyed.key report = key) :
    ∃ rest, outstanding key reporting = report :: rest := by
  rw [outstanding, hand, Option.toList, ofKey_singleton_of_eq hkey]
  exact ⟨_, rfl⟩

theorem reported_of_written (hand : reporting.inHand = some report) (hkey : Keyed.key report = key)
    (moves : List Move) :
    ∃ others, reported key reporting (.written (.ok ()) :: moves) = report :: others := by
  rw [reported, along, writtenBy, hand, Option.toList, ofKey_singleton_of_eq hkey]
  exact ⟨_, rfl⟩

/-- What is in hand after a report has been written was outstanding behind it, or has come in since. -/
theorem behind_of_written {newer : Report} {moves : List Move} (aligned : reporting.Aligned key)
    (orderly : Orderly key reporting (.written (.ok ()) :: moves))
    (hand : reporting.inHand = some newer) (hkey : Keyed.key newer = key)
    (hand' : (reporting.after (.written (.ok ()) :: moves)).inHand = some report)
    (hkey' : Keyed.key report = key) :
    ∃ rest between younger, outstanding key reporting = newer :: rest ∧
      rest ++ added key reporting (.written (.ok ()) :: moves) = between ++ report :: younger := by
  obtain ⟨-, gone, hadded, hgone⟩ := turnover_after aligned orderly
  obtain ⟨rest, hrest⟩ := outstanding_of_inHand hand hkey
  obtain ⟨younger, hyounger⟩ := outstanding_of_inHand hand' hkey'
  obtain ⟨others, hreported⟩ := reported_of_written hand hkey moves
  rw [hrest, hyounger] at hadded
  -- What has been written is the first of what has gone since.
  cases gone with
  | nil =>
    rw [hreported, List.sublist_nil] at hgone
    exact absurd hgone (List.cons_ne_nil _ _)
  | cons first between => exact ⟨rest, between, younger, hrest, (List.cons.inj hadded).2⟩

/-- Unless reports of a key overtake one another, they are written in the order in which they came in. Once one of
    them has been written, every report of the key that is in hand later came in after it. And of all that have been
    written, the one that was written last is the newest. -/
theorem written_in_order (config : QueueConfig) (key : String) (moves : List Move)
    (orderly : Orderly key (.new config) moves) :
    (∀ early middle late newer report, moves = early ++ .written (.ok ()) :: middle ++ late →
      ((Reporting.new config).after early).inHand = some newer → Keyed.key newer = key →
      ((Reporting.new config).after (early ++ .written (.ok ()) :: middle)).inHand = some report →
      Keyed.key report = key →
      ∃ older rest between younger, added key (.new config) early = older ++ newer :: rest ∧
        added key (.new config) (early ++ .written (.ok ()) :: middle) =
          older ++ newer :: (between ++ report :: younger)) ∧
    ∀ earlier last, reported key (.new config) moves = earlier ++ [last] →
      ∃ older younger, added key (.new config) moves = older ++ last :: younger ∧
        earlier.Sublist older := by
  have aligned : (Reporting.new config).Aligned key := .new key config
  constructor
  · rintro early middle late newer report rfl hand hkey hand' hkey'
    obtain ⟨hearly, hmiddle⟩ := orderly_append.1 (orderly_append.1 orderly).1
    obtain ⟨aligned', older, hadded, -⟩ := turnover_after aligned hearly
    rw [after_append] at hand'
    obtain ⟨rest, between, younger, hrest, hsince⟩ :=
      behind_of_written aligned' hmiddle hand hkey hand' hkey'
    rw [hrest] at hadded
    -- Nothing was outstanding at first, so all that has gone or is outstanding has come in.
    have hcame : along (addedBy key) (.new config) early = older ++ newer :: rest := hadded
    refine ⟨older, rest, between, younger, hcame, ?_⟩
    rw [added, along_append, hcame, List.append_assoc, List.cons_append]
    exact congrArg (older ++ newer :: ·) hsince
  · intro earlier last hreported
    obtain ⟨-, gone, hadded, hsub⟩ := turnover_after aligned orderly
    rw [hreported] at hsub
    obtain ⟨older, newest, rfl, hearlier, hlast⟩ := List.append_sublist_iff.1 hsub
    obtain ⟨between, younger, rfl⟩ := List.append_of_mem (List.singleton_sublist.1 hlast)
    have hcame : added key (.new config) moves = _ := hadded
    refine ⟨older ++ between, younger ++ outstanding key ((Reporting.new config).after moves), ?_,
      hearlier.trans (List.sublist_append_left ..)⟩
    rw [hcame]
    simp

/-! ## A retry in time, and one that comes too late -/

/-- The report of a batch of the image cache `w`, with a result for each of some jobs. -/
def reportOf (jobs : List String) : Report :=
  let request : Request :=
    { image := "x:1", node := .named "a", runtimeVersion := "", kind := .create, cache := .named "w" }
  .status ⟨request.cacheKey, jobs.map fun job => (.real job, { request, status := .succeeded })⟩

/-- A report fails at first, and is written before the next one comes in. -/
theorem written_in_order_retry :
    let key := (reportOf ["j"]).key
    let moves : List Move := [.add (reportOf ["j"]), .take, .written (.error .missing), .fire 0, .take,
      .written (.ok ()), .add (reportOf ["k"]), .take, .written (.ok ())]
    Orderly key (.new {}) moves ∧
      reported key (.new {}) moves = [reportOf ["j"]] ++ [reportOf ["k"]] ∧
      ∃ older younger, added key (.new {}) moves = older ++ reportOf ["k"] :: younger ∧
        [reportOf ["j"]].Sublist older := by
  intro key moves
  have orderly : Orderly key (.new {}) moves := by
    refine ⟨?_, id, ?_, id, id, id, ?_, id, id, trivial⟩
    · exact fun h => h.2 rfl
    · rintro ⟨-, -, -, -, hitems⟩
      exact hitems rfl
    · exact fun h => h.2 rfl
  have hreported : reported key (.new {}) moves = [reportOf ["j"]] ++ [reportOf ["k"]] := rfl
  exact ⟨orderly, hreported, (written_in_order {} key moves orderly).2 _ _ hreported⟩

/-- A report fails, and the next one of the same image cache has come in before; its retry is written over the
    newer one. -/
theorem older_written_last :
    let key := (reportOf ["j"]).key
    let moves : List Move := [.add (reportOf ["j"]), .add (reportOf ["k"]), .take,
      .written (.error .missing), .take, .written (.ok ()), .fire 0, .take, .written (.ok ())]
    added key (.new {}) moves = [reportOf ["j"], reportOf ["k"]] ∧
      reported key (.new {}) moves = [reportOf ["k"], reportOf ["j"]] ∧
      outstanding key ((Reporting.new {}).after moves) = [] := by
  refine ⟨rfl, rfl, rfl⟩

end Reporting

end NodeImages.Work
