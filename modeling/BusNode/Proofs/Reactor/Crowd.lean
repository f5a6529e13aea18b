/-
This file proves that a queue which many use at once keeps its promise. Whoever has their turn
between two strokes of a publication, no event is lost, none comes twice, and those that join at the
back are taken in the order in which they joined.

The queue does not know who has published what. So the proof keeps a shelf beside it, on which every
publication stands that has joined. Of a shelf all this is plain, and the events on it are those in
the queue.
-/
import BusNode.Proofs.Guarded
import BusNode.Proofs.Reactor.Core
import BusNode.Proofs.Reactor.Strokes

namespace BusNode.Reactor.Crowd

variable {queueDepth traceDepth : Depth} {timerCount : Nat}

/-! ### What happens in a crowd -/

/-- An event that someone publishes. -/
structure Publication where
  source : Source
  place : QueueEnd
  event : Event

/-- Whether an event is one that someone publishes, and not a null event. -/
def Publication.isBy (source : Source) (publication : Publication) : Bool :=
  publication.source = source && !publication.event.isNil

theorem Publication.real_of_isBy {source : Source} {publication : Publication}
    (own : publication.isBy source = true) : publication.event.isNil = false := by
  simpa using (Bool.and_eq_true_iff.mp own).2

inductive Occurrence where
  /-- Someone sets out to publish an event. -/
  | begun (publication : Publication)
  /-- An event joins the queue. -/
  | joined (publication : Publication)
  | refused (publication : Publication)
  | taken (event : Event)

/-- What the timers set out to publish. -/
def ringing (emissions : List Emission) : List Publication :=
  emissions.filterMap fun
    | .publish event => some { source := .timers, place := .back, event }
    | .trace _ | .note _ => none

def occurrences (crowd : Crowd queueDepth traceDepth timerCount) : Step traceDepth → List Occurrence
  | .publish name place event => [.begun { source := .producer name, place, event }]
  | .order order => (ringing (order.apply crowd.reactor.timers).1).map .begun
  | .go source _ =>
    match crowd.todo source with
    | .insert place event :: _ =>
      match crowd.reactor.queue.insert? place event with
      | some _ => [.joined { source, place, event }]
      | none => [.refused { source, place, event }]
    | _ => []
  | .take =>
    match crowd.reactor.next? with
    | none => []
    | some (event, _) => [.taken event]
  | .edit _ => []

/-- What happens in a run. -/
def history (crowd : Crowd queueDepth traceDepth timerCount) :
    List (Step traceDepth) → List Occurrence
  | [] => []
  | step :: rest => crowd.occurrences step ++ (crowd.step step).history rest

section History

variable (past : List Occurrence)

/-- What someone has set out to publish, in order. -/
def begun : List Publication :=
  past.filterMap fun | .begun publication => some publication | _ => none

/-- What was offered to the queue, in order. -/
def offered : List Publication :=
  past.filterMap fun
    | .joined publication | .refused publication => some publication
    | _ => none

/-- What has joined the queue, in order. -/
def joined : List Publication :=
  past.filterMap fun | .joined publication => some publication | _ => none

/-- The events that were taken from the queue, in order. -/
def dequeued : List Event := past.filterMap fun | .taken event => some event | _ => none

theorem joined_sublist : (joined past).Sublist (offered past) := by
  induction past with
  | nil => exact .slnil
  | cons occurrence rest inductionHypothesis =>
    cases occurrence with
    | begun publication => exact inductionHypothesis
    | joined publication => exact inductionHypothesis.cons_cons publication
    | refused publication => exact inductionHypothesis.cons publication
    | taken event => exact inductionHypothesis

end History

/-! ### Shelves -/

/-- The publications that were taken and those that wait. -/
structure Shelf where
  taken : List Publication := []
  waiting : List Publication := []

namespace Shelf

/-- What has joined stands on the shelf until it is taken from its front. -/
def after (shelf : Shelf) : Occurrence → Shelf
  | .joined publication =>
    match publication.place with
    | .back => { shelf with waiting := shelf.waiting ++ [publication] }
    | .front => { shelf with waiting := publication :: shelf.waiting }
  | .taken _ => { taken := shelf.taken ++ shelf.waiting.take 1, waiting := shelf.waiting.drop 1 }
  | .begun _ | .refused _ => shelf

/-- What was ever on the shelf. -/
def all (shelf : Shelf) : List Publication := shelf.taken ++ shelf.waiting

/-- The shelf when some things have happened. -/
def of (past : List Occurrence) : Shelf := past.foldl after {}

/-- What may happen to a shelf with some room: there is a place for what joins and none for what is
refused, and what is taken is the event at the front. -/
def allows (room : Nat) (shelf : Shelf) : Occurrence → Prop
  | .begun _ => True
  | .joined _ => shelf.waiting.length < room
  | .refused _ => shelf.waiting.length = room
  | .taken event => ∃ publication rest, shelf.waiting = publication :: rest ∧
      publication.event = event

theorem foldl_begun (shelf : Shelf) (publications : List Publication) :
    (publications.map .begun).foldl after shelf = shelf := by
  induction publications with
  | nil => rfl
  | cons publication rest inductionHypothesis => exact inductionHypothesis

theorem of_append (past : List Occurrence) (occurrence : Occurrence) :
    of (past ++ [occurrence]) = (of past).after occurrence := List.foldl_append

theorem all_taken (shelf : Shelf) (event : Event) :
    (shelf.after (.taken event)).all = shelf.all := by
  rw [all, after, List.append_assoc, List.take_append_drop, all]

theorem perm_joined (shelf : Shelf) (publication : Publication) :
    (shelf.after (.joined publication)).all.Perm (publication :: shelf.all) := by
  obtain ⟨source, place, event⟩ := publication
  cases place with
  | back =>
    refine .trans (.of_eq (List.append_assoc shelf.taken shelf.waiting _).symm) ?_
    exact List.perm_append_singleton _ _
  | front => exact List.perm_middle

theorem filter_joined (shelf : Shelf) (publication : Publication) :
    (shelf.after (.joined publication)).all.filter (·.place = .back) =
      shelf.all.filter (·.place = .back) ++ [publication].filter (·.place = .back) := by
  obtain ⟨source, place, event⟩ := publication
  cases place <;> simp [after, all]

/-- Everything that has joined was on the shelf, and nothing else. -/
theorem perm_all (shelf : Shelf) (past : List Occurrence) :
    (past.foldl after shelf).all.Perm (shelf.all ++ joined past) := by
  induction past generalizing shelf with
  | nil => simp [joined]
  | cons occurrence rest inductionHypothesis =>
    refine (inductionHypothesis (shelf.after occurrence)).trans ?_
    cases occurrence with
    | begun publication => exact .refl _
    | refused publication => exact .refl _
    | taken event =>
      rw [all_taken]
      exact .refl _
    | joined publication =>
      have split : joined (.joined publication :: rest) = publication :: joined rest := rfl
      rw [split]
      refine .trans (.append_right _ (shelf.perm_joined publication)) ?_
      rw [List.cons_append]
      exact List.perm_middle.symm

/-- What has joined at the back leaves the shelf in the order in which it joined. -/
theorem filter_all (shelf : Shelf) (past : List Occurrence) :
    (past.foldl after shelf).all.filter (·.place = .back) =
      shelf.all.filter (·.place = .back) ++ (joined past).filter (·.place = .back) := by
  induction past generalizing shelf with
  | nil => simp [joined]
  | cons occurrence rest inductionHypothesis =>
    refine (inductionHypothesis (shelf.after occurrence)).trans ?_
    cases occurrence with
    | begun publication => rfl
    | refused publication => rfl
    | taken event =>
      rw [all_taken]
      rfl
    | joined publication =>
      have split : joined (.joined publication :: rest) = publication :: joined rest := rfl
      rw [split, filter_joined, List.append_assoc, ← List.filter_append]
      rfl

/-- The events that are taken are those of the publications that leave the shelf. -/
theorem taken_eq {room : Nat} {shelf : Shelf} {past : List Occurrence}
    (lawful : Guarded after (allows room) shelf past) :
    (past.foldl after shelf).taken.map (·.event) = shelf.taken.map (·.event) ++ dequeued past := by
  induction past generalizing shelf with
  | nil => exact (List.append_nil _).symm
  | cons occurrence rest inductionHypothesis =>
    obtain ⟨allowed, later⟩ := lawful
    refine (inductionHypothesis later).trans ?_
    cases occurrence with
    | begun publication => rfl
    | refused publication => rfl
    | joined publication =>
      obtain ⟨source, place, event⟩ := publication
      cases place <;> rfl
    | taken event =>
      obtain ⟨publication, others, front, rfl⟩ := allowed
      have split : dequeued (.taken publication.event :: rest) =
          publication.event :: dequeued rest := rfl
      rw [split, after, front, List.map_append, List.append_assoc]
      rfl

section Stands

variable {shelf : Shelf} {queue : EventQueue queueDepth} (publication : Publication)

/-- What a queue refuses has no place on a shelf that stands for it. -/
theorem allows_refused (waits : shelf.waiting.map (·.event) = queue.toList)
    (real : publication.event.isNil = false)
    (refused : queue.insert? publication.place publication.event = none) :
    shelf.allows queueDepth.size (.refused publication) := by
  have full := (EventQueue.insert?_eq_none_iff real publication.place queue).mp refused
  rw [← waits, List.length_map] at full
  exact full

/-- What a queue takes has a place on a shelf that stands for it, and the shelf with it stands for
the queue with it. -/
theorem allows_joined (waits : shelf.waiting.map (·.event) = queue.toList)
    (real : publication.event.isNil = false) {longer : EventQueue queueDepth}
    (inserted : queue.insert? publication.place publication.event = some longer) :
    shelf.allows queueDepth.size (.joined publication) ∧
      (shelf.after (.joined publication)).waiting.map (·.event) = longer.toList := by
  have length : shelf.waiting.length = queue.toList.length := by rw [← waits, List.length_map]
  obtain ⟨source, place, event⟩ := publication
  constructor
  · have fits : shelf.waiting.length ≤ queueDepth.size := by
      rw [length, EventQueue.length_toList]
      exact queue.length_le
    refine Nat.lt_of_le_of_ne fits fun full => ?_
    rw [(EventQueue.insert?_eq_none_iff real place queue).mpr (length.symm.trans full)] at inserted
    cases inserted
  · cases place with
    | back =>
      rw [EventQueue.toList_insert?_back real inserted, ← waits]
      exact List.map_append
    | front =>
      rw [EventQueue.toList_insert?_front real inserted, ← waits]
      rfl

end Stands

end Shelf

/-! ### What a crowd keeps -/

/-- What someone has yet to offer to the queue. -/
def pending (source : Source) (strokes : List Stroke) : List Publication :=
  strokes.filterMap fun
    | .insert place event => some { source, place, event }
    | .record _ => none

theorem pending_strokes (source : Source) (place : QueueEnd) (event : Event) :
    pending source (strokes place event) =
      [{ source, place, event : Publication }].filter (!·.event.isNil) := by
  cases null : event.isNil <;> simp [pending, strokes, null]

theorem pending_ringing (emissions : List Emission) :
    pending .timers (emissions.flatMap Emission.strokes) =
      (ringing emissions).filter (!·.event.isNil) := by
  induction emissions with
  | nil => rfl
  | cons emission rest inductionHypothesis =>
    rw [List.flatMap_cons, pending, List.filterMap_append]
    cases emission with
    | trace event => exact inductionHypothesis
    | note notice => exact inductionHypothesis
    | publish event =>
      have split : ringing (.publish event :: rest) =
          [{ source := .timers, place := .back, event }] ++ ringing rest := rfl
      rw [split, List.filter_append]
      exact congrArg₂ (· ++ ·) (pending_strokes .timers .back event) inductionHypothesis

/-- The queue holds what waits on the shelf, and nothing has happened that the shelf does not allow.
Of what someone has set out to publish everything was offered to the queue or is yet to be. -/
structure Orderly (crowd : Crowd queueDepth traceDepth timerCount) (past : List Occurrence) :
    Prop where
  waits : (Shelf.of past).waiting.map (·.event) = crowd.reactor.queue.toList
  lawful : Guarded Shelf.after (Shelf.allows queueDepth.size) {} past
  whole : ∀ source,
    (begun past).filter (·.isBy source) =
      (offered past).filter (·.source = source) ++ pending source (crowd.todo source)

theorem orderly_idle (config : Config) :
    Orderly { reactor := (idle config : Reactor queueDepth traceDepth timerCount) } [] where
  waits := (EventQueue.toList_empty).symm
  lawful := trivial
  whole _ := rfl

namespace Orderly

variable {crowd : Crowd queueDepth traceDepth timerCount} {past : List Occurrence}

/-- No null event is ever offered to the queue. -/
theorem real_of_offered (orderly : Orderly crowd past) {publication : Publication}
    (member : publication ∈ offered past) : publication.event.isNil = false := by
  have mine : publication ∈ (offered past).filter (·.source = publication.source) :=
    List.mem_filter.mpr ⟨member, decide_eq_true rfl⟩
  have set := List.mem_append_left (pending publication.source (crowd.todo publication.source)) mine
  rw [← orderly.whole, List.mem_filter] at set
  exact Publication.real_of_isBy set.2

theorem real_of_pending (orderly : Orderly crowd past) {source : Source} {publication : Publication}
    (member : publication ∈ pending source (crowd.todo source)) :
    publication.event.isNil = false := by
  have set := List.mem_append_right ((offered past).filter (·.source = source)) member
  rw [← orderly.whole, List.mem_filter] at set
  exact Publication.real_of_isBy set.2

/-- Someone sets out to publish. -/
theorem assign (orderly : Orderly crowd past) {source : Source} {strokes : List Stroke}
    {publications : List Publication}
    (own : ∀ publication ∈ publications, publication.source = source)
    (same : pending source strokes = publications.filter (!·.event.isNil)) :
    Orderly (crowd.assign source strokes) (past ++ publications.map .begun) := by
  have shelf : Shelf.of (past ++ publications.map .begun) = Shelf.of past := by
    rw [Shelf.of, List.foldl_append]
    exact Shelf.foldl_begun _ _
  have free : ∀ occurrence ∈ publications.map .begun, ∀ shelf : Shelf,
      shelf.allows queueDepth.size occurrence := by
    intro occurrence member shelf
    obtain ⟨publication, -, rfl⟩ := List.mem_map.mp member
    trivial
  have silent : offered (past ++ publications.map .begun) = offered past := by
    simp [offered, List.filterMap_append, List.filterMap_map]
  have more : begun (past ++ publications.map .begun) = begun past ++ publications := by
    rw [begun, List.filterMap_append, List.filterMap_map]
    exact congrArg (begun past ++ ·) List.filterMap_some
  refine ⟨?_, ?_, fun other => ?_⟩
  · rw [shelf]
    exact orderly.waits
  · exact (guarded_append _ _ _).mpr ⟨orderly.lawful, guarded_of_always free⟩
  · rw [more, silent, List.filter_append, orderly.whole, List.append_assoc]
    refine congrArg ((offered past).filter (·.source = other) ++ ·) ?_
    by_cases mine : other = source
    · subst mine
      have all : publications.filter (·.isBy other) = pending other strokes := by
        rw [same]
        refine List.filter_congr fun publication member => ?_
        rw [Publication.isBy, decide_eq_true (own publication member), Bool.true_and]
      rw [all, Crowd.assign]
      simp only [Function.update_self]
      exact List.filterMap_append.symm
    · have none : publications.filter (·.isBy other) = [] := by
        refine List.filter_eq_nil_iff.mpr fun publication member both => ?_
        have named := of_decide_eq_true (Bool.and_eq_true_iff.mp both).1
        exact mine (named.symm.trans (own publication member))
      rw [none, List.append_nil, Crowd.assign]
      simp only [Function.update_of_ne mine]

/-- Someone goes on with what is next, and may have offered something to the queue. -/
theorem whole_after (orderly : Orderly crowd past) {source : Source} {later : List Stroke}
    {more : List Occurrence}
    (next : pending source (crowd.todo source) = offered more ++ pending source later)
    (own : ∀ publication ∈ offered more, publication.source = source) (begins : begun more = [])
    (other : Source) :
    (begun (past ++ more)).filter (·.isBy other) =
      (offered (past ++ more)).filter (·.source = other) ++
        pending other (Function.update crowd.todo source later other) := by
  have same : begun (past ++ more) = begun past := by
    rw [begun, List.filterMap_append]
    exact (congrArg (begun past ++ ·) begins).trans (List.append_nil _)
  have longer : offered (past ++ more) = offered past ++ offered more := List.filterMap_append
  rw [same, longer, orderly.whole, List.filter_append, List.append_assoc]
  refine congrArg ((offered past).filter (·.source = other) ++ ·) ?_
  by_cases mine : other = source
  · subst mine
    -- What is offered now is what was first among the things to do.
    rw [Function.update_self, next, List.filter_eq_self.mpr fun publication member =>
      decide_eq_true (own publication member)]
  · have apart : (offered more).filter (·.source = other) = [] :=
      List.filter_eq_nil_iff.mpr fun publication member same =>
        mine ((of_decide_eq_true same).symm.trans (own publication member))
    rw [Function.update_of_ne mine, apart, List.nil_append]

theorem lawful_concat (orderly : Orderly crowd past) {occurrence : Occurrence}
    (allowed : (Shelf.of past).allows queueDepth.size occurrence) :
    Guarded Shelf.after (Shelf.allows queueDepth.size) {} (past ++ [occurrence]) :=
  (guarded_append _ _ _).mpr ⟨orderly.lawful, allowed, trivial⟩

theorem go (orderly : Orderly crowd past) (source : Source) (now : UInt32) :
    Orderly (crowd.step (.go source now)) (past ++ crowd.occurrences (.go source now)) := by
  cases next : crowd.todo source with
  | nil =>
    simp only [step, occurrences, next, List.append_nil]
    exact orderly
  | cons stroke rest =>
    rw [go_of_cons next now]
    simp only [occurrences, next]
    cases stroke with
    | record event =>
      have silent : pending source (crowd.todo source) = offered [] ++ pending source rest := by
        rw [next]
        rfl
      refine ⟨?_, ?_, orderly.whole_after silent (List.forall_mem_nil _) rfl⟩
      · rw [List.append_nil]
        exact orderly.waits
      · rw [List.append_nil]
        exact orderly.lawful
    | insert place event =>
      let publication : Publication := { source, place, event }
      have first : pending source (crowd.todo source) = [publication] ++ pending source rest := by
        rw [next]
        rfl
      have member : publication ∈ pending source (crowd.todo source) :=
        first ▸ List.mem_cons_self
      have real : event.isNil = false := orderly.real_of_pending member
      have own : ∀ other ∈ [publication], other.source = source :=
        List.forall_mem_singleton.mpr rfl
      simp only [strike]
      cases inserted : crowd.reactor.queue.insert? place event with
      | none =>
        have full := Shelf.allows_refused publication orderly.waits real inserted
        refine ⟨?_, orderly.lawful_concat full, orderly.whole_after first own rfl⟩
        rw [Shelf.of_append]
        exact orderly.waits
      | some queue =>
        obtain ⟨room, waits⟩ := Shelf.allows_joined publication orderly.waits real inserted
        refine ⟨?_, orderly.lawful_concat room, orderly.whole_after first own rfl⟩
        rw [Shelf.of_append]
        exact waits

theorem take (orderly : Orderly crowd past) :
    Orderly (crowd.step .take) (past ++ crowd.occurrences .take) := by
  simp only [step, occurrences]
  cases next : crowd.reactor.next? with
  | none =>
    rw [List.append_nil]
    exact orderly
  | some pair =>
    obtain ⟨event, rest⟩ := pair
    have held : crowd.reactor.queue.toList = event :: rest.queue.toList := (core_of_next? next).1
    obtain ⟨first, others, front, same, left⟩ :=
      List.map_eq_cons_iff.mp (orderly.waits.trans held)
    refine ⟨?_, orderly.lawful_concat ⟨first, others, front, same⟩, fun other => ?_⟩
    · rw [Shelf.of_append, Shelf.after, front]
      exact left
    · have whole := orderly.whole other
      simpa [begun, offered] using whole

theorem step (orderly : Orderly crowd past) (step : Step traceDepth) :
    Orderly (crowd.step step) (past ++ crowd.occurrences step) := by
  cases step with
  | publish name place event =>
    have own : ∀ publication ∈ [({ source := .producer name, place, event } : Publication)],
        publication.source = .producer name := List.forall_mem_singleton.mpr rfl
    exact orderly.assign own (pending_strokes _ _ _)
  | order order =>
    let served : Crowd queueDepth traceDepth timerCount :=
      { crowd with
        reactor := { crowd.reactor with timers := (order.apply crowd.reactor.timers).2 } }
    have kept : Orderly served past := ⟨orderly.waits, orderly.lawful, orderly.whole⟩
    refine kept.assign (fun publication member => ?_) (pending_ringing _)
    obtain ⟨emission, -, said⟩ := List.mem_filterMap.mp member
    cases emission with
    | publish event => rw [← Option.some.inj said]
    | trace _ | note _ => cases said
  | go source now => exact orderly.go source now
  | take => exact orderly.take
  | edit change =>
    refine ⟨?_, ?_, ?_⟩ <;> rw [occurrences, List.append_nil]
    · exact orderly.waits
    · exact orderly.lawful
    · exact orderly.whole

theorem run (orderly : Orderly crowd past) (steps : List (Step traceDepth)) :
    Orderly (crowd.run steps) (past ++ crowd.history steps) := by
  induction steps generalizing crowd past with
  | nil =>
    rw [history, List.append_nil]
    exact orderly
  | cons first rest inductionHypothesis =>
    rw [history, ← List.append_assoc]
    exact inductionHypothesis (orderly.step first)

/-- The publications of one source join in the order in which it sets out to publish them. -/
theorem joined_by (orderly : Orderly crowd past) (source : Source) :
    ((joined past).filter (·.source = source)).Sublist (begun past) := by
  have offers : ((offered past).filter (·.source = source)).Sublist
      ((begun past).filter (·.isBy source)) := by
    rw [orderly.whole]
    exact List.sublist_append_left _ _
  exact ((joined_sublist past).filter _).trans (offers.trans List.filter_sublist)

end Orderly

/-- However the strokes of many publications fall between one another, between ticks of the timers
and events that are taken: the queue never holds more than it has room for and never a null event.
The events that were taken and those that wait are the ones that have joined, none of them null, and
an event is refused only if the queue is full. Those that have joined at the back are taken in the
order in which they joined. Each source offers all it sets out to publish but null events, in order,
so what it publishes at the back is taken in the order in which it was published.

The strokes are those of the reactor: at any time and in every world, a producer or the timers, with
nothing left to do from before, can do theirs in a row, and then the reactor has published the event,
or done what is asked of its timers. -/
theorem crowd_loses_nothing (config : Config) (steps : List (Step traceDepth)) :
    let start : Crowd queueDepth traceDepth timerCount := { reactor := .idle config }
    let reached := start.run steps
    let past := start.history steps
    let queue := reached.reactor.queue
    let shelf := Shelf.of past
    (queue.length ≤ queueDepth.size ∧ ∀ event ∈ queue.toList, event.isNil = false) ∧
      ((dequeued past ++ queue.toList).Perm ((joined past).map (·.event)) ∧
        (∀ publication ∈ joined past, publication.event.isNil = false) ∧
        ∀ before publication after, past = before ++ .refused publication :: after →
          (Shelf.of before).waiting.length = queueDepth.size) ∧
      (dequeued past = shelf.taken.map (·.event) ∧
        queue.toList = shelf.waiting.map (·.event) ∧
        (shelf.taken ++ shelf.waiting).filter (·.place = .back) =
          (joined past).filter (·.place = .back)) ∧
      (∀ source,
        (begun past).filter (·.isBy source) =
            (offered past).filter (·.source = source) ++
              pending source (reached.todo source) ∧
        ((joined past).filter (·.source = source)).Sublist (begun past) ∧
        (shelf.taken.filter fun publication =>
          publication.place = .back && publication.source = source).Sublist (begun past)) ∧
      ∀ {World : Type} [Clock World] [Journal World] (world : World),
        (∀ name place event, reached.todo (.producer name) = [] →
          ∃ times : List UInt32,
            reached.run (.publish name place event :: times.map (.go (.producer name))) =
              { reached with reactor := (reached.reactor.publish place event world).1.2 }) ∧
        ∀ order, reached.todo .timers = [] →
          ∃ times : List UInt32, reached.run (.order order :: times.map (.go .timers)) =
            { reached with reactor := (reached.reactor.serve order world).1 } := by
  intro start reached past queue shelf
  have orderly : Orderly (start.run steps) past := (orderly_idle config).run steps
  have real : ∀ publication ∈ joined past, publication.event.isNil = false :=
    fun publication member => orderly.real_of_offered ((joined_sublist past).subset member)
  have perm : shelf.all.Perm (joined past) := Shelf.perm_all {} past
  have tail : shelf.all.filter (·.place = .back) = (joined past).filter (·.place = .back) :=
    Shelf.filter_all {} past
  have taken : dequeued past = shelf.taken.map (·.event) := (Shelf.taken_eq orderly.lawful).symm
  have whole : (dequeued past ++ queue.toList).Perm ((joined past).map (·.event)) := by
    rw [taken, ← orderly.waits, ← List.map_append]
    exact perm.map _
  refine ⟨⟨queue.length_le, fun event member => ?_⟩,
    ⟨whole, real, fun before publication after place => orderly.lawful.allowed_at place⟩,
    ⟨taken, orderly.waits.symm, tail⟩,
    fun source => ⟨orderly.whole source, orderly.joined_by source, ?_⟩,
    fun world => ⟨fun _ place event resting => publish_undisturbed resting place event world,
      fun order resting => serve_undisturbed resting order world⟩⟩
  · obtain ⟨publication, held, rfl⟩ :=
      List.mem_map.mp (whole.subset (List.mem_append_right _ member))
    exact real publication held
  · have same : (shelf.all.filter fun publication =>
          publication.place = .back && publication.source = source) =
        ((joined past).filter (·.place = .back)).filter (·.source = source) := by
      rw [← tail, List.filter_filter]
      exact List.filter_congr fun publication _ => Bool.and_comm _ _
    have early := (List.sublist_append_left shelf.taken shelf.waiting).filter fun publication =>
      publication.place = .back && publication.source = source
    refine early.trans ?_
    rw [← Shelf.all, same]
    exact (List.filter_sublist.filter _).trans (orderly.joined_by source)

end BusNode.Reactor.Crowd
