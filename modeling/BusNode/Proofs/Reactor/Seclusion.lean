/-
This file sets two runs side by side: one of many machines, and one of a single one of them, which
has the reactor to itself. The first run queues events that concern the other machines only. Apart
from those the same events wait in both, in the same order. The cookies differ, because the machine
alone draws fewer of them. So timeouts are not compared by their cookies, but by whether they belong
to the last start of the timer.

Each operation that both runs carry out keeps the two in step, and so does each that only the other
machines call for.
-/
import BusNode.Proofs.Reactor.Balance
import BusNode.Proofs.Reactor.Timeless

namespace BusNode

/-- What a tick leaves of a timer depends on nothing but the ticks that it has left. -/
theorem TimerBank.remaining_tick_congr {count : Nat} {index : UInt8} {bank other : TimerBank count}
    (same : bank.remaining index = other.remaining index) :
    bank.tick.2.remaining index = other.tick.2.remaining index := by
  by_cases done : other.remaining index = 0
  · rw [remaining_tick_of_zero done, remaining_tick_of_zero (same.trans done)]
  · obtain ⟨cookie, -, ticked⟩ := timer?_tick_of_remaining done
    obtain ⟨cookie', -, ticked'⟩ := timer?_tick_of_remaining (same ▸ done)
    rw [remaining_of_timer? ticked, remaining_of_timer? ticked', same]

/-- What a machine sends to itself is no timeout. -/
theorem Event.id_toSelf_ne (machine : UInt8) : (Event.toSelf machine).id ≠ Event.timerId := by
  show Event.selfId ≠ Event.timerId
  decide

namespace Reactor

variable {depth : Depth} {count : Nat}

/-! ### Operations that are known to succeed -/

namespace Core

variable {core : Core depth count}

/-- The start of a timer that is given ticks is all that happens. -/
theorem happenings_of_start? {index : UInt8} {ticks cookie : UInt16} {emissions : List Emission}
    {timers : TimerBank count} (positive : ticks ≠ 0)
    (start : core.timers.start? index ticks = some (cookie, emissions, timers)) :
    core.happenings (.startTimer index ticks) = [.started index ticks cookie] := by
  have silent : ∀ event, .publish event ∉ emissions := by
    rw [TimerBank.emissions_of_start start, TimerBank.startEmissions, if_neg positive]
    simp
  rw [happenings, start]
  exact congrArg (List.cons _) (rings_of_silent silent)

/-- Events find room together if none is refused. -/
theorem room_of_granted {events : List Event} (some : events ≠ [])
    (real : ∀ event ∈ events, event.isNil = false)
    (granted : ∀ happening ∈ rings (events.map .publish) core, happening.refused = false) :
    core.waiting.length + events.length ≤ depth.size := by
  induction events generalizing core with
  | nil => exact absurd rfl some
  | cons event rest inductionHypothesis =>
    obtain ⟨real, others⟩ := List.forall_mem_cons.mp real
    obtain ⟨queued, later⟩ := List.forall_mem_cons.mp granted
    by_cases room : core.waiting.length < depth.size
    · rw [publish_of_room real .back room] at later
      cases rest with
      | nil => exact room
      | cons next rest =>
        have more := inductionHypothesis (List.cons_ne_nil _ _) others later
        simp only [join, List.length_append, List.length_cons, List.length_nil] at more ⊢
        omega
    · rw [publish_of_full real .back (Nat.not_lt.mp room)] at queued
      cases queued

/-- None of the events is refused for which there is room. -/
theorem granted_of_room {events : List Event} (real : ∀ event ∈ events, event.isNil = false)
    (room : core.waiting.length + events.length ≤ depth.size) :
    ∀ happening ∈ rings (events.map .publish) core, happening.refused = false := by
  induction events generalizing core with
  | nil => exact List.forall_mem_nil _
  | cons event rest inductionHypothesis =>
    obtain ⟨real, others⟩ := List.forall_mem_cons.mp real
    rw [List.length_cons] at room
    have step : core.publish .back event =
        (true, { core with waiting := core.waiting ++ [event] }) :=
      publish_of_room real .back (by omega)
    have last : rings ((event :: rest).map .publish) core =
        .rang event (core.publish .back event).1 ::
          rings (rest.map .publish) (core.publish .back event).2 := rfl
    rw [last, step]
    refine List.forall_mem_cons.mpr ⟨rfl, inductionHypothesis others ?_⟩
    rw [List.length_append, List.length_singleton]
    omega

end Core

namespace Ledger

variable {ledger ledger' : Ledger} {timer : UInt8} {own : UInt8 → Prop} {last last' : Option Nat}
  {entries entries' more more' rest rest' : List Entry} {event : Event}

/-- Timeouts of which none is refused are entered one after another. -/
theorem foldl_rings {events : List Event} {core : Core depth count}
    (granted : ∀ happening ∈ core.rings (events.map .publish), happening.refused = false)
    (ledger : Ledger) :
    (core.rings (events.map .publish)).foldl next ledger =
      { ledger with
        waiting := ledger.waiting ++ events.map fun event => (event, ledger.latest event.p8) } := by
  induction events generalizing core ledger with
  | nil => simp [Core.rings]
  | cons event rest inductionHypothesis =>
    obtain ⟨queued, later⟩ := List.forall_mem_cons.mp granted
    have joined : (core.publish .back event).1 = true := by simpa [Happening.refused] using queued
    have step : ledger.next (.rang event (core.publish .back event).1) =
        { ledger with waiting := ledger.waiting ++ [(event, ledger.latest event.p8)] } := by
      rw [joined]
      rfl
    have parts : (core.rings ((event :: rest).map .publish)).foldl next ledger =
        (Core.rings (rest.map .publish) (core.publish .back event).2).foldl next
          (ledger.next (.rang event (core.publish .back event).1)) := rfl
    rw [parts, inductionHypothesis later, step]
    simp

/-- The event that was taken last is the one that waited longest. -/
theorem getLast?_next_taken {entry : Entry} (split : ledger.waiting = entry :: rest)
    (event : Event) : (ledger.next (.taken event)).taken.getLast? = some entry := by
  rw [next_taken split]
  exact List.getLast?_concat

/-- A delivery changes neither what waits nor what is known of the starts. -/
theorem next_given (machine : Nat) (event : Event) (ledger : Ledger) :
    (ledger.next (.given machine event)).waiting = ledger.waiting ∧
      (ledger.next (.given machine event)).latest = ledger.latest ∧
      (ledger.next (.given machine event)).starts = ledger.starts ∧
      (ledger.next (.given machine event)).taken = ledger.taken := by
  rw [next]
  split <;> exact ⟨rfl, rfl, rfl, rfl⟩

/-! ### What waits -/

/-- An event that concerns other machines only: one that another machine has sent to itself, or the
timeout of another timer. -/
def Elsewhere (timer : UInt8) (own : UInt8 → Prop) (event : Event) : Prop :=
  event.id = Event.selfId ∧ ¬ own event.p8 ∨ event.id = Event.timerId ∧ event.p8 ≠ timer

/-- Entries of the two runs that stand for the same event. Of timeouts either both belong to the
last start of the timer, or neither does. -/
inductive Same (timer : UInt8) (last last' : Option Nat) : Entry → Entry → Prop where
  | event {event : Event} (other : event.id ≠ Event.timerId) :
      Same timer last last' (event, none) (event, none)
  | timeout {cookie cookie' : UInt16} {start start' : Nat}
      (live : last = some start ↔ last' = some start') :
      Same timer last last' (.timeout timer cookie, some start)
        (.timeout timer cookie', some start')

/-- What waits in the first run and in the second. -/
inductive Reduces (timer : UInt8) (own : UInt8 → Prop) (last last' : Option Nat) :
    List Entry → List Entry → Prop where
  | nil : Reduces timer own last last' [] []
  | elsewhere {entry : Entry} {rest rest' : List Entry} (aside : Elsewhere timer own entry.1)
      (reduces : Reduces timer own last last' rest rest') :
      Reduces timer own last last' (entry :: rest) rest'
  | same {entry entry' : Entry} {rest rest' : List Entry}
      (same : Same timer last last' entry entry')
      (reduces : Reduces timer own last last' rest rest') :
      Reduces timer own last last' (entry :: rest) (entry' :: rest')

namespace Reduces

theorem length_le (reduces : Reduces timer own last last' entries entries') :
    entries'.length ≤ entries.length := by
  induction reduces with
  | nil => exact Nat.le_refl 0
  | elsewhere _ _ inductionHypothesis => exact Nat.le_succ_of_le inductionHypothesis
  | same _ _ inductionHypothesis => exact Nat.succ_le_succ inductionHypothesis

theorem append (first : Reduces timer own last last' entries entries')
    (second : Reduces timer own last last' more more') :
    Reduces timer own last last' (entries ++ more) (entries' ++ more') := by
  induction first with
  | nil => exact second
  | elsewhere aside _ inductionHypothesis => exact .elsewhere aside inductionHypothesis
  | same same _ inductionHypothesis => exact .same same inductionHypothesis

theorem single {entry entry' : Entry} (same : Same timer last last' entry entry') :
    Reduces timer own last last' [entry] [entry'] := .same same .nil

/-- Nothing is left of events that all concern other machines only. -/
theorem of_elsewhere (aside : ∀ entry ∈ entries, Elsewhere timer own entry.1) :
    Reduces timer own last last' entries [] := by
  induction entries with
  | nil => exact .nil
  | cons entry rest inductionHypothesis =>
    obtain ⟨aside, others⟩ := List.forall_mem_cons.mp aside
    exact .elsewhere aside (inductionHypothesis others)

theorem post (reduces : Reduces timer own last last' entries entries')
    (other : event.id ≠ Event.timerId) (place : QueueEnd) :
    Reduces timer own last last' (Ledger.post event entries place)
      (Ledger.post event entries' place) := by
  cases place with
  | back => exact reduces.append (single (.event other))
  | front => exact .same (.event other) reduces

/-- After a start in either run no timeout that waits belongs to the last start. -/
theorem restart {next next' : Nat} (reduces : Reduces timer own last last' entries entries')
    (old : ∀ start ∈ entered entries, start < next)
    (old' : ∀ start ∈ entered entries', start < next') :
    Reduces timer own (some next) (some next') entries entries' := by
  induction reduces with
  | nil => exact .nil
  | elsewhere aside _ inductionHypothesis =>
    refine .elsewhere aside (inductionHypothesis (fun start member => old start ?_) old')
    rw [← List.singleton_append, entered_append]
    exact List.mem_append_right _ member
  | same same _ inductionHypothesis =>
    rw [← List.singleton_append, entered_append] at old old'
    have later := inductionHypothesis
      (fun start member => old start (List.mem_append_right _ member))
      fun start member => old' start (List.mem_append_right _ member)
    cases same with
    | event other => exact .same (.event other) later
    | timeout live =>
      refine .same (.timeout ⟨fun now => ?_, fun now => ?_⟩) later
      · exact absurd (Option.some.inj now).symm (Nat.ne_of_lt (old _ List.mem_cons_self))
      · exact absurd (Option.some.inj now).symm (Nat.ne_of_lt (old' _ List.mem_cons_self))

end Reduces

/-! ### Timers that run out -/

namespace Issued

variable {starts : List (UInt8 × UInt16)} {latest : UInt8 → Option Nat} {bank : TimerBank count}

/-- A tick says nothing but timeouts of timers that have one tick left and were not stopped. -/
theorem of_mem_expiring (issued : Issued starts latest bank) (said : event ∈ bank.expiring) :
    event.id = Event.timerId ∧ bank.remaining event.p8 = 1 ∧ latest event.p8 ≠ none := by
  obtain ⟨index, timer, held, last, rfl⟩ := TimerBank.mem_expiring issued.named said
  refine ⟨rfl, (TimerBank.remaining_of_timer? held).trans (of_decide_eq_true last), fun unset => ?_⟩
  rw [issued.idle unset held] at last
  cases last

/-- The timeout of a timer that has one tick left is said once, among those of other timers. -/
theorem expiring_due (issued : Issued starts latest bank) (due : bank.remaining timer = 1) :
    ∃ before after cookie start, bank.expiring = before ++ .timeout timer cookie :: after ∧
      latest timer = some start ∧
        ∀ event ∈ before ++ after, event.id = Event.timerId ∧ event.p8 ≠ timer := by
  obtain ⟨cookie, held⟩ := TimerBank.timer?_of_remaining (by rw [due]; decide)
  obtain ⟨before, after, split, -, apart⟩ :=
    TimerBank.expiring_split issued.named held (decide_eq_true due)
  cases set : latest timer with
  | none =>
    have idle := congrArg Timer.remaining (issued.idle set held)
    exact absurd (due.symm.trans idle) (by decide)
  | some start =>
    refine ⟨before, after, cookie, start, split, rfl, fun event among => ⟨?_, apart event among⟩⟩
    have said : event ∈ bank.expiring := by
      rw [split]
      exact List.mem_append.mpr
        ((List.mem_append.mp among).imp_right (List.mem_cons_of_mem _))
    exact (issued.of_mem_expiring said).1

end Issued

/-- The timeouts that wait belong to starts that were made. -/
theorem Balanced.lt_of_waiting {desk : Desk depth count} (balanced : ledger.Balanced desk) :
    ∀ start ∈ entered ledger.waiting, start < ledger.starts.length := by
  intro start member
  refine balanced.right.lt_length ?_
  rw [entered_append]
  exact List.mem_append_right _ member

/-- Within a round, a timeout that was taken is current exactly if it belongs to the last start. -/
theorem Balanced.isCurrent_iff {desk : Desk depth count} (balanced : ledger.Balanced desk)
    {cookie : UInt16} {start : Nat}
    (taken : ledger.taken.getLast? = some (.timeout timer cookie, some start))
    (near : desk.core.timers.isCurrent (.timeout timer cookie) = true →
      ledger.starts.length - (start + 1) < TimerBank.round) :
    desk.core.timers.isCurrent (.timeout timer cookie) = true ↔
      ledger.latest timer = some start := by
  have among : (.timeout timer cookie, some start) ∈ ledger.taken ++ ledger.waiting :=
    List.mem_append_left _ (List.mem_of_getLast? taken)
  have drew : ledger.starts[start]? = some (timer, cookie) := (balanced.right.timeout among).2
  have same : desk.core.timers.isCurrent (.timeout timer cookie) = true ↔
      desk.core.timers.cookie? timer = some cookie := by
    simp only [TimerBank.isCurrent, Bool.and_eq_true, decide_eq_true_eq]
    exact and_iff_right rfl
  constructor
  · intro current
    exact balanced.issued.latest_of_cookie (same.mp current) drew (near current)
  · intro last
    rw [same, balanced.issued.cookie drew]
    exact balanced.issued.held last

/-! ### Two runs side by side -/

/-- The books of a run of many machines, and those of the run of one of them alone. Its timer has
the same ticks left in both. Alone, it is the only one that starts a timer, and never stops it. -/
structure Mirrors (timer : UInt8) (own : UInt8 → Prop) (ledger : Ledger) (desk : Desk depth count)
    (ledger' : Ledger) (desk' : Desk depth count) : Prop where
  balanced : ledger.Balanced desk
  balanced' : ledger'.Balanced desk'
  config : desk'.core.config = desk.core.config
  remaining : desk'.core.timers.remaining timer = desk.core.timers.remaining timer
  waiting : Reduces timer own (ledger.latest timer) (ledger'.latest timer) ledger.waiting
    ledger'.waiting
  unused : ∀ index, index ≠ timer → ledger'.latest index = none
  newest : ∀ start, ledger'.latest timer = some start → start + 1 = ledger'.starts.length

theorem next_published (real : event.isNil = false) (place : QueueEnd) (ledger : Ledger) :
    ledger.next (.published place event true) =
      { ledger with waiting := post event ledger.waiting place } := by
  simp [next, real]

theorem next_published_nil (null : event.isNil = true) (place : QueueEnd) (ledger : Ledger) :
    ledger.next (.published place event true) = ledger := by
  simp [next, null]

namespace Mirrors

variable {desk desk' : Desk depth count}
  (mirrors : Mirrors timer own ledger desk ledger' desk')

include mirrors

/-- Alone, a machine never has more events waiting. -/
theorem length_le : desk'.core.waiting.length ≤ desk.core.waiting.length := by
  rw [← mirrors.balanced.waiting, ← mirrors.balanced'.waiting, List.length_map, List.length_map]
  exact mirrors.waiting.length_le

/-- An event that finds room among those of many machines also finds room among those of one. -/
theorem publish (place : QueueEnd) (other : event.id ≠ Event.timerId)
    (granted : (desk.core.publish place event).1 = true) :
    (desk'.core.publish place event).1 = true ∧
      Mirrors timer own (ledger.next (.published place event true))
        { desk with core := (desk.core.publish place event).2 }
        (ledger'.next (.published place event true))
        { desk' with core := (desk'.core.publish place event).2 } := by
  cases null : event.isNil with
  | true =>
    have still (core : Core depth count) : core.publish place event = (true, core) := if_pos null
    rw [still, still, next_published_nil null, next_published_nil null]
    exact ⟨rfl, mirrors⟩
  | false =>
    have room : desk.core.waiting.length < depth.size := by
      refine Nat.lt_of_not_le fun full => ?_
      rw [Core.publish_of_full null place full] at granted
      cases granted
    have room' := Nat.lt_of_le_of_lt mirrors.length_le room
    have balanced := mirrors.balanced.publish place other
    have balanced' := mirrors.balanced'.publish place other
    rw [Core.publish_of_room null place room] at balanced
    rw [Core.publish_of_room null place room'] at balanced'
    rw [Core.publish_of_room null place room, Core.publish_of_room null place room']
    refine ⟨rfl, balanced, balanced', mirrors.config, mirrors.remaining, ?_, ?_, ?_⟩
    · rw [next_published null, next_published null]
      exact mirrors.waiting.post other place
    · rw [next_published null]
      exact mirrors.unused
    · rw [next_published null]
      exact mirrors.newest

/-- What another machine sends to itself leaves the run of the machine alone behind. -/
theorem publish_elsewhere {id : UInt8} (foreign : ¬ own id) :
    Mirrors timer own
      (ledger.next (.published .front (.toSelf id) (desk.core.publish .front (.toSelf id)).1))
      { desk with core := (desk.core.publish .front (.toSelf id)).2 } ledger' desk' := by
  have balanced := mirrors.balanced.publish .front (Event.id_toSelf_ne id)
  by_cases room : desk.core.waiting.length < depth.size
  · rw [Core.publish_of_room rfl .front room] at balanced ⊢
    refine ⟨balanced, mirrors.balanced', mirrors.config, mirrors.remaining, ?_, mirrors.unused,
      mirrors.newest⟩
    rw [next_published rfl]
    exact .elsewhere (.inl ⟨rfl, foreign⟩) mirrors.waiting
  · rw [Core.publish_of_full rfl .front (Nat.not_lt.mp room)]
    exact mirrors

/-- The machine starts its timer in either run. -/
theorem startTimer (inside : timer.toNat < count) {ticks : UInt16} (positive : ticks ≠ 0) :
    Mirrors timer own
      ((desk.core.happenings (.startTimer timer ticks)).foldl next ledger)
      { desk with core := (desk.core.startTimer timer ticks).2 }
      ((desk'.core.happenings (.startTimer timer ticks)).foldl next ledger')
      { desk' with core := (desk'.core.startTimer timer ticks).2 } := by
  have balanced := mirrors.balanced.startTimer timer ticks
  have balanced' := mirrors.balanced'.startTimer timer ticks
  have start : desk.core.timers.start? timer ticks = some _ := dif_pos inside
  have start' : desk'.core.timers.start? timer ticks = some _ := dif_pos inside
  rw [Core.startTimer_of_start? positive start, Core.happenings_of_start? positive start]
    at balanced ⊢
  rw [Core.startTimer_of_start? positive start', Core.happenings_of_start? positive start']
    at balanced' ⊢
  refine ⟨balanced, balanced', mirrors.config, ?_, ?_, fun index other => ?_, fun newest last => ?_⟩
  · exact (TimerBank.remaining_of_timer? (TimerBank.timer?_start_self start')).trans
      (TimerBank.remaining_of_timer? (TimerBank.timer?_start_self start)).symm
  · have restarted := mirrors.waiting.restart mirrors.balanced.lt_of_waiting
      mirrors.balanced'.lt_of_waiting
    simpa [next] using restarted
  · exact (Function.update_of_ne other _ _).trans (mirrors.unused index other)
  · have same : Function.update ledger'.latest timer (some ledger'.starts.length) timer =
        some newest := last
    rw [Function.update_self] at same
    rw [← Option.some.inj same, List.foldl_cons, List.foldl_nil, next, List.length_append,
      List.length_singleton]

/-- Another machine starts another timer. -/
theorem startTimer_elsewhere {index : UInt8} (other : index ≠ timer) {ticks : UInt16}
    (positive : ticks ≠ 0) :
    Mirrors timer own ((desk.core.happenings (.startTimer index ticks)).foldl next ledger)
      { desk with core := (desk.core.startTimer index ticks).2 } ledger' desk' := by
  have balanced := mirrors.balanced.startTimer index ticks
  cases start : desk.core.timers.start? index ticks with
  | none =>
    simp only [Core.startTimer, Core.happenings, start]
    exact mirrors
  | some started =>
    obtain ⟨cookie, emissions, timers⟩ := started
    rw [Core.startTimer_of_start? positive start, Core.happenings_of_start? positive start]
      at balanced ⊢
    refine ⟨balanced, mirrors.balanced', mirrors.config, ?_, ?_, mirrors.unused, mirrors.newest⟩
    · exact mirrors.remaining.trans
        (TimerBank.remaining_congr (TimerBank.timer?_start_other other.symm start)).symm
    · have kept : (ledger.next (.started index ticks cookie)).latest timer = ledger.latest timer :=
        Function.update_of_ne other.symm _ _
      rw [List.foldl_cons, List.foldl_nil, kept]
      exact mirrors.waiting

/-! ### Events -/

/-- An event is taken that concerns other machines only. -/
theorem take_elsewhere {entry : Entry} (split : ledger.waiting = entry :: rest)
    (reduces : Reduces timer own (ledger.latest timer) (ledger'.latest timer) rest ledger'.waiting)
    {waiting : List Event} (following : desk.core.waiting = event :: waiting) :
    Mirrors timer own (ledger.next (.taken event)) (desk.take event waiting) ledger' desk' := by
  refine ⟨mirrors.balanced.take following, mirrors.balanced', mirrors.config, mirrors.remaining, ?_,
    mirrors.unused, mirrors.newest⟩
  rw [next_taken split]
  exact reduces

/-- The next event is taken in either run. -/
theorem take {entry entry' : Entry} (split : ledger.waiting = entry :: rest)
    (split' : ledger'.waiting = entry' :: rest')
    (reduces : Reduces timer own (ledger.latest timer) (ledger'.latest timer) rest rest')
    {event' : Event} {waiting waiting' : List Event}
    (following : desk.core.waiting = event :: waiting)
    (following' : desk'.core.waiting = event' :: waiting') :
    Mirrors timer own (ledger.next (.taken event)) (desk.take event waiting)
      (ledger'.next (.taken event')) (desk'.take event' waiting') := by
  refine ⟨mirrors.balanced.take following, mirrors.balanced'.take following', mirrors.config,
    mirrors.remaining, ?_, ?_, ?_⟩
  · rw [next_taken split, next_taken split']
    exact reduces
  · rw [next_taken split']
    exact mirrors.unused
  · rw [next_taken split']
    exact mirrors.newest

/-- A machine is given the event that was taken, in the run of many. -/
theorem give {machine : Nat} (offered : desk.offered = some event) (fresh : machine ∉ desk.served) :
    Mirrors timer own (ledger.next (.given machine event))
      { desk with served := machine :: desk.served } ledger' desk' := by
  obtain ⟨waiting, latest, -⟩ := next_given machine event ledger
  refine ⟨mirrors.balanced.give offered fresh, mirrors.balanced', mirrors.config, mirrors.remaining,
    ?_, mirrors.unused, mirrors.newest⟩
  rw [waiting, latest]
  exact mirrors.waiting

/-- The machine is given the event that was taken, in its own run. -/
theorem give_alone {machine : Nat} (offered : desk'.offered = some event)
    (fresh : machine ∉ desk'.served) :
    Mirrors timer own ledger desk (ledger'.next (.given machine event))
      { desk' with served := machine :: desk'.served } := by
  obtain ⟨waiting, latest, starts, -⟩ := next_given machine event ledger'
  refine ⟨mirrors.balanced, mirrors.balanced'.give offered fresh, mirrors.config, mirrors.remaining,
    ?_, ?_, ?_⟩
  · rw [waiting, latest]
    exact mirrors.waiting
  · rw [latest]
    exact mirrors.unused
  · rw [latest, starts]
    exact mirrors.newest

omit mirrors in
theorem tick_foldl {core : Core depth count}
    (granted : ∀ happening ∈ core.tickHappenings, happening.refused = false) (ledger : Ledger) :
    core.tickHappenings.foldl next ledger =
      { ledger with
        waiting := ledger.waiting ++
          core.timers.expiring.map fun event => (event, ledger.latest event.p8) } :=
  foldl_rings (List.forall_mem_cons.mp granted).2 ledger

/-- With a tick the timer runs out in both runs or in neither, and no other timer in its own run. -/
theorem expiring :
    desk'.core.timers.expiring.length ≤ desk.core.timers.expiring.length ∧
      Reduces timer own (ledger.latest timer) (ledger'.latest timer)
        (desk.core.timers.expiring.map fun event => (event, ledger.latest event.p8))
        (desk'.core.timers.expiring.map fun event => (event, ledger'.latest event.p8)) := by
  have issued := mirrors.balanced.issued
  have issued' := mirrors.balanced'.issued
  have aside {events : List Event}
      (others : ∀ event ∈ events, event.id = Event.timerId ∧ event.p8 ≠ timer) :
      Reduces timer own (ledger.latest timer) (ledger'.latest timer)
        (events.map fun event => (event, ledger.latest event.p8)) [] := by
    refine .of_elsewhere fun entry member => ?_
    obtain ⟨event, among, rfl⟩ := List.mem_map.mp member
    exact .inr (others event among)
  have alone : ∀ event ∈ desk'.core.timers.expiring, event.p8 = timer := by
    intro event said
    by_contra other
    exact (issued'.of_mem_expiring said).2.2 (mirrors.unused event.p8 other)
  -- The timer has the same ticks left in both, so it runs out in both or in neither.
  by_cases due : desk.core.timers.remaining timer = 1
  · obtain ⟨before, after, cookie, start, split, last, others⟩ := issued.expiring_due due
    obtain ⟨before', after', cookie', start', split', last', others'⟩ :=
      issued'.expiring_due (mirrors.remaining.trans due)
    have none' : before' ++ after' = [] := by
      refine List.eq_nil_iff_forall_not_mem.mpr fun event among => ?_
      have said : event ∈ desk'.core.timers.expiring := by
        rw [split']
        exact List.mem_append.mpr
          ((List.mem_append.mp among).imp_right (List.mem_cons_of_mem _))
      exact (others' event among).2 (alone event said)
    obtain ⟨rfl, rfl⟩ := List.append_eq_nil_iff.mp none'
    obtain ⟨early, late⟩ := List.forall_mem_append.mp others
    have own : Same timer (ledger.latest timer) (ledger'.latest timer)
        (.timeout timer cookie, some start) (.timeout timer cookie', some start') :=
      .timeout ⟨fun _ => last', fun _ => last⟩
    rw [split, split', List.map_append, List.map_cons]
    refine ⟨?_, (aside early).append (.same ?_ (aside late))⟩
    · simp only [List.length_append, List.length_cons, List.length_nil]
      omega
    · show Same timer _ _ (_, ledger.latest timer) (_, ledger'.latest timer)
      rw [last, last'] at own ⊢
      exact own
  · have none' : desk'.core.timers.expiring = [] := by
      refine List.eq_nil_iff_forall_not_mem.mpr fun event said => due ?_
      rw [← mirrors.remaining, ← alone event said]
      exact (issued'.of_mem_expiring said).2.1
    rw [none']
    refine ⟨Nat.zero_le _, aside fun event said => ?_⟩
    obtain ⟨timeout, last, -⟩ := issued.of_mem_expiring said
    exact ⟨timeout, fun same => due (same ▸ last)⟩

/-- The timers are served in either run. -/
theorem tick (granted : ∀ happening ∈ desk.core.tickHappenings, happening.refused = false) :
    (∀ happening ∈ desk'.core.tickHappenings, happening.refused = false) ∧
      Mirrors timer own (desk.core.tickHappenings.foldl next ledger)
        { desk with core := desk.core.tick } (desk'.core.tickHappenings.foldl next ledger')
        { desk' with core := desk'.core.tick } := by
  obtain ⟨fewer, reduces⟩ := mirrors.expiring
  have real {core : Core depth count} : ∀ event ∈ core.timers.expiring, event.isNil = false :=
    fun _ said => TimerBank.isNil_of_mem_expiring said
  have granted' : ∀ happening ∈ desk'.core.tickHappenings, happening.refused = false := by
    refine List.forall_mem_cons.mpr ⟨rfl, ?_⟩
    by_cases none' : desk'.core.timers.expiring = []
    · show ∀ happening ∈ Core.rings (desk'.core.timers.expiring.map .publish) _, _
      rw [none']
      exact List.forall_mem_nil _
    · have some : desk.core.timers.expiring ≠ [] := fun none =>
        none' (List.eq_nil_of_length_eq_zero (Nat.le_zero.mp (by rwa [none] at fewer)))
      have room := Core.room_of_granted some real (List.forall_mem_cons.mp granted).2
      exact Core.granted_of_room real
        (Nat.le_trans (Nat.add_le_add mirrors.length_le fewer) room)
  refine ⟨granted', mirrors.balanced.tick, mirrors.balanced'.tick, ?_, ?_, ?_, ?_, ?_⟩
  · rw [Core.tick_eq, Core.tick_eq]
    exact mirrors.config
  · rw [Core.tick_eq, Core.tick_eq]
    exact TimerBank.remaining_tick_congr mirrors.remaining
  · rw [tick_foldl granted, tick_foldl granted']
    exact mirrors.waiting.append reduces
  · rw [tick_foldl granted']
    exact mirrors.unused
  · rw [tick_foldl granted']
    exact mirrors.newest

end Mirrors

end Ledger

end Reactor

end BusNode
