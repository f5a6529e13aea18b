/-
This file keeps the books of a history. Every start of a timer gets a number. A timeout that is
queued is entered under the start that its timer was last given, and an event that anybody else
publishes is entered under none. The entry goes with the event, through the queue and to the
machines that are given it.

Cookies come round again, and the numbers of starts do not. Within a round a timer that holds the
cookie of a start has not been started or stopped since.
-/
import BusNode.Proofs.Reactor.History
import BusNode.Proofs.Timer.Cookie
import BusNode.Proofs.Timer.Expiry
import Mathlib.Data.List.Nodup
import Mathlib.Logic.Function.Basic

namespace BusNode.Reactor

variable {count : Nat}

/-- An event, and the number of the start whose timeout it is. -/
abbrev Entry : Type := Event × Option Nat

/-- What a history amounts to. -/
structure Ledger where
  /-- The timer and the cookie of every start. -/
  starts : List (UInt8 × UInt16) := []
  /-- The last start of a timer that was not stopped since. -/
  latest : UInt8 → Option Nat := fun _ => none
  waiting : List Entry := []
  taken : List Entry := []
  /-- Which machine was given the timeout of which start. -/
  deliveries : List (Nat × Nat) := []

namespace Ledger

/-- What waits when an event has joined that is no timeout. -/
def post (event : Event) (waiting : List Entry) : QueueEnd → List Entry
  | .back => waiting ++ [(event, none)]
  | .front => (event, none) :: waiting

def next (ledger : Ledger) : Happening → Ledger
  | .published place event queued =>
    if queued && !event.isNil then { ledger with waiting := post event ledger.waiting place }
    else ledger
  | .started index _ cookie =>
    { ledger with
      starts := ledger.starts ++ [(index, cookie)]
      latest := Function.update ledger.latest index (some ledger.starts.length) }
  | .stopped index => { ledger with latest := Function.update ledger.latest index none }
  | .ticked => ledger
  | .rang timeout queued =>
    if queued then
      { ledger with waiting := ledger.waiting ++ [(timeout, ledger.latest timeout.p8)] }
    else ledger
  | .taken _ =>
    { ledger with
      waiting := ledger.waiting.tail
      taken := ledger.taken ++ ledger.waiting.head?.toList }
  | .given machine _ =>
    match ledger.taken.getLast? with
    | some (_, some start) => { ledger with deliveries := ledger.deliveries ++ [(machine, start)] }
    | _ => ledger

/-- An event that is taken moves the entry that waits ahead of all others. -/
theorem next_taken {ledger : Ledger} {entry : Entry} {rest : List Entry}
    (split : ledger.waiting = entry :: rest) (event : Event) :
    ledger.next (.taken event) =
      { ledger with waiting := rest, taken := ledger.taken ++ [entry] } := by
  simp [next, split]

/-- The starts whose timeouts are among some entries. -/
def entered (entries : List Entry) : List Nat := entries.filterMap Prod.snd

theorem mem_entered {entries : List Entry} {start : Nat} :
    start ∈ entered entries ↔ ∃ event, (event, some start) ∈ entries := by
  constructor
  · intro member
    obtain ⟨⟨event, tag⟩, among, same⟩ := List.mem_filterMap.mp member
    exact ⟨event, same ▸ among⟩
  · rintro ⟨event, among⟩
    exact List.mem_filterMap.mpr ⟨_, among, rfl⟩

theorem entered_append (first second : List Entry) :
    entered (first ++ second) = entered first ++ entered second := List.filterMap_append

/-- An event that was taken last is the timeout of a start. If fewer starts than a round lie between
that start and now, it is the last start of its timer, which was not stopped since. -/
structure Live (ledger : Ledger) (event : Event) : Prop where
  origin : ∃ start, ledger.taken.getLast? = some (event, some start) ∧
    ledger.starts[start]? = some (event.p8, event.p16)
  current : ∀ start, ledger.starts[start]? = some (event.p8, event.p16) →
    ledger.starts.length - (start + 1) < TimerBank.round → ledger.latest event.p8 = some start

/-- Machines are given timeouts only while they are live. -/
def Allows (ledger : Ledger) : Happening → Prop
  | .given _ event => event.id = Event.timerId → ledger.Live event
  | _ => True

/-- A timeout is given to machines before a round of other starts has come after its own. -/
def Prompt (ledger : Ledger) : Happening → Prop
  | .given _ _ => ∀ entry ∈ ledger.taken.getLast?, ∀ start ∈ entry.2,
      ledger.starts.length - (start + 1) < TimerBank.round
  | _ => True

instance (ledger : Ledger) : (happening : Happening) → Decidable (ledger.Prompt happening)
  | .given _ _ => inferInstanceAs (Decidable (∀ entry ∈ ledger.taken.getLast?, ∀ start ∈ entry.2,
      ledger.starts.length - (start + 1) < TimerBank.round))
  | .published .. | .started .. | .stopped _ | .ticked | .rang .. | .taken _ => .isTrue trivial

/-- A live timeout that is given promptly belongs to the last start of its timer. -/
theorem Live.latest {ledger : Ledger} {machine : Nat} {event : Event} (live : ledger.Live event)
    (prompt : ledger.Prompt (.given machine event)) :
    ∃ start, ledger.taken.getLast? = some (event, some start) ∧
      ledger.latest event.p8 = some start := by
  obtain ⟨start, last, drew⟩ := live.origin
  exact ⟨start, last, live.current start drew (prompt _ last start rfl)⟩

/-- A row with one more element at its end. -/
theorem getElem?_concat_eq_some {α : Type} {row : List α} {element found : α} {place : Nat} :
    (row ++ [element])[place]? = some found ↔
      row[place]? = some found ∨ place = row.length ∧ element = found := by
  rw [List.getElem?_append]
  split
  · rename_i early
    simp [Nat.ne_of_lt early]
  · rename_i late
    have beyond : row[place]? = none := List.getElem?_eq_none (Nat.not_lt.mp late)
    rw [List.getElem?_singleton, beyond]
    by_cases last : place = row.length
    · simp [last]
    · have more : place - row.length ≠ 0 := by omega
      simp [last, more]

/-! ### Timers -/

/-- A start that is the latest after a change is so by the change, or was so before. -/
theorem update_eq_some {latest : UInt8 → Option Nat} {index other : UInt8} {given : Option Nat}
    {start : Nat} (last : Function.update latest index given other = some start) :
    (other = index ∧ given = some start) ∨ (other ≠ index ∧ latest other = some start) := by
  by_cases own : other = index
  · rw [own, Function.update_self] at last
    exact .inl ⟨own, last⟩
  · rw [Function.update_of_ne own] at last
    exact .inr ⟨own, last⟩

/-- What the starts so far say of the timers. -/
structure Issued (starts : List (UInt8 × UInt16)) (latest : UInt8 → Option Nat)
    (bank : TimerBank count) : Prop where
  drawn : bank.lastCookie = TimerBank.cookieAfter starts.length
  cookie : ∀ {start : Nat} {index : UInt8} {cookie : UInt16},
    starts[start]? = some (index, cookie) → cookie = TimerBank.cookieAfter (start + 1)
  idle : ∀ {index : UInt8} {timer : Timer}, latest index = none →
    bank.timer? index = some timer → timer = .idle
  held : ∀ {index : UInt8} {start : Nat}, latest index = some start →
    bank.cookie? index = some (TimerBank.cookieAfter (start + 1))
  own : ∀ {index : UInt8} {start : Nat}, latest index = some start →
    starts[start]? = some (index, TimerBank.cookieAfter (start + 1))
  newest : ∀ {index : UInt8} {start later : Nat} {cookie : UInt16}, latest index = some start →
    starts[later]? = some (index, cookie) → later ≤ start
  named : bank.Named

namespace Issued

variable {starts : List (UInt8 × UInt16)} {latest : UInt8 → Option Nat} {bank : TimerBank count}

theorem initial : Issued [] (fun _ => none) (.idle : TimerBank count) where
  drawn := rfl
  cookie := by simp
  idle := by
    intro index timer _ held
    obtain ⟨inside, rfl⟩ := Vector.getElem?_eq_some_iff.mp held
    exact Vector.getElem_replicate _
  held := by simp
  own := by simp
  newest := by simp
  named := TimerBank.named_idle

theorem start {index : UInt8} {ticks cookie : UInt16} {emissions : List Emission}
    {started : TimerBank count} (issued : Issued starts latest bank)
    (start : bank.start? index ticks = some (cookie, emissions, started)) :
    cookie = TimerBank.cookieAfter (starts.length + 1) ∧
      Issued (starts ++ [(index, cookie)])
        (Function.update latest index (some starts.length)) started := by
  obtain ⟨drew, kept⟩ := TimerBank.lastCookie_of_start start
  rw [issued.drawn, ← TimerBank.cookieAfter_succ] at drew
  subst drew
  have self := TimerBank.timer?_start_self start
  have others {other : UInt8} (different : other ≠ index) :=
    TimerBank.timer?_start_other different start
  refine ⟨rfl, ?_, ?_, ?_, ?_, ?_, ?_, issued.named.start start⟩
  · rw [kept, List.length_append, List.length_singleton]
  · intro number timer cookie found
    rcases getElem?_concat_eq_some.mp found with before | ⟨rfl, same⟩
    · exact issued.cookie before
    · exact (Prod.mk.inj same).2.symm
  · intro other timer unset there
    by_cases own : other = index
    · rw [own, Function.update_self] at unset
      cases unset
    · rw [Function.update_of_ne own] at unset
      rw [others own] at there
      exact issued.idle unset there
  · intro other number last
    rw [TimerBank.cookie?]
    rcases update_eq_some last with ⟨rfl, same⟩ | ⟨different, last⟩
    · rw [self, ← Option.some.inj same]
      rfl
    · rw [others different]
      exact issued.held last
  · intro other number last
    rw [getElem?_concat_eq_some]
    rcases update_eq_some last with ⟨rfl, same⟩ | ⟨-, last⟩
    · obtain rfl := Option.some.inj same
      exact .inr ⟨rfl, rfl⟩
    · exact .inl (issued.own last)
  · intro other number later cookie last found
    rcases update_eq_some last with ⟨-, same⟩ | ⟨different, last⟩
    · obtain ⟨inside, -⟩ := List.getElem?_eq_some_iff.mp found
      rw [List.length_append, List.length_singleton] at inside
      rw [← Option.some.inj same]
      exact Nat.le_of_lt_succ inside
    · rcases getElem?_concat_eq_some.mp found with before | ⟨-, same⟩
      · exact issued.newest last before
      · exact absurd (Prod.mk.inj same).1.symm different

theorem stop (issued : Issued starts latest bank) (index : UInt8) :
    Issued starts (Function.update latest index none) (bank.stop index).2 := by
  have kept := TimerBank.lastCookie_stop index bank
  have others {other : UInt8} (different : other ≠ index) :
      (bank.stop index).2.timer? other = bank.timer? other :=
    TimerBank.timer?_stop_other different
  have before {other : UInt8} {start : Nat}
      (last : Function.update latest index none other = some start) :
      other ≠ index ∧ latest other = some start := by
    rcases update_eq_some last with ⟨-, none⟩ | kept
    · cases none
    · exact kept
  refine ⟨kept.trans issued.drawn, issued.cookie, ?_, ?_, ?_, ?_, issued.named.stop index⟩
  · intro other timer unset there
    by_cases own : other = index
    · subst own
      by_cases inside : other.toNat < count
      · rw [TimerBank.timer?_stop_self inside] at there
        exact (Option.some.inj there).symm
      · rw [TimerBank.timer?, Vector.getElem?_eq_none (Nat.not_lt.mp inside)] at there
        cases there
    · rw [Function.update_of_ne own] at unset
      rw [others own] at there
      exact issued.idle unset there
  · intro other start last
    obtain ⟨different, last⟩ := before last
    rw [TimerBank.cookie?, others different]
    exact issued.held last
  · exact fun last => issued.own (before last).2
  · exact fun last => issued.newest (before last).2

theorem tick (issued : Issued starts latest bank) : Issued starts latest bank.tick.2 := by
  refine ⟨issued.drawn, issued.cookie, ?_, ?_, issued.own, issued.newest, issued.named.tick⟩
  · intro index timer unset there
    rw [TimerBank.timer?_tick] at there
    obtain ⟨before, held, rfl⟩ := Option.map_eq_some_iff.mp there
    rw [issued.idle unset held]
    rfl
  · intro index start last
    rw [TimerBank.cookie?_tick]
    exact issued.held last

/-- A start is that of one timer. -/
theorem index_unique (issued : Issued starts latest bank) {index other : UInt8} {start : Nat}
    (last : latest index = some start) (also : latest other = some start) : index = other :=
  (Prod.mk.inj (Option.some.inj ((issued.own last).symm.trans (issued.own also)))).1

/-- Within a round, a timer that holds the cookie of a start has not been started or stopped since.
-/
theorem latest_of_cookie (issued : Issued starts latest bank) {index : UInt8} {cookie : UInt16}
    {start : Nat} (held : bank.cookie? index = some cookie)
    (drew : starts[start]? = some (index, cookie))
    (near : starts.length - (start + 1) < TimerBank.round) : latest index = some start := by
  obtain rfl := issued.cookie drew
  cases last : latest index with
  | none =>
    obtain ⟨timer, there, same⟩ := Option.map_eq_some_iff.mp held
    rw [issued.idle last there] at same
    exact absurd same.symm (TimerBank.cookieAfter_ne_idleCookie _)
  | some newest =>
    have order := issued.newest last drew
    have inside : newest < starts.length := (List.getElem?_eq_some_iff.mp (issued.own last)).1
    have same := Option.some.inj (held.symm.trans (issued.held last))
    have near : newest + 1 - (start + 1) < TimerBank.round := by omega
    have equal := TimerBank.eq_of_cookieAfter_eq (Nat.succ_le_succ order) near same
    rw [Nat.succ.inj equal]

end Issued

/-! ### Entries -/

/-- The entries are right: each timeout stands under a start that it names, and no start is entered
twice. -/
structure Entered (starts : List (UInt8 × UInt16)) (entries : List Entry) : Prop where
  other : ∀ {event : Event}, (event, none) ∈ entries → event.id ≠ Event.timerId
  timeout : ∀ {event : Event} {start : Nat}, (event, some start) ∈ entries →
    event.id = Event.timerId ∧ starts[start]? = some (event.p8, event.p16)
  once : (entered entries).Nodup

theorem entered_post (taken waiting : List Entry) (event : Event) (place : QueueEnd) :
    entered (taken ++ post event waiting place) = entered (taken ++ waiting) := by
  cases place <;> simp [post, entered]

namespace Entered

variable {starts : List (UInt8 × UInt16)} {entries taken waiting : List Entry}

theorem lt_length (right : Entered starts entries) {start : Nat} (member : start ∈ entered entries) :
    start < starts.length := by
  obtain ⟨event, among⟩ := mem_entered.mp member
  exact (List.getElem?_eq_some_iff.mp (right.timeout among).2).1

theorem start (right : Entered starts entries) (index : UInt8) (cookie : UInt16) :
    Entered (starts ++ [(index, cookie)]) entries where
  other := right.other
  timeout := fun among =>
    ⟨(right.timeout among).1, getElem?_concat_eq_some.mpr (.inl (right.timeout among).2)⟩
  once := right.once

theorem post (right : Entered starts (taken ++ waiting)) {event : Event}
    (other : event.id ≠ Event.timerId) (place : QueueEnd) :
    Entered starts (taken ++ Ledger.post event waiting place) := by
  have members {entry : Entry} (member : entry ∈ taken ++ Ledger.post event waiting place) :
      entry = (event, none) ∨ entry ∈ taken ++ waiting := by
    cases place <;> simp [Ledger.post] at member ⊢ <;> tauto
  refine ⟨fun among => ?_, fun among => ?_, ?_⟩
  · rcases members among with same | before
    · rw [(Prod.mk.inj same).1]
      exact other
    · exact right.other before
  · rcases members among with same | before
    · cases (Prod.mk.inj same).2
    · exact right.timeout before
  · rw [entered_post]
    exact right.once

theorem ring (right : Entered starts entries) {event : Event} {start : Nat}
    (timeout : event.id = Event.timerId)
    (drew : starts[start]? = some (event.p8, event.p16)) (fresh : start ∉ entered entries) :
    Entered starts (entries ++ [(event, some start)]) := by
  refine ⟨fun among => ?_, fun among => ?_, ?_⟩
  · rcases List.mem_append.mp among with before | last
    · exact right.other before
    · cases (Prod.mk.inj (List.mem_singleton.mp last)).2
  · rcases List.mem_append.mp among with before | last
    · exact right.timeout before
    · obtain ⟨rfl, same⟩ := Prod.mk.inj (List.mem_singleton.mp last)
      rw [Option.some.inj same]
      exact ⟨timeout, drew⟩
  · rw [entered_append]
    exact right.once.append (List.nodup_singleton start)
      (List.disjoint_singleton.mpr fresh)

end Entered

end Ledger

end BusNode.Reactor
