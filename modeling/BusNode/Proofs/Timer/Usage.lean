/-
This file defines the runs of a bank of timers: starts, stops and ticks, of any timers and in any
order. A bank is not told what became of the events that it published, so a run depends on nothing
but the acts.

One timer is changed only by the acts that start or stop it, and by the ticks. All other acts spare
it, and say nothing of it.
-/
import BusNode.Proofs.Timer.Cookie
import BusNode.Proofs.Timer.Expiry

namespace BusNode.TimerBank

variable {count : Nat}

/-! ### Runs -/

/-- One thing that is done with a bank of timers. -/
inductive Act where
  | start (index : UInt8) (ticks : UInt16)
  | stop (index : UInt8)
  | tick
  deriving DecidableEq

/-- Whether an act neither starts nor stops a timer. -/
def Act.spares (index : UInt8) : Act → Bool
  | .start other _ | .stop other => other ≠ index
  | .tick => true

/-- How many ticks there are among some acts. -/
def ticksIn (acts : List Act) : Nat := acts.count .tick

/-- What a bank says with an act, and the bank after it. A start outside the bank does nothing. -/
def act : Act → TimerBank count → List Emission × TimerBank count
  | .start index ticks, bank => ((bank.start? index ticks).map Prod.snd).getD ([], bank)
  | .stop index, bank => bank.stop index
  | .tick, bank => bank.tick

/-- The bank after some acts. -/
def run (acts : List Act) (bank : TimerBank count) : TimerBank count :=
  acts.foldl (fun bank act => (bank.act act).2) bank

/-- All that a bank says with some acts. -/
def said : List Act → TimerBank count → List Emission
  | [], _ => []
  | act :: rest, bank => (bank.act act).1 ++ (bank.act act).2.said rest

/-- The events that are published, in their order. -/
def published (emissions : List Emission) : List Event :=
  emissions.filterMap fun
    | .publish event => some event
    | .trace _ | .note _ => none

/-- The events of a timer that are published. -/
def alarms (index : UInt8) (emissions : List Emission) : List Event :=
  (published emissions).filter fun event => event.p8 = index

theorem run_cons (act : Act) (rest : List Act) (bank : TimerBank count) :
    bank.run (act :: rest) = (bank.act act).2.run rest := rfl

theorem run_append (before after : List Act) (bank : TimerBank count) :
    bank.run (before ++ after) = (bank.run before).run after :=
  List.foldl_append

theorem alarms_append (index : UInt8) (first rest : List Emission) :
    alarms index (first ++ rest) = alarms index first ++ alarms index rest := by
  rw [alarms, published, List.filterMap_append, List.filter_append]
  rfl

theorem published_map_publish (events : List Event) :
    published (events.map .publish) = events := by
  rw [published, List.filterMap_map]
  exact List.filterMap_some

theorem mem_published {emissions : List Emission} {event : Event} :
    event ∈ published emissions ↔ .publish event ∈ emissions := by
  rw [published, List.mem_filterMap]
  constructor
  · rintro ⟨emission, said, same⟩
    cases emission with
    | publish other => exact Option.some.inj same ▸ said
    | trace _ | note _ => cases same
  · exact fun said => ⟨_, said, rfl⟩

/-- Where no event of a timer is published, it has none. -/
theorem alarms_eq_nil {index : UInt8} {emissions : List Emission}
    (other : ∀ event, .publish event ∈ emissions → event.p8 ≠ index) :
    alarms index emissions = [] := by
  refine List.filter_eq_nil_iff.mpr fun event said => ?_
  simpa using other event (mem_published.mp said)

/-! ### Starts -/

/-- A start inside the bank draws the next cookie. -/
theorem start?_of_inside {index : UInt8} (inside : index.toNat < count) (ticks : UInt16)
    (bank : TimerBank count) :
    ∃ started, bank.start? index ticks = some (nextCookie bank.lastCookie,
      startEmissions index ticks (nextCookie bank.lastCookie), started) :=
  ⟨_, dif_pos inside⟩

/-- A start does what it does inside the bank, and outside nothing. -/
theorem act_start (index : UInt8) (ticks : UInt16) (bank : TimerBank count) :
    (∃ cookie emissions started, bank.start? index ticks = some (cookie, emissions, started) ∧
      bank.act (.start index ticks) = (emissions, started)) ∨
      bank.act (.start index ticks) = ([], bank) := by
  rw [act]
  cases bank.start? index ticks with
  | none => exact .inr rfl
  | some started => exact .inl ⟨_, _, _, rfl, rfl⟩

theorem act_of_start {index : UInt8} {ticks cookie : UInt16} {emissions : List Emission}
    {bank started : TimerBank count}
    (start : bank.start? index ticks = some (cookie, emissions, started)) :
    bank.act (.start index ticks) = (emissions, started) := by
  rw [act, start]
  rfl

theorem alarms_startEmissions (index : UInt8) (ticks cookie : UInt16) :
    alarms index (startEmissions index ticks cookie) =
      if ticks = 0 then [.timeout index cookie] else [] := by
  unfold startEmissions
  split <;> simp [alarms, published, Event.timeout]

/-! ### Single acts -/

theorem timer?_of_inside {index : UInt8} (inside : index.toNat < count)
    (bank : TimerBank count) : ∃ timer, bank.timer? index = some timer :=
  ⟨_, Vector.getElem?_eq_getElem inside⟩

theorem timer?_of_outside {index : UInt8} (outside : ¬index.toNat < count)
    (bank : TimerBank count) : bank.timer? index = none :=
  Vector.getElem?_eq_none (Nat.not_lt.mp outside)

/-- An act that does not spare a timer starts or stops it. -/
theorem Act.of_not_spares {index : UInt8} {act : Act} (touches : act.spares index = false) :
    (∃ ticks, act = .start index ticks) ∨ act = .stop index := by
  cases act with
  | start other ticks =>
    obtain rfl : other = index := by simpa [spares] using touches
    exact .inl ⟨ticks, rfl⟩
  | stop other =>
    obtain rfl : other = index := by simpa [spares] using touches
    exact .inr rfl
  | tick => cases touches

/-- In a bank with an index for every place, only timers run that an index names. -/
theorem named_of_small (small : count ≤ 256) (bank : TimerBank count) : bank.Named :=
  fun _ inside beyond => absurd (Nat.lt_of_lt_of_le inside small) (Nat.not_lt.mpr beyond)

theorem Named.act {bank : TimerBank count} (named : bank.Named) (act : Act) :
    (bank.act act).2.Named := by
  cases act with
  | start index ticks =>
    obtain ⟨cookie, emissions, started, start, same⟩ | same := bank.act_start index ticks
    · rw [same]
      exact named.start start
    · rw [same]
      exact named
  | stop index => exact named.stop index
  | tick => exact named.tick

theorem Named.run {bank : TimerBank count} (named : bank.Named) (acts : List Act) :
    (bank.run acts).Named := by
  induction acts generalizing bank with
  | nil => exact named
  | cons act rest inductionHypothesis => exact inductionHypothesis (named.act act)

/-- An act that spares a timer changes it only if it is a tick. -/
theorem timer?_act_of_spares {index : UInt8} {act : Act} (spares : act.spares index = true)
    (bank : TimerBank count) :
    (bank.act act).2.timer? index =
      if act = .tick then (bank.timer? index).map Timer.tick else bank.timer? index := by
  cases act with
  | start other ticks =>
    have apart : index ≠ other := Ne.symm (of_decide_eq_true spares)
    rw [if_neg (by simp)]
    obtain ⟨cookie, emissions, started, start, same⟩ | same := bank.act_start other ticks
    · rw [same]
      exact timer?_start_other apart start
    · rw [same]
  | stop other =>
    have apart : index ≠ other := Ne.symm (of_decide_eq_true spares)
    rw [if_neg (by simp)]
    exact timer?_stop_other apart
  | tick => exact timer?_tick index bank

/-- The timeouts of a tick that have an index are that of its timer, if it runs out. -/
theorem alarms_tick {index : UInt8} {timer : Timer} {bank : TimerBank count}
    (named : bank.Named) (held : bank.timer? index = some timer) :
    alarms index bank.tick.1 =
      if timer.isExpiring then [.timeout index timer.cookie] else [] := by
  rw [alarms, tick, published_map_publish]
  split
  · rename_i last
    obtain ⟨before, after, split, -, apart⟩ := expiring_split named held last
    obtain ⟨early, late⟩ := List.forall_mem_append.mp apart
    rw [split, List.filter_append, List.filter_cons_of_pos (by simp [Event.timeout]),
      List.filter_eq_nil_iff.mpr fun event member => by simpa using early event member,
      List.filter_eq_nil_iff.mpr fun event member => by simpa using late event member]
    rfl
  · rename_i running
    refine List.filter_eq_nil_iff.mpr fun event said => ?_
    obtain ⟨place, other, found, last, rfl⟩ := mem_expiring named said
    have apart : place ≠ index := by
      rintro rfl
      exact running (Option.some.inj (found.symm.trans held) ▸ last)
    exact Bool.eq_false_iff.mp (decide_eq_false apart)

/-- An act that spares a timer says something of it only if it is a tick with which the timer runs
out. -/
theorem alarms_act_of_spares {index : UInt8} {act : Act} {timer : Timer} {bank : TimerBank count}
    (spares : act.spares index = true) (named : bank.Named)
    (held : bank.timer? index = some timer) :
    alarms index (bank.act act).1 =
      if act = .tick ∧ timer.isExpiring = true then [.timeout index timer.cookie] else [] := by
  cases act with
  | start other ticks =>
    have apart : other ≠ index := of_decide_eq_true spares
    rw [if_neg (by simp)]
    refine alarms_eq_nil fun event said => ?_
    obtain ⟨cookie, emissions, started, start, same⟩ | same := bank.act_start other ticks
    · rw [same] at said
      rw [timeout_of_start start said]
      exact apart
    · rw [same] at said
      cases said
  | stop other =>
    rw [if_neg (by simp)]
    exact alarms_eq_nil fun event said => absurd said (not_mem_stop other bank event)
  | tick =>
    simp only [true_and]
    exact alarms_tick named held

end BusNode.TimerBank
