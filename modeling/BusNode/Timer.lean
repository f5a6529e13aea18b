/-
This file defines the timers of a node. A bank holds a fixed number of timers that count down in
ticks and fire once. Each start draws a new cookie, and the timeout carries the cookie of the start
it belongs to. A timer that was stopped holds a cookie that no start draws. So a timeout that was
still waiting in the queue when its timer was stopped or started again can be told from a current
one.

The operations are pure. What a bank has to say, an event to publish, an event for the trace or a
note for the journal, it returns as a list in the order in which it is said.
-/
import BusNode.Journal

namespace BusNode

/-- Something that a bank of timers has to say. -/
inductive Emission where
  /-- An event for the trace only. -/
  | trace (event : Event)
  /-- An event to publish. -/
  | publish (event : Event)
  /-- A note for the journal. -/
  | note (notice : Notice)
  deriving DecidableEq, Repr

/-! ### One timer -/

/-- The cookie of a timer that is not running. No start draws it. -/
def idleCookie : UInt16 := 0xFFFF

/-- One timer: the ticks that are left, and the cookie of its last start. -/
structure Timer where
  remaining : UInt16 := 0
  cookie : UInt16 := idleCookie
  deriving DecidableEq, Repr, Inhabited

namespace Timer

/-- A timer that was stopped, or never started. -/
def idle : Timer := {}

/-- Whether the timer is counting down. -/
def isRunning (timer : Timer) : Bool := timer.remaining ≠ 0

/-- Whether the next tick is the last one. -/
def isExpiring (timer : Timer) : Bool := timer.remaining = 1

/-- The timer after one tick. A timer that has run out stays as it is. -/
def tick (timer : Timer) : Timer :=
  if timer.isRunning then { timer with remaining := timer.remaining - 1 } else timer

end Timer

/-! ### A bank -/

/-- A fixed number of timers that share one sequence of cookies. -/
structure TimerBank (count : Nat) where
  timers : Vector Timer count
  /-- The cookie that was drawn last. -/
  lastCookie : UInt16 := 0
  deriving DecidableEq

namespace TimerBank

variable {count : Nat}

/-- A bank of idle timers. -/
def idle : TimerBank count := { timers := Vector.replicate count .idle }

instance : Inhabited (TimerBank count) := ⟨idle⟩

/-- The timer at an index. -/
def timer? (index : UInt8) (bank : TimerBank count) : Option Timer := bank.timers[index.toNat]?

/-- The ticks that are left of a timer. There are none for an index outside the bank. -/
def remaining (index : UInt8) (bank : TimerBank count) : UInt16 :=
  ((bank.timer? index).map Timer.remaining).getD 0

/-- Whether a timer is no longer counting. -/
def isDone (index : UInt8) (bank : TimerBank count) : Bool := bank.remaining index = 0

/-- The cookie that a timer holds. -/
def cookie? (index : UInt8) (bank : TimerBank count) : Option UInt16 :=
  (bank.timer? index).map Timer.cookie

/-- Whether an event is the timeout of a timer, with the cookie that the timer holds. -/
def isCurrent (event : Event) (bank : TimerBank count) : Bool :=
  event.id = Event.timerId && bank.cookie? event.p8 = some event.p16

/-- The cookie after a given one. The sequence leaves out the cookie of idle timers. -/
def nextCookie (last : UInt16) : UInt16 := if last + 1 = idleCookie then 0 else last + 1

/-- What a start has to say. A timer that is given no ticks runs out at once. -/
def startEmissions (index : UInt8) (ticks cookie : UInt16) : List Emission :=
  [.trace (.timerArm index ticks), .note (.timerArmed index ticks cookie)] ++
    if ticks = 0 then [.publish (.timeout index cookie)] else []

/-- Starts a timer: its new cookie, what there is to say, and the bank. There is nothing to start at
an index outside the bank. -/
def start? (index : UInt8) (ticks : UInt16) (bank : TimerBank count) :
    Option (UInt16 × List Emission × TimerBank count) :=
  if inside : index.toNat < count then
    let cookie := nextCookie bank.lastCookie
    some (cookie, startEmissions index ticks cookie,
      { timers := bank.timers.set index.toNat { remaining := ticks, cookie } inside
        lastCookie := cookie })
  else none

/-- Stops a timer. A timer that still had ticks leaves a mark in the trace. -/
def stop (index : UInt8) (bank : TimerBank count) : List Emission × TimerBank count :=
  if inside : index.toNat < count then
    let ticks := bank.timers[index.toNat].remaining
    (if ticks = 0 then [] else [.trace (.timerStop index ticks)],
      { bank with timers := bank.timers.set index.toNat .idle inside })
  else ([], bank)

/-- The timeouts of the timers that run out with the next tick, by index. -/
def expiring (bank : TimerBank count) : List Event :=
  bank.timers.toList.zipIdx.filterMap fun (timer, index) =>
    if timer.isExpiring then some (.timeout (UInt8.ofNat index) timer.cookie) else none

/-- One tick of every timer. -/
def tick (bank : TimerBank count) : List Emission × TimerBank count :=
  (bank.expiring.map .publish, { bank with timers := bank.timers.map Timer.tick })

/-! ### What an operation changes -/

theorem timer?_idle {index : UInt8} (inside : index.toNat < count) :
    (idle : TimerBank count).timer? index = some .idle := by
  simp [timer?, idle, inside]

/-- A start succeeds for every index inside the bank and for no other. -/
theorem start?_isSome {index : UInt8} {ticks : UInt16} {bank : TimerBank count} :
    (bank.start? index ticks).isSome = decide (index.toNat < count) := by
  unfold start?
  split <;> simp_all

/-- A timer that was started has the ticks it was given and the new cookie. -/
theorem timer?_start_self {index : UInt8} {ticks cookie : UInt16} {emissions : List Emission}
    {bank started : TimerBank count}
    (start : bank.start? index ticks = some (cookie, emissions, started)) :
    started.timer? index = some { remaining := ticks, cookie } := by
  unfold start? at start
  split at start
  case isFalse => simp at start
  case isTrue inside =>
    cases start
    simp [timer?, inside]

/-- A start leaves the other timers alone. -/
theorem timer?_start_other {index other : UInt8} {ticks cookie : UInt16}
    {emissions : List Emission} {bank started : TimerBank count} (different : other ≠ index)
    (start : bank.start? index ticks = some (cookie, emissions, started)) :
    started.timer? other = bank.timer? other := by
  have apart : index.toNat ≠ other.toNat := fun same => different (UInt8.toNat_inj.1 same.symm)
  unfold start? at start
  split at start
  case isFalse => simp at start
  case isTrue inside =>
    cases start
    simp [timer?, apart]

/-- A timer that was stopped is idle. -/
theorem timer?_stop_self {index : UInt8} {bank : TimerBank count} (inside : index.toNat < count) :
    (bank.stop index).2.timer? index = some .idle := by
  simp [stop, timer?, inside]

/-- A stop leaves the other timers alone. -/
theorem timer?_stop_other {index other : UInt8} {bank : TimerBank count}
    (different : other ≠ index) : (bank.stop index).2.timer? other = bank.timer? other := by
  have apart : index.toNat ≠ other.toNat := fun same => different (UInt8.toNat_inj.1 same.symm)
  unfold stop
  split <;> simp [timer?, apart]

/-- A tick is a tick of every timer. -/
theorem timer?_tick (index : UInt8) (bank : TimerBank count) :
    bank.tick.2.timer? index = (bank.timer? index).map Timer.tick := by
  simp [tick, timer?]

end TimerBank

end BusNode
