/-
This file proves that a link gives up on a reply neither too early nor too late. The clock is driven
by hand and counts true time; the link sees it only in milliseconds, and only the low thirty-two
bits of them. A step that finds a wait outstanding ends it for the time that has passed exactly if
the whole milliseconds since the wait began are more than the limit, wherever the counter wraps, and
whatever has come in meanwhile.
-/
import BusNode.Proofs.Link.Pair
import BusNode.Proofs.Sim.Clock

namespace BusNode.Link

/-! ### Since when a reply is awaited -/

/-- Unless another wait has begun, a link awaits a reply since the same time, or no longer. -/
theorem watched_waitingSince (since : UInt32) : Watched fun link past =>
    armings past = 0 → link.waitingSince = some since ∨ link.waitingSince = none where
  quiet held quiet _ := by
    rw [armings_append, quiet.waiting]
    exact fun unarmed => held (by omega)
  report _ reported := by
    cases reported <;> exact fun _ => .inr rfl
  armed held _ _ armed := by
    rw [armings_append]
    cases armed with
    | awaited now _ => exact fun unarmed => absurd unarmed (by simp [armings, Effect.arms])
    | unawaited _ => exact fun unarmed => held (by omega)

/-- A request that begins a wait ends with the reading since which the reply is awaited. -/
theorem Requested.begins {frame : List UInt8} {link next : Link} {effects : List Effect}
    (requested : Requested frame link .sent effects next) (busy : next.isBusy = true) :
    ∃ sending since, effects = sending ++ [.millis since, .note .waitArmed] ∧
      next.waitingSince = some since := by
  cases requested with
  | unsent _ _ unsent => exact absurd rfl unsent
  | sent _ delivery armed =>
    cases armed with
    | awaited now _ => exact ⟨_, now, rfl, rfl⟩
    | unawaited _ =>
      rw [delivery.free] at busy
      cases busy

/-- A call that begins a wait ends with the reading since which the reply is awaited. -/
theorem Performed.begins {link next : Link} {call : Call} {answer : Answer} {effects : List Effect}
    (performed : Performed link call answer effects next) (armed : Link.armings effects = 1) :
    ∃ sending since, effects = sending ++ [.millis since, .note .waitArmed] ∧
      next.waitingSince = some since := by
  have arms : Turn.arms ⟨call, answer, effects, next⟩ = true := by
    rw [performed.armings] at armed
    exact Bool.toNat_eq_one.mp armed
  obtain ⟨frame, notes, later, -, place, -, requested, busy⟩ := performed.requested arms
  obtain ⟨sending, since, ends, waits⟩ := requested.begins busy
  exact ⟨notes ++ sending, since, by rw [place, ends, List.append_assoc], waits⟩

/-! ### The step that looks -/

theorem Silence.reported_replyTimedOut {link next : Link} {effects : List Effect}
    (silence : Silence link effects next) : reported .replyTimedOut effects = 0 := by
  cases silence with
  | frame =>
    have notes := reported_of_aside .replyTimedOut fun effect member =>
      Effect.aside_of_incidental (dispatchNotes_incidental link effect member)
    have other : link.classify.kind ≠ .replyTimedOut := by
      cases class' : link.classify <;> simp [Outcome.kind]
      exact classify_ne_replyTimedOut link class'
    rw [reported_append, dispatchEffects, reported_append, notes]
    simp [Effect.reports, Effect.outcome?, other]
  | _ => exact reported_of_aside _ (by simp [Effect.aside])

/-- A step on a link that awaits a reply looks at the clock first, and says that the reply is
overdue exactly if that reading finds it so. -/
theorem Serviced.reported_replyTimedOut {link next : Link} {effects : List Effect} {since : UInt32}
    (serviced : Serviced link effects next) (waits : link.waitingSince = some since) :
    ∃ now rest, effects = .millis now :: rest ∧ reported .replyTimedOut effects =
      (Clock.elapsed now since link.config.replyTimeout).toNat := by
  obtain ⟨deadline, silence, reception⟩ := serviced
  have unreported := reported_of_aside .replyTimedOut reception.quiet.aside
  rw [reported_append, reported_append, silence.reported_replyTimedOut, unreported]
  cases deadline with
  | idle idle =>
    rw [idle] at waits
    cases waits
  | @early _ now begun early =>
    obtain rfl := Option.some.inj (begun.symm.trans waits)
    exact ⟨now, _, rfl, by rw [early]; rfl⟩
  | @late _ now begun late =>
    obtain rfl := Option.some.inj (begun.symm.trans waits)
    exact ⟨now, _, rfl, by rw [late]; rfl⟩

/-! ### A wait that is outstanding -/

/-- A wait for a reply, from the call that begins it up to a step that finds it outstanding. -/
structure Wait (Bus : Type) where
  /-- The session in front of the call that begins the wait. -/
  before : Session (Sim.Bench Bus)
  call : Call
  /-- What happens after the call. -/
  moves : List (Move (Sim.Bench Bus))
  /-- How many steps have then been taken already by a send that waits for the end of the wait. If
  there are none, the next step may as well be taken by the application. -/
  rounds : Nat

namespace Wait

variable {Bus : Type} [Line Bus]

/-- The session when the wait has begun. -/
def begun (wait : Wait Bus) : Session (Sim.Bench Bus) := wait.before.move (.call wait.call)

/-- The session when nothing but the step is to come, or a send that takes it. -/
def later (wait : Wait Bus) : Session (Sim.Bench Bus) := wait.begun.run wait.moves

/-- The link and its world in front of the step. -/
def reached (wait : Wait Bus) : Link × Sim.Bench Bus :=
  wait.later.link.pump wait.rounds wait.later.world

/-- The effects of the step. -/
def step (wait : Wait Bus) : List Effect :=
  (wait.reached.1.service (⟨wait.reached.2, []⟩ : Recorded (Sim.Bench Bus))).2.history

/-- The effects of the call up to the reading at which the wait begins. What is left out is that
reading, and the note of the wait. -/
def sending (wait : Wait Bus) : List Effect := (wait.before.since wait.begun).dropLast.dropLast

/-- The clock when it is read for the beginning of the wait. -/
def start (wait : Wait Bus) : Sim.HandClock := wait.before.world.clock.after wait.sending

/-- The clock when the step reads it in milliseconds. -/
def clock (wait : Wait Bus) : Sim.HandClock := wait.reached.2.clock

/-- What it means that a wait has begun, and is outstanding in front of the step. -/
structure Outstanding (wait : Wait Bus) : Prop where
  begins : armings (wait.before.since wait.begun) = 1
  /-- No other wait has begun. -/
  single : armings (wait.begun.since wait.later) = 0
  busy : wait.reached.1.isBusy = true

variable {wait : Wait Bus}

/-- The wait began at a reading of the clock, the last one of the call. -/
theorem Outstanding.begun (outstanding : wait.Outstanding) :
    wait.before.since wait.begun =
        wait.sending ++ [.millis wait.start.shown, .note .waitArmed] ∧
      wait.begun.link.waitingSince = some wait.start.shown := by
  have begins := outstanding.begins
  obtain ⟨answer, effects, grown, -, performed, leads⟩ := wait.before.move_grows wait.call
  rw [Wait.begun, Session.since_eq grown] at begins
  obtain ⟨sending, since, ends, waits⟩ := performed.begins begins
  have before : wait.sending = sending := by
    rw [Wait.sending, Wait.begun, Session.since_eq grown, ends, ← List.singleton_append,
      ← List.append_assoc, List.dropLast_concat, List.dropLast_concat]
  rw [ends] at leads
  have shown : since = wait.start.shown := by rw [Sim.shown_after_of_leads leads, start, before]
  rw [Wait.begun, Session.since_eq grown, before, ends, waits, shown]
  exact ⟨rfl, rfl⟩

/-- The step finds the wait that began then. -/
theorem Outstanding.reached (outstanding : wait.Outstanding) :
    wait.reached.1.waitingSince = some wait.start.shown := by
  have kept := (watched_waitingSince wait.start.shown).kept
  have held := kept.run_since wait.begun (fun _ => .inl outstanding.begun.2) wait.moves
  obtain ⟨effects, -, same, -, pumped⟩ :=
    pump_traces wait.rounds wait.later.link (⟨wait.later.world, []⟩ : Recorded (Sim.Bench Bus))
  rw [Wait.reached, same]
  have busy := outstanding.busy
  rw [Wait.reached, same] at busy
  rcases kept.steps pumped.steps held
    (by rw [armings_append, pumped.armings]; exact outstanding.single) with waits | free
  · exact waits
  · rw [isBusy, free] at busy
    cases busy

/-- What it means that a step gives up on a reply neither too early nor too late: by the whole
milliseconds between two readings it is said when the reply counts as overdue, and then what that
means for the true microseconds between them. -/
structure OverdueExactly (wait : Wait Bus) : Prop where
  /-- The call that began the wait ended with the first of the two readings. -/
  begun : wait.before.since wait.begun =
    wait.sending ++ [.millis wait.start.shown, .note .waitArmed]
  /-- The step began with the second one. -/
  looked : wait.step.head? = some (.millis wait.clock.shown)
  precise : reported .replyTimedOut wait.step =
    if wait.reached.1.config.replyTimeout.toNat <
      wait.clock.now.toNat / 1000 - wait.start.now.toNat / 1000 then 1 else 0
  never : wait.clock.now.toNat - wait.start.now.toNat ≤
      1000 * wait.reached.1.config.replyTimeout.toNat →
    reported .replyTimedOut wait.step = 0
  always : 1000 * (wait.reached.1.config.replyTimeout.toNat + 1) ≤
      wait.clock.now.toNat - wait.start.now.toNat →
    reported .replyTimedOut wait.step = 1

/-- However the clock moves with its readings, whatever the line does, and wherever the counter of
milliseconds wraps: a step that finds a wait outstanding ends it as overdue exactly if more whole
milliseconds have passed than the limit, as long as these fit the counter. -/
theorem overdue_exactly_beyond_limit (outstanding : wait.Outstanding)
    (later : wait.start.now ≤ wait.clock.now)
    (within : wait.clock.now.toNat / 1000 - wait.start.now.toNat / 1000 < 2 ^ 32) :
    wait.OverdueExactly := by
  obtain ⟨effects, grown, same, leads, serviced⟩ :=
    service_traces wait.reached.1 (⟨wait.reached.2, []⟩ : Recorded (Sim.Bench Bus))
  rw [List.nil_append] at grown
  obtain ⟨now, rest, first, reports⟩ := serviced.reported_replyTimedOut outstanding.reached
  rw [first] at leads
  have shown : now = wait.clock.shown := Sim.shown_of_leads leads
  have order : wait.start.now.toNat ≤ wait.clock.now.toNat := later
  rw [shown, Sim.HandClock.elapsed_shown,
    Sim.HandClock.passed_since_shown (Nat.div_le_div_right order) within] at reports
  have precise : reported .replyTimedOut wait.step =
      if wait.reached.1.config.replyTimeout.toNat <
        wait.clock.now.toNat / 1000 - wait.start.now.toNat / 1000 then 1 else 0 := by
    rw [step, grown, reports]
    split <;> simp [*]
  refine ⟨outstanding.begun.1, ?_, precise, fun soon => ?_, fun long => ?_⟩
  · rw [step, grown, first, shown, List.head?_cons]
  · rw [precise, if_neg (by omega)]
  · rw [precise, if_pos (by omega)]

/-- A write that is sent a little before the counter of milliseconds wraps. No reply comes in, and
the next step is taken after a time. -/
def sample (time : UInt64) : Wait Sim.Wire where
  before := Session.start { replyTimeout := 100 }
    { line := {}, clock := { now := .ofNat (2 ^ 32 * 1000 - 5000), step := 7 } }
  call := .masterSend 0 (sampleWrite.take 6)
  moves := [.call .service, .meanwhile fun bench =>
    { bench with clock := bench.clock.advance time }]
  rounds := 2

/-- Across the wrap of the counter a reply is not overdue when a hundred milliseconds have passed. -/
theorem timely_across_wrap : (sample 99000).Outstanding ∧ (sample 99000).OverdueExactly := by
  have outstanding : (sample 99000).Outstanding :=
    { begins := by decide +kernel
      single := by decide +kernel
      busy := by decide +kernel }
  exact ⟨outstanding,
    overdue_exactly_beyond_limit outstanding (by decide +kernel) (by decide +kernel)⟩

end Wait

end BusNode.Link
