/-
This file proves that a send which has to wait for the end of an exchange comes back, if every
reading moves the clock. The wait has no counter of its own. What ends it is that the wait for the
reply runs out, and a step sees that only if it reads the clock while the wrapped distance from the
beginning of the wait is beyond the limit. So it is shown that no step is long enough to pass over
the whole of that stretch.

The measure is the true time that is left until a reading finds the reply overdue. Every step lowers
it, but for one that takes true time itself over its wrap; after that the measure is below its bound
again, and true time does not come to its wrap a second time.
-/
import BusNode.Proofs.Link.Timeout
import BusNode.Proofs.Link.Sending

namespace BusNode

/-! ### Time that is left -/

namespace Sim.HandClock

/-- The microseconds until a reading finds more milliseconds passed than a limit. -/
def left (clock : HandClock) (since limit : UInt32) : Nat :=
  1000 * (limit.toNat + 1) - (1000 * clock.passed since + clock.now.toNat % 1000)

/-- The most microseconds that can be left. -/
def most (limit : UInt32) : Nat := 1000 * (limit.toNat + 1)

theorem left_le_most (clock : HandClock) (since limit : UInt32) :
    clock.left since limit ≤ most limit :=
  Nat.sub_le _ _

/-- While the limit has not passed, some time is left. -/
theorem left_pos {clock : HandClock} {since limit : UInt32}
    (early : clock.passed since ≤ limit.toNat) : 0 < clock.left since limit := by
  unfold left
  omega

/-- As true time goes on, as much less is left. The limit and a step together are too short for the
counter of milliseconds to come round. -/
theorem left_of_later {clock later : HandClock} {since limit : UInt32} {time : Nat}
    (short : limit.toNat ≤ 2 ^ 31) (early : clock.passed since ≤ limit.toNat)
    (on : later.now.toNat = clock.now.toNat + time) (small : time < 3 * 2 ^ 32) :
    later.left since limit = clock.left since limit - time := by
  have order : clock.now.toNat / 1000 ≤ later.now.toNat / 1000 := by omega
  have grown := passed_of_later since order
  unfold left
  omega

end Sim.HandClock

namespace Link

/-! ### Steps in which a wait goes on -/

/-- What is known of a step after which the link still waits. -/
structure Lingers (link : Link) (effects : List Effect) (next : Link) (since : UInt32) : Prop where
  before : link.waitingSince = some since
  after : next.waitingSince = some since
  config : next.config = link.config
  looks : ∃ now rest, effects = .millis now :: rest ∧
    Clock.elapsed now since link.config.replyTimeout = false
  /-- The clock is read at most three times, and it is read. -/
  few : readings effects ≤ 3
  some : 0 < readings effects

theorem Silence.lingers {link next : Link} {effects : List Effect}
    (silence : Silence link effects next) (busy : next.isBusy = true) :
    next.waitingSince = link.waitingSince ∧ next.config = link.config ∧ readings effects ≤ 1 := by
  cases silence with
  | idle _ => exact ⟨rfl, rfl, Nat.zero_le _⟩
  | soon _ _ => exact ⟨rfl, rfl, Nat.le_refl _⟩
  | blank _ _ _ => exact ⟨rfl, rfl, Nat.le_refl _⟩
  | frame _ _ _ => cases busy

theorem Reception.lingers {link next : Link} {effects : List Effect}
    (reception : Reception link effects next) :
    next.waitingSince = link.waitingSince ∧ next.config = link.config ∧ readings effects ≤ 1 := by
  cases reception with
  | nothing => exact ⟨rfl, rfl, Nat.zero_le _⟩
  | failed error => exact ⟨rfl, rfl, Nat.zero_le _⟩
  | byte byte now =>
    refine ⟨rfl, rfl, ?_⟩
    cases !link.inbound.takes [byte] && !link.inbound.overflow <;> exact Nat.le_refl _

/-- A step that leaves the link waiting has read the clock, and found that the limit has not
passed. -/
theorem Serviced.lingers {link next : Link} {effects : List Effect}
    (serviced : Serviced link effects next) (busy : next.isBusy = true) :
    ∃ since, Lingers link effects next since := by
  obtain ⟨deadline, silence, reception⟩ := serviced
  obtain ⟨received, settings, once⟩ := reception.lingers
  rw [isBusy, received] at busy
  obtain ⟨framed, settingsFramed, onceFramed⟩ := silence.lingers busy
  rw [framed] at busy
  cases deadline with
  | idle idle =>
    rw [idle] at busy
    cases busy
  | late _ _ => cases busy
  | @early since now waiting early =>
    have looked : readings [.millis now] = 1 := rfl
    refine ⟨since, waiting, by rw [received, framed, waiting], settings.trans settingsFramed,
      ⟨now, _, rfl, early⟩, ?_, ?_⟩
    · rw [readings_append, readings_append, looked]
      omega
    · rw [readings_append, readings_append, looked]
      omega

/-! ### Waiting on a bench -/

theorem run_bind {World Answer Next : Type} (first : StateM World Answer)
    (rest : Answer → StateM World Next) (world : World) :
    (first >>= rest) world = rest (first world).1 (first world).2 :=
  rfl

theorem answer_returns {World : Type} {send : StateM World (SendResult × Link)} {world : World}
    (returned : (send world).1.1 ≠ .waiting) :
    ((send >>= fun outcome => pure (Answer.ofSend outcome.1, outcome.2)) world).1.1 ≠ .waiting := by
  rw [run_bind]
  match sent : (send world).1 with
  | (.sent, next) => exact Answer.noConfusion
  | (.refused error, next) => exact Answer.noConfusion
  | (.waiting, next) => exact absurd (congrArg Prod.fst sent) returned

section Bench

variable {Bus : Type} [Line Bus] {link : Link} {bench : Sim.Bench Bus} {patience : Nat}

theorem pump_of_free (patience : Nat) (free : link.isBusy = false) :
    link.pump patience bench = (link, bench) := by
  cases patience with
  | zero => rfl
  | succ patience =>
    rw [pump, free]
    rfl

/-- To see that a wait comes to an end it is enough to look at the steps in which it goes on. They
find the limit not passed, and take true time, but no more than three readings can take. -/
theorem pump_succ_ends (moving : bench.clock.step ≠ 0)
    (rest : ∀ (since : UInt32) (next : Link) (later : Sim.Bench Bus) (time : Nat),
      link.waitingSince = some since → next.waitingSince = some since →
        next.config = link.config → later.clock.step = bench.clock.step →
          0 < time → time < 3 * 2 ^ 32 →
            later.clock.now.toNat = (bench.clock.now.toNat + time) % 2 ^ 64 →
              bench.clock.passed since ≤ link.config.replyTimeout.toNat →
                (next.pump patience later).1.isBusy = false) :
    (link.pump (patience + 1) bench).1.isBusy = false := by
  cases busy : link.isBusy with
  | false => rw [pump_of_free _ busy, busy]
  | true =>
    obtain ⟨effects, -, same, leads, serviced⟩ :=
      service_traces link (⟨bench, []⟩ : Recorded (Sim.Bench Bus))
    have stepped : link.pump (patience + 1) bench =
        (link.service bench).1.pump patience (link.service bench).2 := by
      rw [pump, busy]
      rfl
    rw [stepped, same]
    revert serviced leads
    generalize (link.service (⟨bench, []⟩ : Recorded (Sim.Bench Bus))).1 = next
    generalize (link.service (⟨bench, []⟩ : Recorded (Sim.Bench Bus))).2.world = later
    intro leads serviced
    cases waits : next.isBusy with
    | false => rw [pump_of_free _ waits, waits]
    | true =>
      obtain ⟨since, lingers⟩ := serviced.lingers waits
      obtain ⟨now, others, first, early⟩ := lingers.looks
      have shown : now = bench.clock.shown := Sim.shown_of_leads (first ▸ leads)
      rw [shown, Sim.HandClock.elapsed_shown, decide_eq_false_iff_not, Nat.not_lt] at early
      have clock := Sim.clock_of_leads leads
      have moves : 0 < bench.clock.step.toNat :=
        Nat.pos_of_ne_zero fun zero => moving (UInt32.toNat_inj.mp zero)
      refine rest since next later (readings effects * bench.clock.step.toNat) lingers.before
        lingers.after lingers.config ?_ (Nat.mul_pos lingers.some moves)
        (Nat.mul_lt_mul_of_le_of_lt lingers.few bench.clock.step.toNat_lt (by decide)) ?_ early
      · rw [clock, Sim.HandClock.step_after]
      · rw [clock, Sim.HandClock.toNat_now_after]

/-- When no time is left, the next step ends the wait. -/
theorem pump_ends_of_none_left {limit since : UInt32} (moving : bench.clock.step ≠ 0)
    (settings : link.config.replyTimeout = limit) (waits : link.waitingSince = some since)
    (spent : bench.clock.left since limit = 0) :
    (link.pump (patience + 1) bench).1.isBusy = false := by
  refine pump_succ_ends moving fun begun next later time waiting _ _ _ _ _ _ early => ?_
  obtain rfl := Option.some.inj (waiting.symm.trans waits)
  rw [settings] at early
  exact absurd spent (Nat.ne_of_gt (Sim.HandClock.left_pos early))

/-- Where true time is far from its wrap, as many steps are enough as microseconds are left, and one
more. -/
theorem pump_ends_before_wrap {limit since : UInt32} (short : limit.toNat ≤ 2 ^ 31)
    (moving : bench.clock.step ≠ 0) (settings : link.config.replyTimeout = limit)
    (waits : link.waitingSince = some since) (within : bench.clock.left since limit ≤ patience)
    (far : 0 < bench.clock.left since limit →
      bench.clock.now.toNat + bench.clock.left since limit + 3 * 2 ^ 32 ≤ 2 ^ 64) :
    (link.pump (patience + 1) bench).1.isBusy = false := by
  induction patience generalizing link bench with
  | zero => exact pump_ends_of_none_left moving settings waits (Nat.le_zero.mp within)
  | succ patience inductionHypothesis =>
    refine pump_succ_ends moving
      fun begun next later time waiting still kept same some small on early => ?_
    obtain rfl := Option.some.inj (waiting.symm.trans waits)
    rw [settings] at early
    have room := far (Sim.HandClock.left_pos early)
    rw [Nat.mod_eq_of_lt (by omega)] at on
    have less := Sim.HandClock.left_of_later short early on small
    refine inductionHypothesis (by rw [same]; exact moving) (by rw [kept, settings]) still ?_ ?_
    · omega
    · omega

/-- Wherever true time is, as many steps are enough as microseconds are left, and, if it comes to
its wrap by then, as many again as can ever be left. -/
theorem pump_ends {limit since : UInt32} (short : limit.toNat ≤ 2 ^ 31)
    (moving : bench.clock.step ≠ 0) (settings : link.config.replyTimeout = limit)
    (waits : link.waitingSince = some since) (within : bench.clock.left since limit ≤ patience) :
    (link.pump (patience + (Sim.HandClock.most limit + 1) + 1) bench).1.isBusy = false := by
  induction patience generalizing link bench with
  | zero => exact pump_ends_of_none_left moving settings waits (Nat.le_zero.mp within)
  | succ patience inductionHypothesis =>
    refine pump_succ_ends moving
      fun begun next later time waiting still kept same some small on early => ?_
    obtain rfl := Option.some.inj (waiting.symm.trans waits)
    rw [settings] at early
    have room := Sim.HandClock.left_pos early
    have settled : next.config.replyTimeout = limit := by rw [kept, settings]
    by_cases wraps : bench.clock.now.toNat + time < 2 ^ 64
    · rw [Nat.mod_eq_of_lt wraps] at on
      have less := Sim.HandClock.left_of_later short early on small
      rw [Nat.add_right_comm]
      exact inductionHypothesis (by rw [same]; exact moving) settled still (by omega)
    · -- True time begins again, so it is far from its wrap.
      have wide := bench.clock.now.toNat_lt
      have most := Sim.HandClock.left_le_most later.clock begun limit
      have bound : Sim.HandClock.most limit ≤ 2 ^ 42 := by
        unfold Sim.HandClock.most
        omega
      rw [← Nat.add_assoc]
      refine pump_ends_before_wrap short (by rw [same]; exact moving) settled still (by omega) ?_
      omega

/-- As many steps as always end a wait for a reply, wherever true time is. -/
def enough (limit : UInt32) : Nat := 2 * (Sim.HandClock.most limit + 1)

theorem pump_ends_of_enough (short : link.config.replyTimeout.toNat ≤ 2 ^ 31)
    (moving : bench.clock.step ≠ 0) (patient : enough link.config.replyTimeout ≤ patience) :
    (link.pump patience bench).1.isBusy = false := by
  cases waits : link.waitingSince with
  | none =>
    have free : link.isBusy = false := by rw [isBusy, waits]; rfl
    rw [pump_of_free _ free, free]
  | some since =>
    obtain ⟨spare, rfl⟩ := Nat.exists_eq_add_of_le patient
    have left := Sim.HandClock.left_le_most bench.clock since link.config.replyTimeout
    have parts : enough link.config.replyTimeout + spare =
        Sim.HandClock.most link.config.replyTimeout + spare +
          (Sim.HandClock.most link.config.replyTimeout + 1) + 1 := by
      unfold enough
      omega
    rw [parts]
    exact pump_ends short moving rfl waits (by omega)

/-- Whether a send comes back is decided by the steps that it takes first. -/
theorem deliver_returns {frame : List UInt8} (ends : (link.pump patience bench).1.isBusy = false) :
    (link.deliver patience frame bench).1.1 ≠ .waiting := by
  rw [deliver, run_bind, ends, if_neg Bool.false_ne_true]
  match (link.pump patience bench).1.load frame with
  | (.error error, loaded) => exact SendResult.noConfusion
  | (.ok (), loaded) =>
    dsimp only
    rw [run_bind]
    match (loaded.transmit loaded.outbound.bytes (link.pump patience bench).2).1 with
    | (.error error, next) => exact SendResult.noConfusion
    | (.ok (), next) => exact SendResult.noConfusion

theorem masterSend_returns {frame : List UInt8}
    (ends : (link.pump patience bench).1.isBusy = false) :
    (link.masterSend patience frame bench).1.1 ≠ .waiting := by
  unfold masterSend
  match Reply.checkFits frame with
  | .error error => exact SendResult.noConfusion
  | .ok () =>
    have returned : (link.deliver patience frame bench).1.1 ≠ .waiting := deliver_returns ends
    dsimp only
    rw [run_bind]
    match delivered : (link.deliver patience frame bench).1 with
    | (.sent, next) =>
      dsimp only
      rw [run_bind]
      exact SendResult.noConfusion
    | (.refused error, next) => exact SendResult.noConfusion
    | (.waiting, next) => exact absurd (congrArg Prod.fst delivered) returned

theorem request_returns {built : Except Error Frame}
    (ends : ∀ later : Sim.Bench Bus, later.clock = bench.clock →
      (link.pump patience later).1.isBusy = false) :
    (link.request patience built bench).1.1 ≠ .waiting := by
  unfold request
  match built with
  | .error error => exact SendResult.noConfusion
  | .ok frame =>
    dsimp only
    cases frame.functionCode? with
    | none => exact masterSend_returns (ends bench rfl)
    | some code => exact masterSend_returns (ends _ rfl)

/-- A call comes back whose steps end the wait, whatever it notes before them. -/
theorem perform_returns {call : Call} (patient : call.patience? = some patience)
    (ends : ∀ later : Sim.Bench Bus, later.clock = bench.clock →
      (link.pump patience later).1.isBusy = false) :
    (call.perform link bench).1.1 ≠ .waiting := by
  cases call with
  | slaveSend given frame =>
    obtain rfl : given = patience := Option.some.inj patient
    exact answer_returns (deliver_returns (ends bench rfl))
  | masterSend given frame =>
    obtain rfl : given = patience := Option.some.inj patient
    exact answer_returns (masterSend_returns (ends bench rfl))
  | writeRegister given id address value =>
    obtain rfl : given = patience := Option.some.inj patient
    exact answer_returns (request_returns ends)
  | readRegisters given id address count =>
    obtain rfl : given = patience := Option.some.inj patient
    exact answer_returns (request_returns ends)
  | commandRelay given id relay command seconds =>
    obtain rfl : given = patience := Option.some.inj patient
    exact answer_returns (request_returns ends)
  | service | sendRaw | setSlaveId | setPacketLogging => cases patient

end Bench

/-! ### Every wait comes to an end -/

/-- A call that is to send a frame, and comes back, leaves no reply awaited but the one to the
frame. -/
theorem Performed.armings_of_sends {link next : Link} {call : Call} {answer : Answer}
    {effects : List Effect} {frame : List UInt8}
    (performed : Performed link call answer effects next) (sends : call.Sends frame)
    (returned : answer ≠ .waiting) : Link.armings effects = next.isBusy.toNat := by
  obtain ⟨result, notes, later, rfl, rfl, -, quiet, sending⟩ := performed.sending sends
  have back : result ≠ .waiting := by
    rintro rfl
    exact returned rfl
  rw [armings_append, armings_of_aside quiet.aside, Nat.zero_add]
  cases sending with
  | reply delivery => rw [delivery.armings, delivery.free_of_returned back, Bool.toNat_false]
  | request accepted requested =>
    rw [requested.armings]
    cases result with
    | sent => rw [decide_eq_true rfl, Bool.true_and]
    | waiting => exact absurd rfl back
    | refused error =>
      have delivery := (Sending.request accepted requested).delivery SendResult.noConfusion
      rw [delivery.free_of_returned SendResult.noConfusion, Bool.and_false]

/-- The link of a session agrees with its history. -/
theorem Session.Reached.accounted {World : Type} [Clock World] [Line World] [Journal World]
    [Listener World] {session : Session World} (reached : session.Reached) :
    Accounted session.link session.history := by
  obtain ⟨config, world, moves, rfl⟩ := reached
  exact (Accounted.watched.kept.run (fun _ _ => True) config (Accounted.initial config)
    (fun _ _ _ _ _ => trivial) world moves).1

/-- As many waits end during a call as are outstanding before it and begin in it, but for the one
that is outstanding after it. -/
theorem Accounted.balance {link next : Link} {call : Call} {answer : Answer}
    {past effects : List Effect} (held : Accounted link past)
    (performed : Performed link call answer effects next) :
    Link.armings effects + link.isBusy.toNat = Link.endings effects + next.isBusy.toNat := by
  have after := Accounted.watched.kept.performed performed held
  have inTurn := after.inTurn
  rw [guarded_append] at inTurn
  have balance := armings_add_eq_endings_add inTurn.2
  have waiting := after.waiting
  rw [awaiting_append] at waiting
  rwa [show past.foldl Effect.wait false = awaiting past from rfl, waiting, held.waiting] at balance

/-- What it means that a call which has to wait for the end of an exchange comes back. -/
structure ComesBack {Bus : Type} [Line Bus] (session : Session (Sim.Bench Bus)) (call : Call)
    (patience : Nat) : Prop where
  /-- The steps that it takes first leave no reply awaited. -/
  ends : (session.link.pump patience session.world).1.isBusy = false
  /-- So it does not come back for want of patience. -/
  returned : (session.move (.call call)).answer? ≠ some .waiting
  /-- By then there was one report of the outcome of a reply, if one was awaited. -/
  once : endings (session.since (session.move (.call call))) = session.link.isBusy.toNat

/-- Whatever a link has been used for, whatever its line does, and by whatever step its clock moves
with each reading: a send that waits for the end of an exchange comes back, if the limit for a reply
is not above two to the thirty-one milliseconds. -/
theorem every_wait_comes_back {Bus : Type} [Line Bus] {session : Session (Sim.Bench Bus)}
    {call : Call} {frame : List UInt8} {patience : Nat} (reached : session.Reached)
    (moving : session.world.clock.step ≠ 0)
    (short : session.link.config.replyTimeout.toNat ≤ 2 ^ 31) (sends : call.Sends frame)
    (given : call.patience? = some patience)
    (patient : enough session.link.config.replyTimeout ≤ patience) :
    ComesBack session call patience := by
  have ends (later : Sim.Bench Bus) (same : later.clock = session.world.clock) :
      (session.link.pump patience later).1.isBusy = false :=
    pump_ends_of_enough short (by rw [same]; exact moving) patient
  obtain ⟨answer, effects, next, world, moved, performed, -, perform⟩ := session.move_call call
  have returned := perform_returns given ends
  rw [perform] at returned
  have grown : (session.move (.call call)).history = session.history ++ effects := by
    rw [moved, Session.history, history_append, history_cons, history_nil, List.append_nil]
    rfl
  refine ⟨ends _ rfl, ?_, ?_⟩
  · rw [moved, Session.answer?, List.getLast?_concat]
    exact fun waiting => returned (Option.some.inj waiting)
  · have balance := reached.accounted.balance performed
    rw [performed.armings_of_sends sends returned] at balance
    rw [Session.since_eq grown]
    omega

/-- A link that has sent a request which nobody answers, over a clock that moves by one microsecond
with each reading. -/
def unanswered : Session (Sim.Bench Sim.Wire) :=
  (Session.start {} { line := {}, clock := { step := 1 } }).run
    [.call (.masterSend 0 (sampleWrite.take 6))]

/-- A reply that has to wait for the end of the exchange comes back all the same. -/
theorem unanswered_comes_back :
    unanswered.link.isBusy = true ∧
      ComesBack unanswered (.slaveSend (enough 100) [0x11, 0x06, 0x00]) (enough 100) := by
  refine ⟨by decide +kernel, ?_⟩
  exact every_wait_comes_back ⟨_, _, _, rfl⟩ (by decide +kernel) (by decide +kernel) (.reply _) rfl
    (by decide +kernel)

end Link

end BusNode
