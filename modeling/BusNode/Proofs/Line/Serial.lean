/-
This file proves that a line made of a serial device and a pin behaves as the wire of a rehearsal
does. What was tried on the wire therefore holds on the board: the same bytes can be read, the
transmitter is on at the same times, and the same bytes leave in the same order.

The wire keeps what was sent frame by frame and the device takes it in portions of its own choosing,
so the two are compared by the bytes alone. A device is known by what shows of it: the bytes that it
has taken and those that wait to be read. What a call does to them is relied on only where the call
does not fail, and a device may claim to have a byte when it has none.
-/
import BusNode.Proofs.Guarded
import BusNode.Sim.Device
import BusNode.Sim.Wire

namespace BusNode

/-! ### What shows of a device -/

/-- What shows of a kind of serial devices, and what their calls do to it. -/
structure SerialDevice.Probe (Device : Type) [SerialDevice Device] where
  /-- The bytes that were taken for sending, the earliest first. -/
  taken : Device → List UInt8
  /-- The bytes that wait to be read, the earliest first. -/
  unread : Device → List UInt8
  /-- Lets bytes come in. -/
  arrive : List UInt8 → Device → Device
  write {first : UInt8} {rest : List UInt8} {device next : Device} {more : Nat}
      (written : SerialDevice.write first rest device = (.ok more, next)) :
    more ≤ rest.length ∧ taken next = taken device ++ first :: rest.take more ∧
      unread next = unread device
  flush {device next : Device} (flushed : SerialDevice.flush device = (.ok (), next)) :
    taken next = taken device ∧ unread next = unread device
  /-- A device that has a byte says so. -/
  ready {device next : Device} {answer : Bool}
      (asked : SerialDevice.ready device = (.ok answer, next)) :
    (unread device ≠ [] → answer = true) ∧ taken next = taken device ∧
      unread next = unread device
  read {device next : Device} {answer : Option UInt8}
      (got : SerialDevice.read device = (.ok answer, next)) :
    answer = (unread device).head? ∧ taken next = taken device ∧
      unread next = (unread device).tail
  arrived (bytes : List UInt8) (device : Device) :
    taken (arrive bytes device) = taken device ∧
      unread (arrive bytes device) = unread device ++ bytes

/-- What shows of a kind of output pins. -/
structure OutputPin.Probe (Pin : Type) [OutputPin Pin] where
  /-- The level that the pin was driven to last, if ever. -/
  level : Pin → Option Bool
  drive {enabled : Bool} {pin next : Pin} (driven : OutputPin.drive enabled pin = (true, next)) :
    level next = some enabled

namespace SerialDevice.Probe

variable {Device : Type} [SerialDevice Device] (probe : Probe Device)

/-- However small the portions are, all bytes are taken in their order. -/
theorem writeAll {bytes : List UInt8} {device next : Device}
    (written : SerialDevice.writeAll bytes device = (.ok (), next)) :
    probe.taken next = probe.taken device ++ bytes ∧ probe.unread next = probe.unread device := by
  induction bytes using SerialDevice.writeAll.induct generalizing device with
  | case1 =>
    rw [SerialDevice.writeAll] at written
    obtain ⟨-, rfl⟩ := Prod.mk.inj written
    exact ⟨(List.append_nil _).symm, rfl⟩
  | case2 first rest inductionHypothesis =>
    rw [SerialDevice.writeAll] at written
    simp only [bind, StateT.bind] at written
    rcases portion : SerialDevice.write first rest device with ⟨fault | more, middle⟩
    · rw [portion] at written
      cases written
    · rw [portion] at written
      obtain ⟨few, taken, unread⟩ := probe.write portion
      obtain ⟨takenLater, unreadLater⟩ := inductionHypothesis more written
      refine ⟨?_, unreadLater.trans unread⟩
      rw [takenLater, taken, List.append_assoc, List.cons_append, List.take_append_drop]

/-- A byte is read if there is one, whatever the device claims when there is none. -/
theorem poll {device next : Device} {answer : Option UInt8}
    (got : SerialDevice.poll device = (.ok answer, next)) :
    answer = (probe.unread device).head? ∧ probe.taken next = probe.taken device ∧
      probe.unread next = (probe.unread device).tail := by
  simp only [SerialDevice.poll, bind, StateT.bind] at got
  match claim : (SerialDevice.ready : StateM Device _) device with
  | (.error fault, middle) =>
    rw [claim] at got
    cases got
  | (.ok false, middle) =>
    rw [claim] at got
    obtain ⟨honest, taken, unread⟩ := probe.ready claim
    cases got
    have none : probe.unread device = [] := by
      refine Decidable.byContradiction fun some => ?_
      cases honest some
    rw [unread, none]
    exact ⟨rfl, taken, rfl⟩
  | (.ok true, middle) =>
    rw [claim] at got
    obtain ⟨-, taken, unread⟩ := probe.ready claim
    obtain ⟨first, takenLater, rest⟩ := probe.read got
    rw [first, takenLater, rest, unread]
    exact ⟨rfl, taken, rfl⟩

end SerialDevice.Probe

/-! ### What happens at a line -/

namespace Line

/-- What is asked of a line. -/
inductive Call where
  | drive (enabled : Bool)
  | write (bytes : List UInt8)
  | flush
  | read

/-- What a line answers. -/
inductive Answer where
  | done (outcome : Except Error Unit)
  | byte (outcome : Except Error (Option UInt8))

/-- Whether the line did what it was asked. -/
def Answer.isOk : Answer → Bool
  | done outcome => outcome.isOk
  | byte outcome => outcome.isOk

/-- Makes a call. -/
def Call.perform {World : Type} [Line World] : Call → StateM World Answer
  | drive enabled => do return .done (← Line.drive enabled)
  | write bytes => do return .done (← Line.write bytes)
  | flush => do return .done (← Line.flush)
  | read => do return .byte (← Line.read)

section Perform

variable {World : Type} [Line World] (world : World)

theorem perform_drive (enabled : Bool) : (Call.drive enabled).perform world =
    (.done (Line.drive enabled world).1, (Line.drive enabled world).2) := rfl

theorem perform_write (bytes : List UInt8) : (Call.write bytes).perform world =
    (.done (Line.write bytes world).1, (Line.write bytes world).2) := rfl

theorem perform_flush : Call.flush.perform world =
    (.done ((Line.flush : StateM World (Except Error Unit)) world).1,
      ((Line.flush : StateM World (Except Error Unit)) world).2) := rfl

theorem perform_read : Call.read.perform world =
    (.byte ((Line.read : StateM World (Except Error (Option UInt8))) world).1,
      ((Line.read : StateM World (Except Error (Option UInt8))) world).2) := rfl

end Perform

/-- What happens at a line: it is used, or bytes come in. -/
inductive Happening where
  | call (call : Call)
  | arrival (bytes : List UInt8)

/-- The answers to the calls of a run, and the line after it. -/
def run {World : Type} [Line World] (arrive : List UInt8 → World → World) :
    List Happening → World → List Answer × World
  | [], world => ([], world)
  | .arrival bytes :: rest, world => run arrive rest (arrive bytes world)
  | .call call :: rest, world =>
    let (answer, next) := call.perform world
    let (answers, last) := run arrive rest next
    (answer :: answers, last)

/-- Whether the transmitter is to be on after something has happened. -/
def transmitting (on : Bool) : Happening → Bool
  | .call (.drive enabled) => enabled
  | _ => on

/-- What may happen while the transmitter is on or off: bytes are written only while it is on. -/
def Gated (on : Bool) : Happening → Prop
  | .call (.write _) => on = true
  | _ => True

end Line

/-! ### A wire without a responder -/

namespace Sim.Wire

variable {wire : Wire}

theorem write_eq (willing : wire.refusing = false) (on : wire.transmitting = true)
    (bytes : List UInt8) :
    wire.write bytes = (.ok (), { wire with pending := wire.pending ++ bytes }) := by
  rw [Wire.write, willing, on, if_neg Bool.false_ne_true, if_pos rfl]

/-- A flush moves what is pending behind what was sent, and changes nothing else. -/
theorem flush_eq (silent : wire.responder = .silent) :
    ∃ next : Wire, wire.flush = (.ok (), next) ∧ next.incoming = wire.incoming ∧
      next.sent.flatten ++ next.pending = wire.sent.flatten ++ wire.pending ∧
        next.transmitting = wire.transmitting ∧ next.responder = .silent ∧
          next.refusing = wire.refusing := by
  rw [Wire.flush]
  cases blank : wire.pending.isEmpty with
  | true => exact ⟨wire, rfl, rfl, rfl, rfl, silent, rfl⟩
  | false =>
    rw [silent]
    exact ⟨_, rfl, List.append_nil _, by simp, rfl, rfl, rfl⟩

theorem read_eq : wire.read =
    (.ok wire.incoming.head?, { wire with incoming := wire.incoming.tail }) := by
  match unread : wire.incoming with
  | [] =>
    have same : wire = { wire with incoming := [] } := by rw [← unread]
    rw [Wire.read, unread]
    exact congrArg (Prod.mk _) same
  | byte :: rest =>
    rw [Wire.read, unread]
    rfl

end Sim.Wire

/-! ### The devices of a rehearsal -/

namespace Sim

/-- What shows of a device for rehearsals. It keeps to what is asked of a serial device whatever
portions it takes, however it is told to fail, and whatever it claims to have. -/
def Device.probe : SerialDevice.Probe Device where
  taken := wire
  unread := incoming
  arrive := inject
  write {first rest device next more} written := by
    match fault : device.faults.write with
    | some _ =>
      simp only [SerialDevice.write, fault] at written
      cases written
    | none =>
      simp only [SerialDevice.write, fault] at written
      cases written
      refine ⟨?_, ?_, rfl⟩
      · rw [List.length_take]
        exact Nat.min_le_right _ _
      · rw [List.length_take, List.take_eq_take_min]
  flush {device next} flushed := by
    match fault : device.faults.flush with
    | some _ =>
      simp only [SerialDevice.flush, fault] at flushed
      cases flushed
    | none =>
      simp only [SerialDevice.flush, fault] at flushed
      cases flushed
      exact ⟨rfl, rfl⟩
  ready {device next answer} asked := by
    match fault : device.faults.ready with
    | some _ =>
      simp only [SerialDevice.ready, fault] at asked
      cases asked
    | none =>
      simp only [SerialDevice.ready, fault] at asked
      cases asked
      refine ⟨fun some => ?_, rfl, rfl⟩
      rw [List.isEmpty_eq_false_iff.mpr some, Bool.not_false, Bool.or_true]
  read {device next answer} got := by
    match fault : device.faults.read, unread : device.incoming with
    | some _, _ =>
      simp only [SerialDevice.read, fault] at got
      cases got
    | none, [] =>
      simp only [SerialDevice.read, fault, unread] at got
      cases got
      exact ⟨rfl, rfl, unread⟩
    | none, byte :: rest =>
      simp only [SerialDevice.read, fault, unread] at got
      cases got
      exact ⟨rfl, rfl, rfl⟩
  arrived bytes device := ⟨rfl, rfl⟩

theorem Pin.drive_eq (enabled : Bool) (pin : Pin) :
    OutputPin.drive enabled pin =
      if (if enabled then pin.failsHigh else pin.failsLow) then (false, pin)
      else (true, { pin with level := some enabled }) := rfl

/-- What shows of a pin for rehearsals. -/
def Pin.gauge : OutputPin.Probe Pin where
  level := level
  drive {enabled pin next} driven := by
    by_cases fails : (if enabled then pin.failsHigh else pin.failsLow) = true
    · rw [drive_eq, if_pos fails] at driven
      cases driven
    · rw [drive_eq, if_neg fails] at driven
      cases driven
      rfl

/-- A device that was never told to fail takes all bytes. -/
theorem Device.writeAll_of_faultless {device : Device} (faultless : device.faults = {})
    (bytes : List UInt8) :
    ∃ next, SerialDevice.writeAll bytes device = (.ok (), next) ∧ next.faults = {} := by
  induction bytes using SerialDevice.writeAll.induct generalizing device with
  | case1 => exact ⟨device, by rw [SerialDevice.writeAll]; rfl, faultless⟩
  | case2 first rest inductionHypothesis =>
    have taken : SerialDevice.write first rest device =
        (.ok (rest.take device.extra).length,
          { device with wire := device.wire ++ first :: rest.take device.extra }) := by
      simp only [SerialDevice.write, faultless]
    obtain ⟨next, written, still⟩ := inductionHypothesis (rest.take device.extra).length
      (show ({ device with wire := device.wire ++ first :: rest.take device.extra } :
        Device).faults = {} from faultless)
    refine ⟨next, ?_, still⟩
    rw [SerialDevice.writeAll]
    simp only [bind, StateT.bind, taken]
    exact written

/-- A device that was never told to fail can be asked for a byte. -/
theorem Device.poll_of_faultless {device : Device} (faultless : device.faults = {}) :
    ∃ answer next, SerialDevice.poll device = (.ok answer, next) ∧ next.faults = {} := by
  have claim : SerialDevice.ready device =
      (.ok (device.alwaysReady || !device.incoming.isEmpty), device) := by
    simp only [SerialDevice.ready, faultless]
  simp only [SerialDevice.poll, bind, StateT.bind, claim]
  cases device.alwaysReady || !device.incoming.isEmpty with
  | false => exact ⟨none, device, rfl, faultless⟩
  | true =>
    cases unread : device.incoming with
    | nil => exact ⟨none, device, by simp only [SerialDevice.read, faultless, unread], faultless⟩
    | cons byte rest =>
      refine ⟨some byte, { device with incoming := rest }, ?_, faultless⟩
      simp only [SerialDevice.read, faultless, unread]

end Sim

/-! ### A serial line beside a wire -/

namespace SerialLine

section Calls

variable {Device Pin : Type} {line : SerialLine Device Pin}

/-- A device that did not fail the line did not fail itself. -/
theorem onDevice_ok {α : Type} {action : StateM Device (Except SerialFault α)}
    (sound : (onDevice action line).1.isOk = true) :
    ∃ value device, action line.device = (.ok value, device) ∧
      onDevice action line = (.ok value, { line with device }) := by
  match acted : action line.device with
  | (.error fault, device) =>
    rw [onDevice, acted] at sound
    cases sound
  | (.ok value, device) =>
    refine ⟨value, device, rfl, ?_⟩
    rw [onDevice, acted]
    rfl

theorem onPin_ok [OutputPin Pin] {enabled : Bool}
    (sound : (onPin enabled line).1.isOk = true) :
    ∃ enable, OutputPin.drive enabled line.enable = (true, enable) ∧
      onPin enabled line = (.ok (), { line with enable }) := by
  match driven : OutputPin.drive enabled line.enable with
  | (false, enable) =>
    rw [onPin, driven] at sound
    cases sound
  | (true, enable) =>
    refine ⟨enable, rfl, ?_⟩
    rw [onPin, driven]
    rfl

end Calls

variable {Device Pin : Type} [SerialDevice Device] [OutputPin Pin]
  (probe : SerialDevice.Probe Device) (gauge : OutputPin.Probe Pin)

/-- Lets bytes come in at the device. -/
def arrive (bytes : List UInt8) (line : SerialLine Device Pin) : SerialLine Device Pin :=
  { line with device := probe.arrive bytes line.device }

/-- A serial line and a wire without a responder of which the same shows. The transmitter of the
wire is off at first, and the level of a pin that was never driven is not known. -/
structure Alike (driven : Bool) (line : SerialLine Device Pin) (wire : Sim.Wire) : Prop where
  unread : probe.unread line.device = wire.incoming
  taken : probe.taken line.device = wire.sent.flatten ++ wire.pending
  level : driven = true → gauge.level line.enable = some wire.transmitting
  silent : wire.responder = .silent
  willing : wire.refusing = false

/-- Whether a pin that was driven or not has been driven after something has happened. -/
def drivenBy (driven : Bool) : Line.Happening → Bool
  | .call (.drive _) => true
  | _ => driven

variable {probe gauge} {line : SerialLine Device Pin} {wire : Sim.Wire} {driven : Bool}

/-- A call that does not fail on the line is answered by the wire in the same way. -/
theorem Alike.call (alike : Alike probe gauge driven line wire) {call : Line.Call}
    (gated : Line.Gated wire.transmitting (.call call))
    (sound : (call.perform line).1.isOk = true) :
    (call.perform line).1 = (call.perform wire).1 ∧
      (call.perform wire).2.transmitting = Line.transmitting wire.transmitting (.call call) ∧
      Alike probe gauge (drivenBy driven (.call call)) (call.perform line).2
        (call.perform wire).2 := by
  obtain ⟨unread, taken, level, silent, willing⟩ := alike
  cases call with
  | drive enabled =>
    obtain ⟨enable, drove, same⟩ := onPin_ok sound
    rw [Line.perform_drive, Line.perform_drive, show Line.drive enabled line = _ from same]
    exact ⟨rfl, rfl, unread, taken, fun _ => gauge.drive drove, silent, willing⟩
  | write bytes =>
    have wrote : (onDevice (SerialDevice.writeAll bytes) line).1.isOk = true := sound
    obtain ⟨⟨⟩, device, wrote, same⟩ := onDevice_ok wrote
    obtain ⟨takenLater, unreadLater⟩ := probe.writeAll wrote
    rw [Line.perform_write, Line.perform_write, show Line.write bytes line = _ from same,
      show Line.write bytes wire = _ from Sim.Wire.write_eq willing gated bytes]
    refine ⟨rfl, rfl, unreadLater.trans unread, ?_, level, silent, willing⟩
    rw [takenLater, taken, List.append_assoc]
  | flush =>
    have flushed : (onDevice SerialDevice.flush line).1.isOk = true := sound
    obtain ⟨⟨⟩, device, flushed, same⟩ := onDevice_ok flushed
    obtain ⟨takenLater, unreadLater⟩ := probe.flush flushed
    obtain ⟨next, left, incoming, bytes, transmitting, responder, refusing⟩ :=
      Sim.Wire.flush_eq silent
    rw [Line.perform_flush, Line.perform_flush, show Line.flush line = _ from same,
      show Line.flush wire = _ from left]
    refine ⟨rfl, transmitting, ?_, ?_, fun set => ?_, responder, refusing.trans willing⟩
    · rw [unreadLater, unread, incoming]
    · rw [takenLater, taken, bytes]
    · rw [transmitting]
      exact level set
  | read =>
    have got : (onDevice SerialDevice.poll line).1.isOk = true := sound
    obtain ⟨answer, device, got, same⟩ := onDevice_ok got
    obtain ⟨first, takenLater, unreadLater⟩ := probe.poll got
    rw [Line.perform_read, Line.perform_read, show Line.read line = _ from same,
      show Line.read wire = _ from Sim.Wire.read_eq, first, unread]
    exact ⟨rfl, rfl, by rw [unreadLater, unread], takenLater.trans taken, level, silent, willing⟩

theorem Alike.arrival (alike : Alike probe gauge driven line wire) (bytes : List UInt8) :
    Alike probe gauge driven (arrive probe bytes line) (wire.inject bytes) := by
  obtain ⟨taken, unread⟩ := probe.arrived bytes line.device
  exact ⟨unread.trans (congrArg (· ++ bytes) alike.unread), taken.trans alike.taken, alike.level,
    alike.silent, alike.willing⟩

/-- As long as no call fails on the line, a whole run is answered by the wire in the same way. -/
theorem Alike.run (alike : Alike probe gauge driven line wire) {happenings : List Line.Happening}
    (gated : Guarded Line.transmitting Line.Gated wire.transmitting happenings)
    (sound : ∀ answer ∈ (Line.run (arrive probe) happenings line).1, answer.isOk = true) :
    (Line.run (arrive probe) happenings line).1 = (Line.run Sim.Wire.inject happenings wire).1 ∧
      (Line.run Sim.Wire.inject happenings wire).2.transmitting =
        happenings.foldl Line.transmitting wire.transmitting ∧
      Alike probe gauge (happenings.foldl drivenBy driven)
        (Line.run (arrive probe) happenings line).2
        (Line.run Sim.Wire.inject happenings wire).2 := by
  induction happenings generalizing driven line wire with
  | nil => exact ⟨rfl, rfl, alike⟩
  | cons happening rest inductionHypothesis =>
    obtain ⟨allowed, gated⟩ := gated
    cases happening with
    | arrival bytes => exact inductionHypothesis (alike.arrival bytes) gated sound
    | call call =>
      have first : (call.perform line).1.isOk = true := sound _ List.mem_cons_self
      have later : ∀ answer ∈ (Line.run (arrive probe) rest (call.perform line).2).1,
          answer.isOk = true := fun answer member => sound answer (List.mem_cons_of_mem _ member)
      obtain ⟨same, transmitting, next⟩ := alike.call allowed first
      rw [← transmitting] at gated
      obtain ⟨sameLater, transmittingLater, last⟩ := inductionHypothesis next gated later
      refine ⟨List.cons_eq_cons.mpr ⟨same, sameLater⟩, ?_, last⟩
      rw [List.foldl_cons, ← transmitting]
      exact transmittingLater

/-- A pin that has been driven stays so. -/
theorem foldl_drivenBy {happenings : List Line.Happening} {enabled : Bool}
    (drives : .call (.drive enabled) ∈ happenings) :
    happenings.foldl drivenBy driven = true := by
  have still (happening : Line.Happening) : drivenBy true happening = true := by
    unfold drivenBy
    split <;> rfl
  obtain ⟨before, after, rfl⟩ := List.append_of_mem drives
  rw [List.foldl_append, List.foldl_cons]
  exact foldl_of_still fun happening _ => still happening

/-- A serial line on which no call fails behaves as a wire without a responder, whatever portions
the device takes and whatever it claims to have. The calls are answered alike, the same bytes are
left to be read, the same bytes have been sent or are about to be, in the same order, and a pin that
has been driven is at the level that the transmitter of the wire is at. Nothing is supposed about
the calls but that bytes are written only while the transmitter is on, and bytes may come in at any
time. -/
theorem behaves_as_wire (probe : SerialDevice.Probe Device) (gauge : OutputPin.Probe Pin)
    {line last : SerialLine Device Pin} (unused : probe.taken line.device = [])
    (quiet : probe.unread line.device = []) {happenings : List Line.Happening}
    (gated : Guarded Line.transmitting Line.Gated false happenings) {answers : List Line.Answer}
    (ran : Line.run (arrive probe) happenings line = (answers, last))
    (sound : ∀ answer ∈ answers, answer.isOk = true) :
    ∃ wire : Sim.Wire, Line.run Sim.Wire.inject happenings {} = (answers, wire) ∧
      probe.unread last.device = wire.incoming ∧
      probe.taken last.device = wire.sent.flatten ++ wire.pending ∧
      wire.transmitting = happenings.foldl Line.transmitting false ∧
      ∀ enabled, .call (.drive enabled) ∈ happenings →
        gauge.level last.enable = some wire.transmitting := by
  have fresh : Alike probe gauge false line {} :=
    ⟨quiet, unused, fun driven => Bool.noConfusion driven, rfl, rfl⟩
  obtain ⟨same, transmitting, alike⟩ := fresh.run gated (ran ▸ sound)
  rw [ran] at same alike
  exact ⟨_, Prod.ext same.symm rfl, alike.unread, alike.taken, transmitting,
    fun enabled drives => alike.level (foldl_drivenBy drives)⟩

/-- A line of devices for rehearsals that were never told to fail. -/
structure Faultless (line : SerialLine Sim.Device Sim.Pin) : Prop where
  device : line.device.faults = {}
  high : line.enable.failsHigh = false
  low : line.enable.failsLow = false

theorem Faultless.call {line : SerialLine Sim.Device Sim.Pin} (faultless : Faultless line)
    (call : Line.Call) :
    (call.perform line).1.isOk = true ∧ Faultless (call.perform line).2 := by
  obtain ⟨device, high, low⟩ := faultless
  cases call with
  | drive enabled =>
    have obeys : ¬ (if enabled then line.enable.failsHigh else line.enable.failsLow) = true := by
      cases enabled <;> simp [high, low]
    have drove : Line.drive enabled line =
        (.ok (), { line with enable := { line.enable with level := some enabled } }) := by
      show onPin enabled line = _
      rw [onPin, Sim.Pin.drive_eq, if_neg obeys]
      rfl
    rw [Line.perform_drive, drove]
    exact ⟨rfl, device, high, low⟩
  | write bytes =>
    obtain ⟨next, written, still⟩ := Sim.Device.writeAll_of_faultless device bytes
    have wrote : Line.write bytes line = (.ok (), { line with device := next }) := by
      show onDevice _ line = _
      rw [onDevice, written]
      rfl
    rw [Line.perform_write, wrote]
    exact ⟨rfl, still, high, low⟩
  | flush =>
    have flushed : SerialDevice.flush line.device =
        (.ok (), { line.device with flushes := line.device.flushes + 1 }) := by
      simp only [SerialDevice.flush, device]
    have left : (Line.flush : StateM _ _) line = (.ok (), { line with
        device := { line.device with flushes := line.device.flushes + 1 } }) := by
      show onDevice _ line = _
      rw [onDevice, flushed]
      rfl
    rw [Line.perform_flush, left]
    exact ⟨rfl, device, high, low⟩
  | read =>
    obtain ⟨answer, next, polled, still⟩ := Sim.Device.poll_of_faultless device
    have got : (Line.read : StateM _ _) line = (.ok answer, { line with device := next }) := by
      show onDevice _ line = _
      rw [onDevice, polled]
      rfl
    rw [Line.perform_read, got]
    exact ⟨rfl, still, high, low⟩

/-- No call fails on a line of devices that were never told to fail. -/
theorem Faultless.run {line : SerialLine Sim.Device Sim.Pin} (faultless : Faultless line)
    (happenings : List Line.Happening) :
    ∀ answer ∈ (Line.run (arrive Sim.Device.probe) happenings line).1, answer.isOk = true := by
  induction happenings generalizing line with
  | nil => exact fun answer member => absurd member List.not_mem_nil
  | cons happening rest inductionHypothesis =>
    cases happening with
    | arrival bytes => exact inductionHypothesis ⟨faultless.device, faultless.high, faultless.low⟩
    | call call =>
      obtain ⟨sound, still⟩ := faultless.call call
      exact List.forall_mem_cons.mpr ⟨sound, inductionHypothesis still⟩

/-- A device that takes two bytes at a time, and always claims to have a byte, answers as the wire
does, and has taken what left the wire and the byte that was still pending there. -/
theorem small_portions_behave_as_wire :
    ∃ last : SerialLine Sim.Device Sim.Pin,
      Line.run (arrive Sim.Device.probe)
          [.call (.drive true), .call (.write [1, 2, 3]), .arrival [8], .call (.write [4, 5, 6]),
            .call .flush, .call (.write [7]), .call (.drive false), .call .read, .arrival [9],
            .call .read, .call .read] ⟨{ extra := 1, alwaysReady := true }, {}⟩ =
        ([.done (.ok ()), .done (.ok ()), .done (.ok ()), .done (.ok ()), .done (.ok ()),
          .done (.ok ()), .byte (.ok (some 8)), .byte (.ok (some 9)), .byte (.ok none)], last) ∧
      last.device.wire = [1, 2, 3, 4, 5, 6] ++ [7] ∧ last.device.incoming = [] ∧
      last.enable.level = some false := by
  have faultless : Faultless ⟨{ extra := 1, alwaysReady := true }, {}⟩ := ⟨rfl, rfl, rfl⟩
  have gated : Guarded Line.transmitting Line.Gated false
      [.call (.drive true), .call (.write [1, 2, 3]), .arrival [8], .call (.write [4, 5, 6]),
        .call .flush, .call (.write [7]), .call (.drive false), .call .read, .arrival [9],
        .call .read, .call .read] := by
    simp [Line.Gated, Line.transmitting]
  obtain ⟨wire, same, unread, taken, -, level⟩ :=
    behaves_as_wire Sim.Device.probe Sim.Pin.gauge rfl rfl gated (Prod.eta _).symm
      (faultless.run _)
  obtain ⟨answers, rfl⟩ := Prod.mk.inj same
  exact ⟨_, Prod.ext answers.symm rfl, taken, unread, level true List.mem_cons_self⟩

end SerialLine

end BusNode
