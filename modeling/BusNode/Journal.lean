/-
This file lists what a node notes while it works, and how each note reads. The journal is for
people: nothing in the library reads it. A note has a severity, and whoever keeps a journal may drop
notes that are not severe enough.
-/
import BusNode.Link.Config
import BusNode.Link.Outcome
import BusNode.Request.FunctionCode

namespace BusNode

/-! ### Severity -/

/-- How much a note matters, the most severe first. -/
inductive Severity where
  | warn
  | info
  | debug
  | trace
  deriving DecidableEq, Repr

namespace Severity

/-- The name of a severity at the start of a note. -/
def name : Severity → String
  | warn => "WARN"
  | info => "INFO"
  | debug => "DEBUG"
  | trace => "TRACE"

/-- How far a severity is from the most severe one. -/
def rank : Severity → Nat
  | warn => 0
  | info => 1
  | debug => 2
  | trace => 3

/-- Whether a journal that is kept down to one severity has room for another. -/
def admits (kept severity : Severity) : Bool := severity.rank ≤ kept.rank

end Severity

/-! ### Notices -/

/-- What a node notes while it works. -/
inductive Notice where
  /-- A link was set up. -/
  | linkStarted (config : Link.Config)
  /-- A request was put together. -/
  | frameBuilt (function : UInt8) (length : Nat)
  /-- A frame went out or came in. The direction is free text. -/
  | packet (direction : String) (slaveId : Option UInt8) (bytes : List UInt8)
  | transmitFailed (error : Error)
  | receiveFailed (error : Error)
  /-- The wait for a reply began. -/
  | waitArmed
  /-- The wait for a reply ran out of time. -/
  | waitTimedOut
  /-- The wait for a reply ended with a frame. -/
  | waitCleared
  /-- The line has been silent long enough to end a frame. -/
  | silence
  /-- The first byte of a frame that the receive buffer has no room for. -/
  | receiveOverflow (capacity : Nat)
  | frameReceived (outcome : Link.Outcome) (length : Nat)
  /-- An event found no room in the queue. -/
  | queueFull (id : UInt8)
  | timerArmed (index : UInt8) (ticks cookie : UInt16)
  /-- A timeout came for a timer that was stopped or started again since. -/
  | staleTimeout (index : UInt8) (cookie : UInt16)
  | machineStarted (id : UInt8)
  | stateChanged (id before after : UInt8)
  /-- A supervisor has not heard of the master for too long. -/
  | masterLost (id : UInt8)
  deriving DecidableEq, Repr

namespace Notice

/-- How severe a note is. -/
def severity : Notice → Severity
  | transmitFailed _ | receiveFailed _ | receiveOverflow _ | queueFull _ => .warn
  | masterLost _ => .info
  | linkStarted _ | frameBuilt .. | packet .. | frameReceived .. | machineStarted _
  | stateChanged .. => .debug
  | waitArmed | waitTimedOut | waitCleared | silence | timerArmed .. | staleTimeout .. => .trace

/-- A note in words. -/
def text : Notice → String
  | linkStarted config =>
    s!"link initialised baud={config.baudRate} inter_byte_timeout_us={config.interByteTimeout} " ++
      s!"response_timeout_ms={config.replyTimeout} slave_id={config.slaveId}"
  | frameBuilt function length =>
    s!"Frame built: FC={Hex.ofByte function} ({FunctionCode.describe function}), len={length}"
  | packet direction (some id) bytes =>
    s!"[MODBUS-RTU] {direction} slave:{id} {Hex.packet bytes}"
  | packet direction none bytes => s!"[MODBUS-RTU] {direction} {Hex.packet bytes}"
  | transmitFailed error => s!"transmit failed: {error.message}"
  | receiveFailed error => s!"receive failed: {error.message}"
  | waitArmed => "master wait armed"
  | waitTimedOut => "master wait timed out"
  | waitCleared => "master wait cleared"
  | silence => "rx silence"
  | receiveOverflow capacity => s!"rx buffer overflow capacity={capacity}"
  | frameReceived outcome length => s!"frame received event={outcome.label} len={length}"
  | queueFull id => s!"event queue full id={id}"
  | timerArmed index ticks cookie => s!"timer armed index={index} ticks={ticks} cookie={cookie}"
  | staleTimeout index cookie => s!"stale timer event dropped timer={index} cookie={cookie}"
  | machineStarted id => s!"state machine init id={id}"
  | stateChanged id before after => s!"state change id={id} from={before} to={after}"
  | masterLost id => s!"master comms lost id={id}"

/-- A note as one line, its severity first. -/
def line (notice : Notice) : String := s!"{notice.severity.name} {notice.text}"

end Notice

/-! ### Journals -/

/-- A world in which a journal is kept. -/
class Journal (World : Type) where
  /-- Adds a note. -/
  note : Notice → StateM World Unit

namespace Journal

/-- Adds a note if there is reason to. -/
def noteIf {World : Type} [Journal World] (reason : Bool) (notice : Notice) :
    StateM World Unit :=
  if reason then note notice else pure ()

/-- The lines of a journal that is kept down to the given severity. -/
def lines (kept : Severity) (notices : List Notice) : List String :=
  (notices.filter fun notice => kept.admits notice.severity).map Notice.line

end Journal

end BusNode
