/-
This file names the events, for whoever reads a trace. A catalog holds the ids of the library and,
after them, those an application has added. Where an id is listed twice the first entry counts.
-/
import BusNode.Event.Basic

namespace BusNode

/-- What a catalog says about one id. -/
structure EventInfo where
  id : UInt8
  name : String
  description : String
  deriving DecidableEq, Repr

/-- The entries for the ids of the library. -/
def EventInfo.library : List EventInfo :=
  [{ id := Event.nilId, name := "NIL", description := "Null event, queue empty" },
   { id := Event.stateChangeId, name := "DEBUG_SM_STATE_CHANGE",
     description := "State change, p8 machine id, p16 new state" },
   { id := Event.entryId, name := "SM_ENTRY",
     description := "Sent by the runner on state entry" },
   { id := Event.exitId, name := "SM_EXIT",
     description := "Sent by the runner on state exit" },
   { id := Event.selfId, name := "SM_SELF", description := "Self event, p8 machine id" },
   { id := Event.timerId, name := "TIMER",
     description := "Timer expired, p8 timer index, p16 cookie" },
   { id := Event.timerArmId, name := "DEBUG_TIMER_ARM",
     description := "Timer started, p8 timer index, p16 ticks" },
   { id := Event.timerStopId, name := "DEBUG_TIMER_STOP",
     description := "Timer stopped, p8 timer index" },
   { id := Event.queueFullId, name := "DEBUG_QUEUE_FULL",
     description := "Queue full, p8 rejected id" },
   { id := Event.debugId, name := "DEBUG", description := "Generic debug event" }]

/-- The names of events: those of the library and those an application has added. -/
structure EventCatalog where
  application : List EventInfo := []
  deriving Repr

namespace EventCatalog

/-- All entries, those of the library first. -/
def entries (catalog : EventCatalog) : List EventInfo :=
  EventInfo.library ++ catalog.application

/-- The entry for an id. -/
def info? (id : UInt8) (catalog : EventCatalog) : Option EventInfo :=
  catalog.entries.find? fun entry => entry.id == id

/-- The name of an id, empty if it has none. -/
def name (id : UInt8) (catalog : EventCatalog) : String :=
  ((catalog.info? id).map EventInfo.name).getD ""

/-- The description of an id, empty if it has none. -/
def description (id : UInt8) (catalog : EventCatalog) : String :=
  ((catalog.info? id).map EventInfo.description).getD ""

/-- How many entries there are. -/
def count (catalog : EventCatalog) : Nat := catalog.entries.length

end EventCatalog

end BusNode
