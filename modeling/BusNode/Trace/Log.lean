/-
This file defines the trace, a record of the newest events for whoever looks for a fault afterwards.
It keeps the events whose ids its mask allows, each with the time at which it was written. When it
is full the oldest entry gives way, and the trace counts how many did.
-/
import BusNode.Ring.Basic
import BusNode.Trace.Mask

namespace BusNode

/-- An event in the trace, and when it was written, in milliseconds. -/
structure TraceEntry where
  time : UInt32 := 0
  event : Event := { id := Event.nilId }
  deriving DecidableEq, Repr, Inhabited

/-- A record of the newest events. -/
structure TraceLog (depth : Depth) where
  ring : Ring TraceEntry depth
  mask : TraceMask := .none
  /-- How many entries gave way since the trace was last cleared. -/
  overwritten : UInt32 := 0
  deriving Inhabited

namespace TraceLog

variable {depth : Depth}

/-- The empty trace, which records nothing until its mask is edited. -/
def empty : TraceLog depth := { ring := .empty }

/-- How many entries are held. -/
def length (log : TraceLog depth) : Nat := log.ring.length

/-- Whether no entry is held. -/
def isEmpty (log : TraceLog depth) : Bool := log.ring.isEmpty

/-- The entries that are held, oldest first. -/
def toList (log : TraceLog depth) : List TraceEntry := log.ring.toList

/-- Records an event if the mask allows its id. -/
def write (time : UInt32) (event : Event) (log : TraceLog depth) : TraceLog depth :=
  if log.mask.records event.id then
    match log.ring.pushOver { time, event } with
    | (none, ring) => { log with ring }
    | (some _, ring) => { log with ring, overwritten := log.overwritten + 1 }
  else log

/-- Takes the oldest entry. -/
def read? (log : TraceLog depth) : Option (TraceEntry × TraceLog depth) :=
  log.ring.popFront?.map fun (entry, ring) => (entry, { log with ring })

/-- Takes entries until none is left, but no more than the given number. -/
def readUpTo : Nat → TraceLog depth → List TraceEntry × TraceLog depth
  | 0, log => ([], log)
  | limit + 1, log =>
    match log.read? with
    | none => ([], log)
    | some (entry, log) =>
      let (entries, log) := readUpTo limit log
      (entry :: entries, log)

/-- Takes all entries. -/
def readAll (log : TraceLog depth) : List TraceEntry × TraceLog depth :=
  log.readUpTo log.length

/-- Forgets all entries and how many gave way. The mask stays. -/
def clear (log : TraceLog depth) : TraceLog depth :=
  { log with ring := log.ring.clear, overwritten := 0 }

/-- Edits the mask and nothing else. -/
def editMask (edit : TraceMask → TraceMask) (log : TraceLog depth) : TraceLog depth :=
  { log with mask := edit log.mask }

end TraceLog

end BusNode
