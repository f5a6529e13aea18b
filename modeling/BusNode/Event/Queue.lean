/-
This file defines the queue of events that wait to be handled. Events are added at either end and
taken from the front. A null event asks for nothing, so it is accepted and forgotten; any other
event is refused when the queue is full.
-/
import BusNode.Event.Basic
import BusNode.Ring.Basic

namespace BusNode

/-- Where an event joins the queue. -/
inductive QueueEnd where
  /-- Behind everything that waits. -/
  | back
  /-- Ahead of everything that waits. -/
  | front
  deriving DecidableEq, Repr

/-- Events that wait to be handled. -/
structure EventQueue (depth : Depth) where
  ring : Ring Event depth
  deriving Inhabited

namespace EventQueue

variable {depth : Depth}

/-- The empty queue. -/
def empty : EventQueue depth := { ring := .empty }

/-- How many events wait. -/
def length (queue : EventQueue depth) : Nat := queue.ring.length

/-- Whether no event waits. -/
def isEmpty (queue : EventQueue depth) : Bool := queue.ring.isEmpty

/-- The events that wait, the next one first. -/
def toList (queue : EventQueue depth) : List Event := queue.ring.toList

/-- Adds an event at one end. There may be no room. -/
def insert? (place : QueueEnd) (event : Event) (queue : EventQueue depth) :
    Option (EventQueue depth) :=
  if event.isNil then some queue
  else match place with
    | .back => (queue.ring.pushBack? event).map EventQueue.mk
    | .front => (queue.ring.pushFront? event).map EventQueue.mk

/-- Takes the next event. -/
def next? (queue : EventQueue depth) : Option (Event × EventQueue depth) :=
  queue.ring.popFront?.map fun (event, ring) => (event, { ring })

/-- Forgets all events. -/
def clear (queue : EventQueue depth) : EventQueue depth := { ring := queue.ring.clear }

end EventQueue

end BusNode
