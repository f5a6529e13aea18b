/-
This file says what each operation on a queue of events does to the list of those that wait. A null
event changes nothing, and any other event joins the list at the end it was meant for, unless the
list is already as long as the queue is deep.
-/
import BusNode.Event.Queue
import BusNode.Ring.View

namespace BusNode.EventQueue

variable {depth : Depth}

@[simp] theorem length_toList (queue : EventQueue depth) : queue.toList.length = queue.length :=
  Ring.length_toList _

/-- No more events wait than there is room for. -/
theorem length_le (queue : EventQueue depth) : queue.length ≤ depth.size := Ring.length_le _

@[simp] theorem toList_empty : (empty : EventQueue depth).toList = [] := Ring.toList_emptyAt 0

@[simp] theorem toList_clear (queue : EventQueue depth) : queue.clear.toList = [] :=
  Ring.toList_clear _

/-- A null event is accepted and forgotten. -/
theorem insert?_of_isNil {event : Event} (null : event.isNil = true) (place : QueueEnd)
    (queue : EventQueue depth) : queue.insert? place event = some queue := by
  simp [insert?, null]

/-- Any other event is refused exactly when the queue is full. -/
theorem insert?_eq_none_iff {event : Event} (real : event.isNil = false) (place : QueueEnd)
    (queue : EventQueue depth) :
    queue.insert? place event = none ↔ queue.toList.length = depth.size := by
  rw [toList, ← Ring.isFull_iff]
  cases place
  · simp [insert?, real, Ring.pushBack?_eq_none_iff]
  · simp [insert?, real, Ring.pushFront?_eq_none_iff]

/-- An event that joins at the back waits behind all others. -/
theorem toList_insert?_back {event : Event} (real : event.isNil = false)
    {queue longer : EventQueue depth} (inserted : queue.insert? .back event = some longer) :
    longer.toList = queue.toList ++ [event] := by
  simp only [insert?, real, Bool.false_eq_true, if_false, Option.map_eq_some_iff] at inserted
  obtain ⟨ring, pushed, rfl⟩ := inserted
  exact Ring.toList_pushBack? pushed

/-- An event that joins at the front waits ahead of all others. -/
theorem toList_insert?_front {event : Event} (real : event.isNil = false)
    {queue longer : EventQueue depth} (inserted : queue.insert? .front event = some longer) :
    longer.toList = event :: queue.toList := by
  simp only [insert?, real, Bool.false_eq_true, if_false, Option.map_eq_some_iff] at inserted
  obtain ⟨ring, pushed, rfl⟩ := inserted
  exact Ring.toList_pushFront? pushed

/-- There is no next event exactly when none waits. -/
theorem next?_eq_none_iff (queue : EventQueue depth) :
    queue.next? = none ↔ queue.toList = [] := by
  simp [next?, Ring.popFront?_eq_none_iff, toList]

/-- The next event is the one that waits ahead of all others. -/
theorem toList_of_next? {event : Event} {queue rest : EventQueue depth}
    (taken : queue.next? = some (event, rest)) : queue.toList = event :: rest.toList := by
  simp only [next?, Option.map_eq_some_iff, Prod.mk.injEq, Prod.exists] at taken
  obtain ⟨oldest, ring, popped, rfl, rfl⟩ := taken
  exact Ring.toList_of_popFront? popped

end BusNode.EventQueue
