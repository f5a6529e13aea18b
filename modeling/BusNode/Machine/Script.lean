/-
This file defines what a state machine may do while it handles an event. It may ask for services,
one after another, and what it asks next may depend on the answers. Such a course of action is a
value, a script, which ends in a result or asks for a service and goes on with the answer.

A script does not say who answers. The node that runs it does, and a proof can look at every course
that the answers could lead to.
-/
import BusNode.Event.Queue
import BusNode.Journal

namespace BusNode

/-! ### Services -/

/-- What a machine may ask for. -/
inductive Service where
  /-- To queue an event. -/
  | publish (place : QueueEnd) (event : Event)
  /-- To write an event to the trace without queueing it. -/
  | trace (event : Event)
  | startTimer (index : UInt8) (ticks : UInt16)
  | stopTimer (index : UInt8)
  /-- How many ticks a timer has left. -/
  | ticksLeft (index : UInt8)
  /-- Whether an event is the timeout of the last start of its timer. -/
  | isCurrent (event : Event)
  /-- How many ticks a time in milliseconds is. -/
  | ticksIn (time : UInt32)
  /-- What the time is, in milliseconds. -/
  | now
  /-- To add a note to the journal. -/
  | note (notice : Notice)
  deriving DecidableEq, Repr

/-- The answer to a service. A queue answers whether it had room, and the start of a timer answers
with the new cookie if there is such a timer. -/
abbrev Service.Answer : Service → Type
  | publish .. => Bool
  | trace _ => Unit
  | startTimer .. => Option UInt16
  | stopTimer _ => Unit
  | ticksLeft _ => UInt16
  | isCurrent _ => Bool
  | ticksIn _ => UInt16
  | now => UInt32
  | note _ => Unit

/-! ### Scripts -/

/-- A course of action that may ask for services. -/
inductive Script (α : Type) where
  /-- It is over, with a result. -/
  | done (result : α)
  /-- It asks for a service and goes on with the answer. -/
  | ask (service : Service) (next : service.Answer → Script α)

namespace Script

variable {α β γ : Type}

/-- Goes on with a second script where the first is over. -/
def andThen : Script α → (α → Script β) → Script β
  | done result, next => next result
  | ask service rest, next => ask service fun answer => (rest answer).andThen next

instance : Monad Script where
  pure := done
  bind := andThen

@[simp] theorem pure_eq (result : α) : (pure result : Script α) = done result := rfl

@[simp] theorem done_bind (result : α) (next : α → Script β) :
    done result >>= next = next result := rfl

@[simp] theorem ask_bind (service : Service) (rest : service.Answer → Script α)
    (next : α → Script β) : ask service rest >>= next = ask service fun answer =>
      rest answer >>= next := rfl

theorem bind_done (script : Script α) : script >>= done = script := by
  induction script with
  | done result => rfl
  | ask service rest hypothesis => simp [hypothesis]

theorem bind_assoc (script : Script α) (next : α → Script β) (last : β → Script γ) :
    script >>= next >>= last = script >>= fun result => next result >>= last := by
  induction script with
  | done result => rfl
  | ask service rest hypothesis => simp [hypothesis]

instance : LawfulMonad Script := LawfulMonad.mk' Script
  bind_done
  (fun _ _ => rfl)
  bind_assoc

/-! ### One service -/

/-- Asks for one service. -/
def call (service : Service) : Script service.Answer := ask service done

/-- Queues an event, and says whether there was room. -/
def publish (place : QueueEnd) (event : Event) : Script Bool := call (.publish place event)

/-- Writes an event to the trace only. -/
def trace (event : Event) : Script Unit := call (.trace event)

/-- Starts a timer. -/
def startTimer (index : UInt8) (ticks : UInt16) : Script (Option UInt16) :=
  call (.startTimer index ticks)

/-- Stops a timer. -/
def stopTimer (index : UInt8) : Script Unit := call (.stopTimer index)

/-- Asks how many ticks a timer has left. -/
def ticksLeft (index : UInt8) : Script UInt16 := call (.ticksLeft index)

/-- Asks whether an event is the timeout of the last start of its timer. -/
def isCurrent (event : Event) : Script Bool := call (.isCurrent event)

/-- Asks how many ticks a time in milliseconds is. -/
def ticksIn (time : UInt32) : Script UInt16 := call (.ticksIn time)

/-- Asks for the time. -/
def now : Script UInt32 := call .now

/-- Adds a note to the journal. -/
def note (notice : Notice) : Script Unit := call (.note notice)

end Script

end BusNode
