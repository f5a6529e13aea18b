/-
This file runs a whole node on a bench. Time moves on in small steps, and the node makes one pass of
its main loop after each.
-/
import BusNode.Node
import BusNode.Sim.Bench

namespace BusNode.Sim.Rehearsal

variable {Bus : Type} [Line Bus]

/-- How far the clock moves before each pass, in microseconds. -/
def stride : UInt64 := 100

/-- How many passes a node makes in a millisecond. -/
def passesPerMs : Nat := 10

/-- Runs a node for a number of passes. The run ends early when an answer does not go out. -/
def run (patience budget : Nat) : Nat → Node → StateM (Bench Bus) (Link.SendResult × Node)
  | 0, node => return (.sent, node)
  | passes + 1, node => do
    modify fun bench => { bench with clock := bench.clock.advance stride }
    match ← node.pass patience budget with
    | (.sent, node) => run patience budget passes node
    | unsent => return unsent

/-- Runs a node for a time in milliseconds. -/
def runFor (patience budget time : Nat) (node : Node) :
    StateM (Bench Bus) (Link.SendResult × Node) :=
  run patience budget (passesPerMs * time) node

end BusNode.Sim.Rehearsal
