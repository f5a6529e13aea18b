/-
This file defines the world of a rehearsal: a clock that is driven by hand, a line, the notes that
were made, and the reports that were given. What was noted and reported stays until it is taken, so
a rehearsal can be looked at step by step.
-/
import BusNode.Journal
import BusNode.Line.Basic
import BusNode.Sim.Clock

namespace BusNode.Sim

/-- The world of a rehearsal. -/
structure Bench (Bus : Type) where
  line : Bus
  clock : HandClock := {}
  notices : Array Notice := #[]
  reports : Array Link.Report := #[]
  /-- How many of the reports the application has collected. -/
  collected : Nat := 0

namespace Bench

variable {Bus : Type}

/-- Lets the clock act. -/
def onClock {α : Type} (action : StateM HandClock α) : StateM (Bench Bus) α := fun bench =>
  let (answer, clock) := action bench.clock
  (answer, { bench with clock })

/-- Lets the line act. -/
def onLine {α : Type} (action : StateM Bus α) : StateM (Bench Bus) α := fun bench =>
  let (answer, line) := action bench.line
  (answer, { bench with line })

instance : Clock (Bench Bus) where
  micros := onClock Clock.micros
  millis := onClock Clock.millis

instance [Line Bus] : Line (Bench Bus) where
  drive enabled := onLine (Line.drive enabled)
  write bytes := onLine (Line.write bytes)
  flush := onLine Line.flush
  read := onLine Line.read

instance : Journal (Bench Bus) where
  note notice := fun bench => ((), { bench with notices := bench.notices.push notice })

instance : Inbox (Bench Bus) where
  report report := fun bench => ((), { bench with reports := bench.reports.push report })
  collect := fun bench =>
    ((bench.reports.extract bench.collected bench.reports.size).toList,
      { bench with collected := bench.reports.size })

/-- Takes the notes that were made. -/
def takeNotices : StateM (Bench Bus) (List Notice) := fun bench =>
  (bench.notices.toList, { bench with notices := #[] })

/-- Takes the reports that the application has collected. The others stay. -/
def takeCollected : StateM (Bench Bus) (List Link.Report) := fun bench =>
  ((bench.reports.extract 0 bench.collected).toList,
    { bench with
      reports := bench.reports.extract bench.collected bench.reports.size
      collected := 0 })

/-- Takes all reports that were given. -/
def takeReports : StateM (Bench Bus) (List Link.Report) := fun bench =>
  (bench.reports.toList, { bench with reports := #[], collected := 0 })

end Bench

end BusNode.Sim
