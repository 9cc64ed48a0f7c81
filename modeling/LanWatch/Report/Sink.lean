import LanWatch.Log
import LanWatch.Report.Line
import LanWatch.Report.Upsert
import LanWatch.Report.Writer

namespace LanWatch

/-!
# Sinks

A sink takes sightings one after another. What it keeps between them is its state; what goes wrong
with one sighting is told and does not stop the next.

* `Sink` — what to do at the start, with each sighting, and at the end;
* `Sink.reportAll`, `Sink.reportAll_append` — sightings one after another, and more of them later;
* `Sink.console` — lines for a reader;
* `Sink.sql` — upsert statements for a database;
* `Sink.collect` — a list of the sightings.
-/

/-- Why a sighting could not be reported. -/
inductive SinkError where
  | io (cause : IoError)
  deriving DecidableEq

/-- The wording of an error. -/
def SinkError.message : SinkError → String
  | io cause => "sink I/O error: " ++ cause.message

/-- What became of one sighting. -/
structure Reported (σ : Type) where
  state : σ
  error : Option SinkError := none
  log : Log := []

/-- A way to report sightings, with a state of type `σ`. -/
structure Sink (σ : Type) where
  /-- Before the first sighting, told the name of the interface. -/
  start : String → σ → σ × Log
  /-- One sighting. -/
  report : Sighting → σ → Reported σ
  /-- After the last sighting. -/
  stop : σ → σ × Log

namespace Sink

variable {σ : Type}

/-- Reports sightings in order, with what became of each. -/
def reportAll (sink : Sink σ) (state : σ) : List Sighting → σ × List (Option SinkError) × Log
  | [] => (state, [], [])
  | s :: ss =>
    let reported := sink.report s state
    let (state, errors, log) := reportAll sink reported.state ss
    (state, reported.error :: errors, reported.log ++ log)

/-- More sightings are reported where the first ones left the sink. -/
theorem reportAll_append (sink : Sink σ) (state : σ) (ss ts : List Sighting) :
    sink.reportAll state (ss ++ ts) =
      let before := sink.reportAll state ss
      let after := sink.reportAll before.1 ts
      (after.1, before.2.1 ++ after.2.1, before.2.2 ++ after.2.2) := by
  induction ss generalizing state with
  | nil => rfl
  | cons s ss ih =>
    rw [List.cons_append, reportAll, ih]
    simp only [reportAll, List.cons_append, List.append_assoc]

/-- Lines for a reader, on an output that takes everything. -/
def console (verbose : Bool) : Sink String where
  start interface output := (output ++ banner interface, [])
  report s output := { state := output ++ s.line verbose ++ "\n" }
  stop output := (output ++ farewell, [])

/-- Upsert statements, one a line, after a comment that names interface and location. Host names
    come from the resolver, if there is one. -/
def sql (site : Site) (resolver : Option Resolver) : Sink Writer where
  start interface w :=
    let (w, error) := w.writeAll ["-- arpwatch on ", interface, " (", site.location, ")\n"]
    (w, error.toList.map fun e =>
      ⟨.error, .statements, "Failed to write SQL header: " ++ e.message⟩)
  report s w :=
    let statement := (Upsert.ofSighting site resolver s).render
    let (w, error) := w.writeAll [statement, "\n"]
    let log := Upsert.lookupLog resolver s ++ [⟨.debug, .statements, "SQL: " ++ statement⟩]
    { state := w, error := error.map .io, log }
  stop w :=
    let (w, error) := w.flush
    (w, error.toList.map fun e =>
      ⟨.error, .statements, "Failed to flush SQL output: " ++ e.message⟩)

/-- A list of the sightings, without those of one hardware address, which fail. -/
def collect (refused : Option MacAddr) : Sink (List Sighting) where
  start _ collected := (collected, [])
  report s collected :=
    if refused = some s.mac then
      { state := collected, error := some (.io (.failure "disk full")) }
    else { state := collected ++ [s] }
  stop collected := (collected, [])

end Sink

end LanWatch
