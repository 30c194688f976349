import CallLog.Action
import CallLog.Converter
import CallLog.Document
import CallLog.Level
import CallLog.Provider

/-!
# The journal

The state that logging reads and writes: the records that were written and the calls that recorders
took, the values bound by enclosing log contexts, the registered context variables with the cells
that they count in, the standard converters, the threshold for new loggers, and what the loggers of
the library itself let through.

A computation of type `Logging α` is an action on the journal.
-/

namespace CallLog

/-- What a recorder was asked to do. -/
inductive SinkCall where
  /-- whether a level number is enabled -/
  | check (level : Nat)
  | emit (method : String) (event : String) (args : List Value) (fields : List (String × Value))
  deriving Inhabited

/-- What the library's own loggers let through. They are made when the library is loaded, with the
threshold that is configured then; no later configuration changes it. All reports are let through:
the threshold is not above the level of the least severe ones. -/
structure Reporting where
  /-- the least level number that they write -/
  threshold : Nat := 0
  letsThrough : threshold ≤ Level.debug.number := by decide

/-- The library's own loggers let everything through. -/
def Reporting.everything : Reporting := {}

instance : Inhabited Reporting := ⟨.everything⟩

/-- The state of logging. -/
structure Journal where
  /-- the records that were written, in order -/
  records : List Record := []
  /-- the calls that recorders took, in order -/
  calls : List SinkCall := []
  /-- the values bound by enclosing log contexts -/
  bound : List (String × Value) := []
  /-- how often counting providers were asked -/
  counters : List Nat := []
  /-- the registered context variables, in order -/
  providers : List Provider := []
  /-- the converters that are used where none are given -/
  converters : Converters := .standard
  /-- the least level number that a new logger lets through -/
  threshold : Nat := 0
  /-- what the library's own loggers let through -/
  reporting : Reporting := .everything
  deriving Inhabited

/-- A computation that logs. -/
abbrev Logging := Action Journal

namespace Logging

/-- The journal. -/
def journal : Logging Journal :=
  fun j => (.ok j, j)

/-- Changes the journal. -/
def change (f : Journal → Journal) : Logging Unit :=
  fun j => (.ok (), f j)

/-- Writes a record. -/
def write (record : Record) : Logging Unit :=
  change fun j => { j with records := j.records ++ [record] }

/-- Notes a call of a recorder. -/
def note (call : SinkCall) : Logging Unit :=
  change fun j => { j with calls := j.calls ++ [call] }

/-- A computation that leaves the bound values as they were, whatever its outcome. -/
def restoringBound {α : Type} (x : Logging α) : Logging α :=
  fun j => x.always (fun after => { after with bound := j.bound }) j

end Logging

end CallLog
