import Rowscript.Outcome
import Rowscript.Script

/-!
# Report — what a run has to say about each row
-/

namespace Rowscript

/-- The report on a row. -/
structure RowReport where
  /-- The number of the row, from one. -/
  index : Nat
  row : Row
  /-- The verdict; a step may have none. -/
  outcome : Option Outcome
  /-- The row was turned around by the row before it. -/
  decorated : Bool
  deriving DecidableEq, Repr

/-- The row counts against the script. -/
def RowReport.isFailure (r : RowReport) : Bool := r.outcome.any Outcome.isFailure

/-- The report on a script. -/
structure Report where
  name : String
  passed : Bool
  stepsRun : Nat
  stepsTotal : Nat
  /-- A failure stopped the run before the last row. -/
  halted : Bool
  rows : List RowReport
  deriving DecidableEq, Repr

/-- The first row that counts against the script. -/
def Report.firstFailure? (r : Report) : Option RowReport := r.rows.find? RowReport.isFailure

end Rowscript
