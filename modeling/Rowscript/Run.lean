import Rowscript.Report
import Rowscript.Step

/-!
# Run — performing a script row by row

`Row.perform` performs one row, turned around or not.  `runRows` performs the rows in order, hands
an inversion on to the next row, and stops where a verdict or a fault says so.  `Script.run` seeds
the script's variables, runs the rows and sums up.
-/

namespace Rowscript

/-- What a row comes to: its verdict and the inversion it hands on. -/
structure RowResult where
  outcome : Option Outcome
  pending : Option Inversion
  deriving DecidableEq, Repr

namespace RowResult

/-- The result of a row that nothing turns around. -/
def ofReply : Reply → RowResult
  | .done outcome => ⟨some outcome, none⟩
  | .wrap inv => ⟨some .clean, some inv⟩
  | .silent => ⟨none, none⟩

/-- The run may go on to the next row. -/
def isOkay (r : RowResult) : Bool := r.outcome.all Outcome.isOkay && r.pending.all (·.continuable)

/-- The record of a row. -/
def record (r : RowResult) (index : Nat) (command : String) : Record :=
  match r.outcome with
  | none => .rowDone index command "None"
  | some outcome =>
    if outcome.isFailure then .rowFailed index command outcome.message
    else .rowDone index command s!"Some({outcome.spelling})"

end RowResult

/-- **Performs a row**, and turns its reply around if an inversion is pending. -/
def Row.perform (w : World) (pending : Option Inversion) (row : Row) (s : State) :
    Except Fault RowResult × State :=
  let act := row.step.perform w
  let s := row.announce s
  match pending with
  | some inv =>
    match inv.evaluate act s with
    | (.error fault, s) => (.error fault, s)
    | (.ok outcome, s) => (.ok ⟨some outcome, none⟩, s)
  | none =>
    match act s with
    | (.error fault, s) => (.error fault, s)
    | (.ok reply, s) => (.ok (.ofReply reply), s)

/-- How a sequence of rows ended. -/
structure Ending where
  /-- The rows performed to their end. -/
  rows : List RowReport
  /-- The fault that stopped the run at once. -/
  fault : Option Fault
  /-- A verdict stopped the run before the last row. -/
  halted : Bool
  /-- No row counted against the script. -/
  passed : Bool
  /-- The inversion that no row was left for. -/
  pending : Option Inversion
  state : State

/-- The same ending behind one more row. -/
def Ending.cons (r : RowReport) (e : Ending) : Ending := { e with rows := r :: e.rows }

/-- **Performs rows in order**, the first of which has the given number; `passed` says that no row
counted against the script so far.  The interrupt is looked at before each row; a verdict that is not
okay ends the run unless it is to go on regardless. -/
def runRows (w : World) (regardless : Bool) (index : Nat) (pending : Option Inversion)
    (passed : Bool) (s : State) : List Row → Ending
  | [] => ⟨[], none, false, passed, pending, s⟩
  | row :: rest =>
    if s.isInterrupted then ⟨[], some .interrupted, false, passed, pending, s⟩
    else
      match row.perform w pending s with
      | (.error fault, s) => ⟨[], some fault, false, passed, none, s⟩
      | (.ok result, s) =>
        let s := s.pass w index (result.record index row.command)
        let report := ⟨index, row, result.outcome, pending.isSome⟩
        let passed := passed && !report.isFailure
        if result.isOkay || regardless then
          (runRows w regardless (index + 1) result.pending passed s rest).cons report
        else ⟨[report], none, !rest.isEmpty, passed, result.pending, s⟩

/-- An inversion that no row was left for leaves a record. -/
def Ending.finish (e : Ending) : State :=
  match e.pending with
  | some inv => e.state.note (.nothingToWrap inv.failure.spelling)
  | none => e.state

/-- The report on rows that ran without a fault. -/
def Ending.report (e : Ending) (script : Script) : Report where
  name := script.name
  passed := e.passed
  stepsRun := e.rows.length
  stepsTotal := script.rows.length
  halted := e.halted
  rows := e.rows

/-- **Runs a script**: its variables are stored first, unexpanded, then its rows are performed.  A
verdict is in the report; a fault is all that is left of a run that it stopped. -/
def Script.run (w : World) (regardless : Bool) (script : Script) (s : State) :
    Except Fault Report × State :=
  let s := (s.note (.runStarted script.name script.rows.length)).seed script.vars
  let e := runRows w regardless 1 none true s script.rows
  match e.fault with
  | some fault => (.error fault, e.state)
  | none => (.ok (e.report script), e.finish)

end Rowscript
