import Rowscript.Json
import Rowscript.Report

/-!
# Report/Json — reports as JSON

The members of a report, a row and an outcome, and their order.
-/

namespace Rowscript

/-- An outcome names its status; an error also has its message. -/
def Outcome.toJson : Outcome → Json
  | clean => .object [("status", .string "continue")]
  | assertionFailed => .object [("status", .string "assertion_failed")]
  | verificationFailed => .object [("status", .string "verification_failed")]
  | error message => .object [("status", .string "error"), ("message", .string message)]

/-- A row without an outcome has `null` in its place. -/
def RowReport.toJson (r : RowReport) : Json :=
  .object [
    ("index", .number r.index),
    ("command", .string r.row.command),
    ("locator", .string r.row.locator),
    ("value", .string r.row.value),
    ("outcome", (r.outcome.map Outcome.toJson).getD .null),
    ("decorated", .bool r.decorated)]

def Report.toJson (r : Report) : Json :=
  .object [
    ("name", .string r.name),
    ("passed", .bool r.passed),
    ("steps_run", .number r.stepsRun),
    ("steps_total", .number r.stepsTotal),
    ("halted", .bool r.halted),
    ("rows", .array (r.rows.map RowReport.toJson))]

/-- **The reports of one command line**, in the order of its scripts. -/
def Report.listText (reports : List Report) : String :=
  (Json.array (reports.map Report.toJson)).pretty

end Rowscript
