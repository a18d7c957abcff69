import Rowscript.Report
import Rowscript.Text.Styled

/-!
# Report/Summary — a run as the user reads it

A header before the run, and behind it one line for each row, a line if the run was stopped, and the
verdict.  Each text ends with its line break.
-/

namespace Rowscript

open Text (Style)

/-- The command and its cells; an empty cell leaves nothing. -/
def Row.text (row : Row) : String :=
  match row.locator.isEmpty, row.value.isEmpty with
  | true, true => row.command
  | false, true => s!"{row.command} {row.locator}"
  | true, false => s!"{row.command} | {row.value}"
  | false, false => s!"{row.command} {row.locator} | {row.value}"

/-- What stands above a run. -/
def Script.header (script : Script) (coloured : Bool) : String :=
  let title := Style.apply ⟨true, false, some .blue⟩ coloured "Running Test:"
  let name := Style.apply ⟨true, false, some .white⟩ coloured script.name
  let description :=
    match script.description with
    | some text => s!"  {Style.apply ⟨false, true, none⟩ coloured text}\n"
    | none => ""
  let steps := Style.apply ⟨false, false, some .cyan⟩ coloured "Steps:"
  s!"\n{title} {name}\n{description}\n{steps}\n"

/-- The line of a row: its mark, its number, its cells, and the verdict where it is a failure. -/
def RowReport.line (r : RowReport) (coloured : Bool) : String :=
  let entry (mark verdict : String) (colour : Text.Colour) :=
    let style : Style := ⟨false, false, some colour⟩
    s!"  {style.apply coloured mark} Step {r.index}: {r.row.text} ({style.apply coloured verdict})\n"
  let passed :=
    let mark := Style.apply ⟨false, false, some .green⟩ coloured "✓"
    s!"  {mark} Step {r.index}: {Style.apply ⟨false, true, none⟩ coloured r.row.text}\n"
  match r.outcome with
  | none | some .clean => passed
  | some .verificationFailed => entry "!" "verification failed" .yellow
  | some outcome => entry "✗" outcome.message .red

/-- The line of a run that was stopped. -/
def Report.stopLine (r : Report) (coloured : Bool) : String :=
  if r.halted then
    let text := s!"Stopped after {r.stepsRun} of {r.stepsTotal} steps"
    s!"  {Style.apply ⟨false, true, none⟩ coloured text}\n"
  else ""

/-- The verdict on the script. -/
def Report.verdict (r : Report) (coloured : Bool) : String :=
  let line (mark text : String) (colour : Text.Colour) :=
    let style : Style := ⟨true, false, some colour⟩
    s!"\n{style.apply coloured mark} {style.apply coloured text}\n\n"
  if r.passed then line "✓" "Test Passed" .green else line "✗" "Test Failed" .red

/-- **What stands below a run.** -/
def Report.summary (r : Report) (coloured : Bool) : String :=
  String.join (r.rows.map (·.line coloured)) ++ r.stopLine coloured ++ r.verdict coloured

end Rowscript
