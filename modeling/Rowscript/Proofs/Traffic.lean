import Rowscript.Proofs.Progress

/-!
# Proofs/Traffic — what reaches the driver and the sink

A row sends the driver one call or none, and the sink one line or none, and its command and cells
and the variables in force say which (`Row.sends`, `Row.writes`).  A run sends what the rows that it
starts send, in order: nothing is lost, added or sent twice, and it makes no difference whether a row
is turned around, what became of the rows before it, or how the run ends (`Script.run_traffic`).
-/

namespace Rowscript

namespace Row

/-- The calls of a row: one, if its command is not in the table. -/
def sends (row : Row) (vars : Variables) : List Call :=
  if row.command ∈ Command.names then []
  else [⟨row.command, [vars.expand row.locator, vars.expand row.value]⟩]

/-- The lines of a row: one, if it echoes. -/
def writes (row : Row) (vars : Variables) : List String :=
  if row.command = "echo" then [vars.expand row.locator] else []

theorem effect_calls_eq (w : World) (row : Row) (s : State) :
    (row.effect w s).calls = s.calls ++ row.sends s.vars := by
  rw [effect_calls, sends]
  split
  · exact (List.append_nil _).symm
  · rfl

theorem effect_lines_eq (w : World) (row : Row) (s : State) :
    (row.effect w s).lines = s.lines ++ row.writes s.vars := by
  rw [effect_lines, writes]
  split
  · rfl
  · exact (List.append_nil _).symm

/-- **A row sends what it sends, whatever waits for it.** -/
theorem perform_traffic (w : World) (pending : Option Inversion) (row : Row) (s : State) :
    (row.perform w pending s).2.calls = s.calls ++ row.sends s.vars ∧
      (row.perform w pending s).2.lines = s.lines ++ row.writes s.vars :=
  ⟨(row.perform_agrees_effect w pending s).calls.trans (row.effect_calls_eq w s),
    (row.perform_agrees_effect w pending s).lines.trans (row.effect_lines_eq w s)⟩

end Row

namespace Script

variable {w : World} {regardless : Bool} {script : Script} {s : State}

/-- **A run sends what the rows that it starts send**, in order, each row with the variables in force
when it starts, and nothing else.  The rows that it starts are the first ones; with a report, they
are the rows of the report.  Nothing that waits for a row has a say in what the row sends. -/
theorem run_traffic (w : World) (regardless : Bool) (script : Script) (s : State) :
    let left := (script.run w regardless s).2
    let n := script.started w regardless s
    let inForce := fun i => (script.stage w s i).state.vars
    left.calls = s.calls ++
        ((script.rows.take n).zipIdx.flatMap fun (row, i) => row.sends (inForce i)) ∧
      left.lines = s.lines ++
        ((script.rows.take n).zipIdx.flatMap fun (row, i) => row.writes (inForce i)) ∧
      (∀ i, i < n ↔ script.Starts w regardless s i) ∧
      (∀ report, (script.run w regardless s).1 = .ok report → report.rows.length = n) ∧
      ∀ (row : Row) (pending : Option Inversion) (before : State),
        (row.perform w pending before).2.calls = before.calls ++ row.sends before.vars ∧
          (row.perform w pending before).2.lines = before.lines ++ row.writes before.vars := by
  intro left n inForce
  have calls : left.calls = (script.stage w s n).state.calls :=
    run_snd_keeps State.calls State.note_calls State.trigger_calls w regardless script s
  have lines : left.lines = (script.stage w s n).state.lines :=
    run_snd_keeps State.lines State.note_lines State.trigger_lines w regardless script s
  have le : n ≤ script.rows.length := started_le w regardless script s
  refine ⟨calls.trans ?_, lines.trans ?_, fun _ => lt_started_iff,
    fun _ => length_rows_eq_started, fun row pending => row.perform_traffic w pending⟩
  · exact field_stage State.calls Row.sends State.note_calls State.trigger_calls State.store_calls
      (Row.effect_calls_eq w) le
  · exact field_stage State.lines Row.writes State.note_lines State.trigger_lines State.store_lines
      (Row.effect_lines_eq w) le

/-- A click that must not succeed is sent all the same, and stops the run before the click behind
it. -/
theorem run_traffic_click :
    let script : Script := {
      name := "traffic"
      rows := [⟨"store", "id", "save"⟩, ⟨"echo", "on ${id}", ""⟩, ⟨"assertErrorOnNext", "", ""⟩,
        ⟨"click", "id=${id}", ""⟩, ⟨"click", "id=off", ""⟩] }
    let report := (script.ending {} false {}).report script
    (script.run {} false {}).1 = .ok report ∧ report.rows.length = 4 ∧
      (script.run {} false {}).2.calls = [⟨"click", ["id=save", ""]⟩] ∧
      (script.run {} false {}).2.lines = ["on save"] := by
  intro script report
  have h : (script.run {} false {}).1 = .ok report :=
    run_fst_eq_ok_iff.2 ⟨by decide +kernel, rfl⟩
  obtain ⟨calls, lines, -, started, -⟩ := run_traffic {} false script {}
  exact ⟨h, (started report h).trans (by decide +kernel), calls.trans (by decide +kernel),
    lines.trans (by decide +kernel)⟩

end Script

end Rowscript
