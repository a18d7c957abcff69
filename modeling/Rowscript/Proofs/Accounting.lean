import Rowscript.Proofs.Halting

/-!
# Proofs/Accounting — a report adds up

The counts, the rows, the verdict on the script and the mark that the run halted are kept apart in a
report, and say the same things: a row short is a run halted, a row that fails is a script that
fails, and only the last row stops a run (`Report.AddsUp`).  `Script.report_addsUp` says so of every
report.
-/

namespace Rowscript

/-! ## Verdicts -/

namespace RowReport

variable {r : RowReport}

/-- The row counts against the script: a failure of a kind, or an error. -/
def Fails (r : RowReport) : Prop :=
  r.outcome = some .assertionFailed ∨ r.outcome = some .verificationFailed ∨
    ∃ message, r.outcome = some (.error message)

/-- The row stops a run that does not go on regardless. -/
def Stops (r : RowReport) : Prop :=
  r.outcome = some .assertionFailed ∨ ∃ message, r.outcome = some (.error message)

theorem isFailure_iff : r.isFailure = true ↔ r.Fails := by
  rw [isFailure, Fails]
  rcases r.outcome with _ | _ | _ | _ | _ <;> simp [Outcome.isFailure]

theorem isHard_iff : r.isHard = true ↔ r.Stops := by
  rw [isHard, Stops]
  rcases r.outcome with _ | _ | _ | _ | _ <;> simp

/-- What is left is silent, clean or the softer kind of failure. -/
theorem isHard_eq_false_iff :
    r.isHard = false ↔
      r.outcome = none ∨ r.outcome = some .clean ∨ r.outcome = some .verificationFailed := by
  rw [isHard]
  rcases r.outcome with _ | _ | _ | _ | _ <;> simp

end RowReport

namespace Stage

variable {w : World} {regardless : Bool} {g : Stage} {rows : List Row} {e : Ending}

/-! ## Counting -/

/-- **A run halts if a row is left over.** -/
theorem Ends.halted_eq (he : g.Ends w regardless rows e) (h : e.fault = none) :
    e.halted = decide (e.rows.length < rows.length) := by
  cases he with
  | passed => simp
  | stopped done row rest split =>
    rw [split]
    cases rest <;> simp
  | failed => cases h

/-- More rows than there are cannot be run… -/
theorem Ends.length_le (he : g.Ends w regardless rows e) : e.rows.length ≤ rows.length := by
  cases he with
  | passed => simp
  | stopped done row rest split =>
    rw [split]
    simp
  | failed done row rest split =>
    rw [split]
    simp

/-- …and a run that goes on regardless runs them all. -/
theorem Ends.length_eq (he : g.Ends w true rows e) (h : e.fault = none) :
    e.rows.length = rows.length := by
  cases he with
  | passed => simp
  | stopped _ _ _ _ _ _ strict => cases strict
  | failed => cases h

/-! ## What stops a run -/

/-- A strict run passes no hard verdict. -/
theorem Passes.soft (h : g.Passes w false rows) {r : RowReport} (hr : r ∈ g.reports w rows) :
    r.isHard = false := by
  induction rows generalizing g with
  | nil => cases hr
  | cons row rest ih =>
    obtain ⟨-, soft, rest⟩ := h
    cases hr with
    | head => simpa using soft
    | tail _ hr => exact ih rest hr

/-- **Only the last row stops a strict run**… -/
theorem Ends.soft_of_mem_dropLast (he : g.Ends w false rows e) {r : RowReport}
    (hr : r ∈ e.rows.dropLast) : r.isHard = false := by
  cases he with
  | passed passes => exact passes.soft (List.dropLast_subset _ hr)
  | stopped done row rest split passes =>
    rw [reports_append, reports, reports, List.dropLast_concat] at hr
    exact passes.soft hr
  | failed done row rest split passes => exact passes.soft (List.dropLast_subset _ hr)

/-- …and if the run halts, it does. -/
theorem Ends.hard_getLast? (he : g.Ends w regardless rows e) (h : e.halted = true) :
    ∃ last, e.rows.getLast? = some last ∧ last.isHard = true := by
  cases he with
  | passed => cases h
  | stopped done row rest split passes whole strict hard =>
    refine ⟨_, ?_, hard⟩
    rw [reports_append, reports, reports, List.getLast?_concat]
  | failed => cases h

end Stage

/-! ## Reports -/

/-- **The report adds up**: its counts, its rows and its two marks say the same about the run. -/
structure Report.AddsUp (regardless : Bool) (script : Script) (report : Report) : Prop where
  stepsTotal_eq : report.stepsTotal = script.rows.length
  stepsRun_eq : report.stepsRun = report.rows.length
  stepsRun_le : report.stepsRun ≤ report.stepsTotal
  /-- The rows are the first ones of the script, as they stand there, and numbered from one. -/
  rows : ∀ k, ∀ hk : k < report.rows.length, ∃ hs : k < script.rows.length,
    report.rows[k].index = k + 1 ∧ report.rows[k].row = script.rows[k]
  passed_iff : report.passed = true ↔ ∀ r ∈ report.rows, ¬r.Fails
  passed_iff_firstFailure? : report.passed = true ↔ report.firstFailure? = none
  /-- A script that fails fails first at the failing row with the least number. -/
  firstFailure? : report.passed = false →
    ∃ r ∈ report.rows, report.firstFailure? = some r ∧ r.Fails ∧
      ∀ other ∈ report.rows, other.Fails → r.index ≤ other.index
  halted_iff : report.halted = true ↔ report.stepsRun < report.stepsTotal
  /-- Nothing is left out of a run that goes on regardless. -/
  whole : regardless = true → report.stepsRun = report.stepsTotal
  /-- No row but the last stops a strict run. -/
  soft : regardless = false → ∀ r ∈ report.rows.dropLast,
    r.outcome = none ∨ r.outcome = some .clean ∨ r.outcome = some .verificationFailed
  /-- A run that halts is stopped by the last row. -/
  stops : regardless = false → report.halted = true →
    ∃ last, report.rows.getLast? = some last ∧ last.Stops
  /-- A script with rows does not pass without running one. -/
  stepsRun_eq_zero : report.stepsRun = 0 → report.stepsTotal = 0

namespace Script

variable {w : World} {regardless : Bool} {script : Script} {s : State} {report : Report}

/-- The rows of a report are numbered from one. -/
theorem index_getElem_rows (h : (script.run w regardless s).1 = .ok report) {k : Nat}
    (hk : k < report.rows.length) :
    ∃ hs : k < script.rows.length,
      report.rows[k].index = k + 1 ∧ report.rows[k].row = script.rows[k] := by
  obtain ⟨hs, -, here⟩ := getElem_rows h hk
  refine ⟨hs, ?_, congrArg RowReport.row here⟩
  rw [here]
  exact index_stage w s (Nat.le_of_lt hs)

/-- **The first failure has the least number** of all rows that fail. -/
theorem index_le_of_firstFailure? (h : (script.run w regardless s).1 = .ok report)
    {r other : RowReport} (hr : report.firstFailure? = some r) (mem : other ∈ report.rows)
    (fails : other.Fails) : r.index ≤ other.index := by
  obtain ⟨-, i, hi, rfl, before⟩ := List.find?_eq_some_iff_getElem.1 hr
  obtain ⟨j, hj, rfl⟩ := List.getElem_of_mem mem
  obtain ⟨-, index, -⟩ := index_getElem_rows h hi
  obtain ⟨-, index', -⟩ := index_getElem_rows h hj
  have behind : ¬j < i := fun hji => by
    have sound := before j hji
    rw [RowReport.isFailure_iff.2 fails] at sound
    cases sound
  omega

/-- **Every report adds up.** -/
theorem report_addsUp (h : (script.run w regardless s).1 = .ok report) :
    report.AddsUp regardless script := by
  obtain ⟨ended, rfl⟩ := run_fst_eq_ok_iff.1 h
  have ends := script.ends w regardless s
  have passed := (ending_isCounted w regardless script s).report_passed script
  have halted : (script.ending w regardless s).halted = true ↔
      (script.ending w regardless s).rows.length < script.rows.length := by
    rw [ends.halted_eq ended, decide_eq_true_iff]
  refine
    { stepsTotal_eq := rfl
      stepsRun_eq := rfl
      stepsRun_le := ends.length_le
      rows := fun k hk => index_getElem_rows h hk
      passed_iff := ?_
      passed_iff_firstFailure? := ?_
      firstFailure? := fun failed => ?_
      halted_iff := halted
      whole := ?_
      soft := ?_
      stops := fun _ stopped => ?_
      stepsRun_eq_zero := fun empty => Nat.eq_zero_of_not_pos fun rows => ?_ }
  · rw [passed, Option.isNone_iff_eq_none, Report.firstFailure?, List.find?_eq_none]
    simp only [RowReport.isFailure_iff]
  · rw [passed, Option.isNone_iff_eq_none]
  · rw [passed, Option.isNone_eq_false_iff] at failed
    obtain ⟨r, hr⟩ := Option.isSome_iff_exists.1 failed
    exact ⟨r, List.mem_of_find?_eq_some hr, hr, RowReport.isFailure_iff.1 (List.find?_some hr),
      fun other => index_le_of_firstFailure? h hr⟩
  · rintro rfl
    exact ends.length_eq ended
  · rintro rfl r hr
    exact RowReport.isHard_eq_false_iff.1 (ends.soft_of_mem_dropLast hr)
  · obtain ⟨last, hl, hard⟩ := ends.hard_getLast? stopped
    exact ⟨last, hl, RowReport.isHard_iff.1 hard⟩
  · have short := halted.2 (Nat.lt_of_le_of_lt (Nat.le_of_eq empty) rows)
    obtain ⟨last, hl, -⟩ := ends.hard_getLast? short
    rw [List.eq_nil_of_length_eq_zero empty] at hl
    cases hl

/-- An echo that must not succeed, and a click behind it that is never run. -/
theorem report_addsUp_unwanted_echo :
    let script : Script := {
      name := "account"
      rows := [⟨"assertErrorOnNext", "", ""⟩, ⟨"echo", "on", ""⟩, ⟨"click", "id=save", ""⟩] }
    let report := (script.ending {} false {}).report script
    (script.run {} false {}).1 = .ok report ∧ report.AddsUp false script ∧
      report.halted = true ∧ report.stepsRun = 2 := by
  intro script report
  have h : (script.run {} false {}).1 = .ok report :=
    run_fst_eq_ok_iff.2 ⟨by decide +kernel, rfl⟩
  exact ⟨h, report_addsUp h, by decide +kernel, by decide +kernel⟩

end Script

end Rowscript
