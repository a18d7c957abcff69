import Rowscript.Proofs.Stage

/-!
# Proofs/Halting — a run that a hard verdict stops, beside one that goes on regardless

    strict      ──rows──▸ first hard verdict
    regardless  ──rows──▸ first hard verdict ──rows──▸ …

Up to the first hard verdict the two runs are one and the same.  There the strict one stops with a
report, and everything it did is the beginning of what the other one does; without a hard verdict
they end alike, with a report or with a fault (`Script.strict_run`).
-/

namespace Rowscript

/-! ## Lists up to the first element of a kind -/

section FirstOfKind

variable {α : Type} {p q : α → Bool}

/-- What the first element of a kind is found by finds nothing new behind it. -/
theorem find?_take_findIdx (h : ∀ a, p a = true → q a = true) (l : List α) :
    (l.take (l.findIdx p + 1)).find? q = l.find? q := by
  induction l with
  | nil => rfl
  | cons a l ih =>
    rw [List.findIdx_cons]
    cases hp : p a with
    | true => simp [h a hp]
    | false => rw [cond_false, List.take_succ_cons, List.find?_cons, List.find?_cons, ih]

end FirstOfKind

/-- A script passes if no row counts against it. -/
theorem Ending.IsCounted.report_passed {e : Ending} (h : e.IsCounted) (script : Script) :
    (e.report script).passed = (e.report script).firstFailure?.isNone := by
  change e.passed = (e.rows.find? RowReport.isFailure).isNone
  rw [h, Bool.eq_iff_iff, List.all_eq_true, Option.isNone_iff_eq_none, List.find?_eq_none]
  simp only [Bool.not_eq_true', Bool.not_eq_true]

namespace Stage

variable {w : World} {g : Stage} {row : Row}

/-- **Without a hard verdict it does not matter whether the run goes on regardless.** -/
theorem run_strict_eq {rows : List Row}
    (h : ∀ r ∈ (g.run w true rows).rows, r.isHard = false) :
    g.run w false rows = g.run w true rows := by
  induction rows generalizing g with
  | nil => rfl
  | cons row rest ih =>
    cases hf : g.fault? w row with
    | some fault => rw [run_cons_of_fault hf, run_cons_of_fault hf]
    | none =>
      rw [run_cons_regardless hf] at h
      obtain ⟨soft, h⟩ := List.forall_mem_cons.1 h
      rw [run_cons_of_soft hf soft, run_cons_regardless hf, ih h]

/-- **A hard verdict ends the strict run with a report**, and what the other run has beyond it comes
behind. -/
theorem run_strict_of_hard {rows : List Row}
    (h : ∃ r ∈ (g.run w true rows).rows, r.isHard = true) :
    (g.run w false rows).fault = none ∧
      (g.run w false rows).rows
        = (g.run w true rows).rows.take ((g.run w true rows).rows.findIdx RowReport.isHard + 1) ∧
      (g.run w false rows).halted
        = decide ((g.run w false rows).rows.length < rows.length) ∧
      (g.run w false rows).state.Precedes (g.run w true rows).state := by
  induction rows generalizing g with
  | nil => simp at h
  | cons row rest ih =>
    cases hf : g.fault? w row with
    | some fault =>
      rw [run_cons_of_fault hf] at h
      simp at h
    | none =>
      rw [run_cons_regardless hf] at h ⊢
      cases hard : (g.report w row).isHard with
      | true =>
        rw [run_cons_of_hard hf hard]
        refine ⟨rfl, ?_, ?_, precedes_run w true (g.next w row) rest⟩
        · simp [Ending.cons, List.findIdx_cons, hard]
        · cases rest <;> simp
      | false =>
        rw [run_cons_of_soft hf hard]
        obtain ⟨whole, rows, halted, precedes⟩ :=
          ih (g := g.next w row) (by simpa [Ending.cons, hard] using h)
        refine ⟨whole, ?_, ?_, precedes⟩
        · simp [Ending.cons, List.findIdx_cons, hard, rows]
        · simp [Ending.cons, halted]

end Stage

namespace Script

/-- A run that ends with a fault leaves a row without a report. -/
theorem length_rows_lt_of_fault {w : World} {regardless : Bool} {script : Script} {s : State}
    {fault : Fault} (h : (script.ending w regardless s).fault = some fault) :
    (script.ending w regardless s).rows.length < script.rows.length := by
  generalize he : script.ending w regardless s = e at h ⊢
  cases he ▸ script.ends w regardless s with
  | passed => cases h
  | stopped => cases h
  | failed done row rest split =>
    rw [Stage.length_reports, split, List.length_append, List.length_cons]
    omega

variable {w : World} {script : Script} {s : State}

/-- Without a hard verdict the strict run is the other run. -/
theorem run_strict_eq (h : ∀ r ∈ (script.ending w true s).rows, r.isHard = false) :
    script.run w false s = script.run w true s := by
  have same : script.ending w false s = script.ending w true s := Stage.run_strict_eq h
  rw [run_eq, run_eq, same]

/-- **With a hard verdict the strict run has a report**, whatever the other run ends with. -/
theorem run_strict_of_hard (h : ∃ r ∈ (script.ending w true s).rows, r.isHard = true) :
    ∃ f, (script.run w false s).1 = .ok f ∧
      f.rows = (script.ending w true s).rows.take
        ((script.ending w true s).rows.findIdx RowReport.isHard + 1) ∧
      f.halted = decide (f.rows.length < script.rows.length) ∧
      f.firstFailure? = (script.ending w true s).rows.find? RowReport.isFailure ∧
      f.passed = ((script.ending w true s).rows.find? RowReport.isFailure).isNone ∧
      (script.run w false s).2.calls <+: (script.ending w true s).state.calls ∧
      (script.run w false s).2.lines <+: (script.ending w true s).state.lines := by
  obtain ⟨whole, rows, halted, precedes⟩ := Stage.run_strict_of_hard h
  have left : (script.run w false s).2 = (script.ending w false s).finish := by
    rw [run_eq, show (script.ending w false s).fault = none from whole]
  have first : ((script.ending w false s).report script).firstFailure?
      = (script.ending w true s).rows.find? RowReport.isFailure := by
    rw [← find?_take_findIdx (fun _ => RowReport.isFailure_of_isHard)]
    exact congrArg (List.find? RowReport.isFailure) rows
  refine ⟨(script.ending w false s).report script, run_fst_eq_ok_iff.2 ⟨whole, rfl⟩, rows, halted,
    first, ?_, ?_, ?_⟩
  · rw [(ending_isCounted w false script s).report_passed, first]
  · rw [left, Ending.finish_keeps State.calls State.note_calls]
    exact precedes.calls
  · rw [left, Ending.finish_keeps State.lines State.note_lines]
    exact precedes.lines

/-- **A strict run beside one that goes on regardless.**  With a report of the other, the strict run
has one too: its rows are those up to the first hard verdict, it passes if the other does, fails
first where the other does, and what it did is the beginning of what the other did.  Without one, it
comes down to whether a hard verdict came before the fault: if none did, both end alike; if one did,
the strict run stopped there, before the last row, and failed. -/
theorem strict_run (w : World) (script : Script) (s : State) :
    let strict := script.run w false s
    let other := script.run w true s
    let completed := (script.ending w true s).rows
    (∀ t, other.1 = .ok t →
      ∃ f, strict.1 = .ok f ∧ f.rows = t.rows.take (t.rows.findIdx RowReport.isHard + 1) ∧
        f.passed = t.passed ∧ f.firstFailure? = t.firstFailure? ∧
        strict.2.calls <+: other.2.calls ∧ strict.2.lines <+: other.2.lines) ∧
    (∀ fault, other.1 = .error fault →
      ((∀ r ∈ completed, r.isHard = false) →
        strict.1 = .error fault ∧ strict.2.calls = other.2.calls ∧
          strict.2.lines = other.2.lines ∧ strict.2.vars = other.2.vars) ∧
      ((∃ r ∈ completed, r.isHard = true) →
        ∃ f, strict.1 = .ok f ∧ f.halted = true ∧ f.passed = false ∧
          f.rows = completed.take (completed.findIdx RowReport.isHard + 1))) := by
  intro strict other completed
  refine ⟨fun t ht => ?_, fun fault hfault => ⟨fun soft => ?_, fun hard => ?_⟩⟩
  · obtain ⟨whole, rfl⟩ := run_fst_eq_ok_iff.1 ht
    by_cases hard : ∃ r ∈ completed, r.isHard = true
    · obtain ⟨f, ok, rows, -, first, passed, calls, lines⟩ := run_strict_of_hard hard
      have left : other.2 = (script.ending w true s).finish := by
        rw [show other = _ from run_eq w true script s, whole]
      have counted := (ending_isCounted w true script s).report_passed script
      refine ⟨f, ok, rows, passed.trans counted.symm, first, ?_, ?_⟩
      · rwa [left, Ending.finish_keeps State.calls State.note_calls]
      · rwa [left, Ending.finish_keeps State.lines State.note_lines]
    · have soft : ∀ r ∈ completed, r.isHard = false := by simpa using hard
      have same : strict = other := run_strict_eq soft
      have whole : completed.take (completed.findIdx RowReport.isHard + 1) = completed := by
        rw [List.findIdx_eq_length_of_false soft, List.take_of_length_le (Nat.le_succ _)]
      rw [same]
      exact ⟨_, ht, whole.symm, rfl, rfl, List.prefix_rfl, List.prefix_rfl⟩
  · have same : strict = other := run_strict_eq soft
    rw [same]
    exact ⟨hfault, rfl, rfl, rfl⟩
  · obtain ⟨f, ok, rows, halted, -, passed, -⟩ := run_strict_of_hard hard
    have short : f.rows.length < script.rows.length := by
      rw [rows]
      exact Nat.lt_of_le_of_lt (List.length_take_le' _ _)
        (length_rows_lt_of_fault (run_fst_eq_error_iff.1 hfault))
    have failing : (completed.find? RowReport.isFailure).isNone = false := by
      obtain ⟨r, hr, hard⟩ := hard
      rw [Option.isNone_eq_false_iff, List.find?_isSome]
      exact ⟨r, hr, RowReport.isFailure_of_isHard hard⟩
    exact ⟨f, ok, halted.trans (decide_eq_true short), passed.trans failing, rows⟩

/-- An echo that must not succeed, and a pause that is interrupted: the run that goes on regardless
has no report, and the strict one fails before it comes to the pause. -/
theorem strict_run_before_interrupt :
    let script : Script := {
      name := "halting"
      rows := [⟨"assertErrorOnNext", "", ""⟩, ⟨"echo", "on", ""⟩, ⟨"pause", "5", ""⟩] }
    let w : World := { arrives := fun _ => true }
    (script.run w true {}).1 = .error .interrupted ∧
      ∃ f, (script.run w false {}).1 = .ok f ∧ f.halted = true ∧ f.passed = false := by
  intro script w
  have fault : (script.run w true {}).1 = .error .interrupted :=
    run_fst_eq_error_iff.2 (by decide +kernel)
  obtain ⟨f, ok, halted, passed, -⟩ :=
    ((strict_run w script {}).2 .interrupted fault).2 (by decide +kernel)
  exact ⟨fault, f, ok, halted, passed⟩

end Script

end Rowscript
