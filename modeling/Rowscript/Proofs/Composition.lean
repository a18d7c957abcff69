import Rowscript.Proofs.Lockstep
import Rowscript.Proofs.Decoration

/-!
# Proofs/Composition — a script in two pieces

    start ──rows──▸ stage ──rest──▸ end
                    start ──rest──▸ end

Nothing crosses from the rows of a script to the rest of it but the state and the inversion that
waits.  So if the rows are passed and no inversion waits behind them, the rest runs as a script of
its own would, on the state that they leave, and in the world as it is from there on; a run that ends
within the rows ends there whatever the rest is (`Script.run_in_pieces`).
-/

namespace Rowscript

namespace Stage

variable {w : World} {regardless : Bool} {g : Stage}

/-- A fault among the rows leaves the rest out. -/
theorem run_append_of_fault {rows : List Row} {fault : Fault}
    (h : (g.run w regardless rows).fault = some fault) (rest : List Row) :
    g.run w regardless (rows ++ rest) = g.run w regardless rows := by
  induction rows generalizing g with
  | nil => cases h
  | cons row rows ih =>
    rw [List.cons_append]
    cases hf : g.fault? w row with
    | some cause => rw [run_cons_of_fault hf, run_cons_of_fault hf]
    | none =>
      rw [run_cons hf] at h ⊢
      rw [run_cons hf]
      split at h
      case isTrue on => rw [if_pos on, if_pos on, ih h]
      case isFalse off => cases h

/-- So does a hard verdict on one of them, and the run halts before whatever is left out. -/
theorem run_append_of_hard {rows : List Row}
    (h : ∃ r ∈ (g.run w false rows).rows, r.isHard = true) (rest : List Row) :
    g.run w false (rows ++ rest)
      = { g.run w false rows with halted := (g.run w false rows).halted || !rest.isEmpty } := by
  induction rows generalizing g with
  | nil => simp at h
  | cons row rows ih =>
    rw [List.cons_append]
    cases hf : g.fault? w row with
    | some fault =>
      rw [run_cons_of_fault hf] at h
      simp at h
    | none =>
      cases hard : (g.report w row).isHard with
      | true =>
        rw [run_cons_of_hard hf hard, run_cons_of_hard hf hard]
        cases rows <;> rfl
      | false =>
        rw [run_cons_of_soft hf hard] at h ⊢
        rw [run_cons_of_soft hf hard, ih (by simpa [Ending.cons, hard] using h)]
        rfl

/-- **A run without a fault passes all rows**, if it goes on regardless or no verdict is hard. -/
theorem passes_of_run {rows : List Row} (h : (g.run w regardless rows).fault = none)
    (on : regardless = true ∨ ∀ r ∈ (g.run w regardless rows).rows, r.isHard = false) :
    g.Passes w regardless rows := by
  generalize he : g.run w regardless rows = e at h on
  cases he ▸ g.ends w regardless rows with
  | passed passes => exact passes
  | stopped done row rest split passes whole strict hard =>
    have last : (g.after w done).report w row ∈ g.reports w (done ++ [row]) := by
      rw [reports_append]
      exact List.mem_append_right _ (List.mem_singleton_self _)
    obtain on | soft := on
    · cases strict.symm.trans on
    · cases hard.symm.trans (soft _ last)
  | failed => cases h

/-- Then the run comes to the stage behind the rows. -/
theorem run_of_passes {rows : List Row} (h : g.Passes w regardless rows) :
    g.run w regardless rows
      = ⟨g.reports w rows, none, false, (g.after w rows).passed, (g.after w rows).pending,
          (g.after w rows).state⟩ := by
  rw [← List.append_nil rows, run_append h, run_nil, Ending.behind, List.append_nil,
    List.append_nil]

end Stage

namespace Script

/-- The script with more rows behind its own. -/
def append (script : Script) (rest : List Row) : Script :=
  { script with rows := script.rows ++ rest }

/-- More rows as a script of their own, which has no variables. -/
def detach (script : Script) (rest : List Row) : Script :=
  { script with vars := {}, rows := rest }

variable {w : World} {regardless : Bool} {script : Script} {s t : State}

/-- **The longer script runs all its rows from where the script starts**: the rest has no say in
that. -/
theorem ending_append_agreesFrom (w : World) (regardless : Bool) (script : Script)
    (rest : List Row) (s : State) :
    ((script.append rest).ending w regardless s).AgreesFrom 0
      ((script.start s).run w regardless (script.rows ++ rest)) := by
  have start : ((script.append rest).start s).AgreesFrom 0 (script.start s) :=
    ⟨rfl, rfl, ((State.Agrees.refl s).notes _ _).seed _⟩
  exact start.run w regardless _

/-! ## The rows end the run -/

theorem ending_append_of_fault {fault : Fault}
    (h : (script.ending w regardless s).fault = some fault) (rest : List Row) :
    ((script.append rest).ending w regardless s).AgreesFrom 0 (script.ending w regardless s) := by
  have same := ending_append_agreesFrom w regardless script rest s
  rwa [Stage.run_append_of_fault h] at same

theorem ending_append_of_hard (h : ∃ r ∈ (script.ending w false s).rows, r.isHard = true)
    (rest : List Row) :
    ((script.append rest).ending w false s).AgreesFrom 0
      { script.ending w false s with
        halted := (script.ending w false s).halted || !rest.isEmpty } := by
  have same := ending_append_agreesFrom w false script rest s
  rwa [Stage.run_append_of_hard h] at same

/-! ## The rows are passed -/

/-- **Behind rows that it passes the longer script runs the rest** from the stage that they lead
to. -/
theorem ending_append_of_passes (h : (script.start s).Passes w regardless script.rows)
    (rest : List Row) :
    ((script.append rest).ending w regardless s).AgreesFrom 0
      ((((script.start s).after w script.rows).run w regardless rest).behind
        ((script.start s).reports w script.rows)) := by
  rw [← Stage.run_append h]
  exact ending_append_agreesFrom w regardless script rest s

/-- **Behind rows that end with an even block the rest starts as a script of its own would.** -/
theorem after_agreesFrom (even : Even (invertingBlock (script.rows.map Row.command)))
    (h : ((script.start s).after w script.rows).state.Agrees t) (rest : List Row) :
    ((script.start s).after w script.rows).AgreesFrom script.rows.length
      ((script.detach rest).start t) where
  index := (script.start s).after_index w script.rows
  pending := Stage.pending_after_of_even w rfl even
  state := h.trans (t.agrees_note _).symm

/-- …and so, if the rows are passed, it ends as that script would. -/
theorem ending_append_of_passed (ended : (script.ending w regardless s).fault = none)
    (on : regardless = true ∨ ∀ r ∈ (script.ending w regardless s).rows, r.isHard = false)
    (even : Even (invertingBlock (script.rows.map Row.command)))
    (h : (script.ending w regardless s).state.Agrees t) (rest : List Row) :
    let whole := (script.append rest).ending w regardless s
    let second := (script.detach rest).ending (w.shift script.rows.length) regardless t
    whole.rows = (script.ending w regardless s).rows
        ++ second.rows.map (RowReport.shift script.rows.length) ∧
      whole.fault = second.fault ∧ whole.halted = second.halted ∧
      whole.state.Agrees second.state := by
  intro whole second
  have passes : (script.start s).Passes w regardless script.rows := Stage.passes_of_run ended on
  have first : script.ending w regardless s = _ := Stage.run_of_passes passes
  rw [first] at h ⊢
  have behind : Ending.AgreesFrom script.rows.length
      (((script.start s).after w script.rows).run w regardless rest) second :=
    (after_agreesFrom even h rest).run w regardless rest
  have same := ending_append_of_passes passes rest
  refine ⟨same.rows_eq.trans ?_, same.fault.trans behind.fault, same.halted.trans behind.halted,
    same.state.trans behind.state⟩
  exact congrArg (_ ++ ·) behind.rows

/-- **A script in two pieces runs as the one piece and then the other.**  A fault in the first piece
is the end, with the state that it leaves.  If the first piece runs through and no inversion is left
waiting, the whole does what the second piece does on the state that the first one leaves, with the
same driver and sink, and interrupted from outside behind the same rows; its report is put together
from the two.  If a hard verdict stops the first piece, the second one is
left out, and the run has halted if there was anything in it. -/
theorem run_in_pieces (w : World) (regardless : Bool) (script : Script) (rest : List Row)
    (s : State) :
    let first := script.run w regardless s
    let whole := (script.append rest).run w regardless s
    let second := (script.detach rest).run (w.shift script.rows.length) regardless first.2
    (∀ fault, first.1 = .error fault → whole.1 = .error fault ∧ whole.2.Agrees first.2) ∧
    (∀ a, first.1 = .ok a → Even (invertingBlock (script.rows.map Row.command)) →
      (regardless = true ∨ ∀ r ∈ a.rows, r.isHard = false) →
      whole.2.Agrees second.2 ∧
      (∀ fault, whole.1 = .error fault ↔ second.1 = .error fault) ∧
      ∀ b, second.1 = .ok b → ∃ c, whole.1 = .ok c ∧
        c.rows = a.rows ++ b.rows.map (RowReport.shift script.rows.length) ∧
        c.passed = (a.passed && b.passed) ∧ c.halted = b.halted ∧
        c.stepsRun = a.stepsRun + b.stepsRun ∧ c.stepsTotal = a.stepsTotal + b.stepsTotal) ∧
    (∀ a, first.1 = .ok a → regardless = false → (∃ r ∈ a.rows, r.isHard = true) →
      whole.2.Agrees first.2 ∧ ∃ c, whole.1 = .ok c ∧ c.rows = a.rows ∧ c.passed = a.passed ∧
        c.stepsRun = a.stepsRun ∧ c.stepsTotal = a.stepsTotal + rest.length ∧
        c.halted = (a.halted || !rest.isEmpty)) := by
  intro first whole second
  refine ⟨fun fault h => ?_, fun a ha even on => ?_, fun a ha strict hard => ?_⟩
  · have broke := run_fst_eq_error_iff.1 h
    have same := ending_append_of_fault broke rest
    exact ⟨run_fst_eq_error_iff.2 (same.fault.trans broke), run_snd_agrees_of same.state⟩
  · obtain ⟨ended, rfl⟩ := run_fst_eq_ok_iff.1 ha
    obtain ⟨rows, fault, halted, state⟩ :=
      ending_append_of_passed ended on even (run_snd_agrees w regardless script s).symm rest
    refine ⟨run_snd_agrees_of state, fun cause => ?_, fun b hb => ?_⟩
    · rw [run_fst_eq_error_iff, run_fst_eq_error_iff, fault]
    · obtain ⟨ended', rfl⟩ := run_fst_eq_ok_iff.1 hb
      refine ⟨_, run_fst_eq_ok_iff.2 ⟨fault.trans ended', rfl⟩, rows, ?_, halted, ?_,
        List.length_append⟩
      · change Ending.passed _ = (Ending.passed _ && Ending.passed _)
        rw [ending_isCounted, ending_isCounted, ending_isCounted, rows, List.all_append,
          List.all_map]
        rfl
      · change ((script.append rest).ending w regardless s).rows.length = _
        rw [rows, List.length_append, List.length_map]
        rfl
  · obtain ⟨ended, rfl⟩ := run_fst_eq_ok_iff.1 ha
    subst strict
    have same := ending_append_of_hard hard rest
    refine ⟨run_snd_agrees_of same.state, _, run_fst_eq_ok_iff.2 ⟨same.fault.trans ended, rfl⟩,
      same.rows_eq, ?_, ?_, List.length_append, same.halted⟩
    · change Ending.passed _ = Ending.passed _
      rw [ending_isCounted, ending_isCounted, same.rows_eq]
    · exact congrArg List.length same.rows_eq

/-- A store and an echo that must fail, and then an echo and a click: the two pieces in one are the
two pieces in a row.  A click that must fail stops a strict run before the second piece, and an
interrupt leaves it out. -/
theorem run_in_pieces_click :
    let store : Script := {
      name := "pieces"
      rows := [⟨"store", "x", "5"⟩, ⟨"verifyErrorOnNext", "", ""⟩, ⟨"echo", "${x}", ""⟩] }
    let click : Script := {
      name := "pieces", rows := [⟨"assertErrorOnNext", "", ""⟩, ⟨"click", "id=save", ""⟩] }
    let rest : List Row := [⟨"echo", "again ${x}", ""⟩, ⟨"click", "id=${x}", ""⟩]
    let second := (store.detach rest).run {} false (store.run {} false {}).2
    (((store.append rest).run {} false {}).2.Agrees second.2 ∧
      ∃ c, ((store.append rest).run {} false {}).1 = .ok c ∧ c.stepsRun = 5 ∧ c.passed = false) ∧
    (∃ c, ((click.append rest).run {} false {}).1 = .ok c ∧ c.stepsRun = 2 ∧ c.halted = true) ∧
    ((click.append rest).run {} true { interrupt := .set }).1 = .error .interrupted := by
  intro store click rest second
  have first : (store.run {} false {}).1 = .ok ((store.ending {} false {}).report store) :=
    run_fst_eq_ok_iff.2 ⟨by decide +kernel, rfl⟩
  have stops : (click.run {} false {}).1 = .ok ((click.ending {} false {}).report click) :=
    run_fst_eq_ok_iff.2 ⟨by decide +kernel, rfl⟩
  have broke : (click.run {} true { interrupt := .set }).1 = .error .interrupted :=
    run_fst_eq_error_iff.2 (by decide +kernel)
  obtain ⟨agrees, -, report⟩ := (run_in_pieces {} false store rest {}).2.1 _ first
    (by decide +kernel) (.inr (by decide +kernel))
  obtain ⟨c, whole, -, passed, -, stepsRun, -⟩ := report
    ((ending {} false (store.detach rest) (store.run {} false {}).2).report (store.detach rest))
    (run_fst_eq_ok_iff.2 ⟨by decide +kernel, rfl⟩)
  obtain ⟨-, d, halts, -, -, stepsRun', -, halted⟩ :=
    (run_in_pieces {} false click rest {}).2.2 _ stops rfl (by decide +kernel)
  exact ⟨⟨agrees, c, whole, stepsRun.trans (by decide +kernel), passed.trans (by decide +kernel)⟩,
    ⟨d, halts, stepsRun'.trans (by decide +kernel), halted.trans (by decide +kernel)⟩,
    ((run_in_pieces {} true click rest { interrupt := .set }).1 _ broke).1⟩

end Script

end Rowscript
