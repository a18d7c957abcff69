import Rowscript.Proofs.Inversion
import Rowscript.Proofs.Progress

/-!
# Proofs/Cancellation — two inverting rows in a row

    start ──rows──▸ stage ──first──▸ ──second──▸ stage + 2 ──rest──▸ end
    start ──rows──▸ stage ──────────────────────────────────rest──▸ end

An inverting row with an inversion waiting for it is spent on that one.  So of two inverting rows that
nothing waits for, the second takes back what the first did: behind them the run stands where it stood
before, two rows on (`Stage.after_pair_agreesFrom`), and without them it goes the same way
(`Script.run_cancelled`).
-/

namespace Rowscript

namespace Stage

variable {w : World} {regardless : Bool} {g : Stage} {first second : Row}

/-- **Two inverting rows cancel out**: behind them the stage is the one before them, two rows on. -/
theorem after_pair_agreesFrom (quiet : w.IsQuiet) (free : g.pending = none)
    (h₁ : isInverting first.command = true) (h₂ : isInverting second.command = true) :
    (g.after w [first, second]).AgreesFrom 2 g where
  index := g.after_index w [first, second]
  pending := by
    have block : invertingBlock ([first, second].map Row.command) = 2 := by
      simp [invertingBlock, h₁, h₂]
    exact (pending_after_of_even w free (block ▸ even_two)).trans free.symm
  state := (next_of_isInverting h₂ quiet _).trans (next_of_isInverting h₁ quiet g)

/-- They are passed unless the interrupt is set. -/
theorem passes_pair (quiet : w.IsQuiet) (regardless : Bool) (calm : g.state.isInterrupted = false)
    (h₁ : isInverting first.command = true) (h₂ : isInverting second.command = true) :
    g.Passes w regardless [first, second] := by
  obtain ⟨whole, on⟩ := passes_of_isInverting h₁ calm w regardless
  have still : (g.next w first).state.isInterrupted = false :=
    (next_of_isInverting h₁ quiet g).isInterrupted.trans calm
  obtain ⟨whole', on'⟩ := passes_of_isInverting h₂ still w regardless
  exact ⟨whole, on, whole', on', trivial⟩

/-- The first row reported on is turned around if something waits for it. -/
theorem decorated_of_head? {rows : List Row} {r : RowReport}
    (h : r ∈ (g.run w regardless rows).rows.head?) : r.decorated = g.pending.isSome := by
  cases rows with
  | nil => cases h
  | cons row rest =>
    cases hf : g.fault? w row with
    | some fault =>
      rw [run_cons_of_fault hf] at h
      cases h
    | none =>
      rw [run_cons hf] at h
      split at h
      all_goals
        cases h
        rfl

/-- **A run over the two is the run without them**, with two reports more in front of the others. -/
theorem run_pair (quiet : w.IsQuiet) (regardless : Bool) (calm : g.state.isInterrupted = false)
    (free : g.pending = none) (h₁ : isInverting first.command = true)
    (h₂ : isInverting second.command = true) (rest : List Row) :
    ∃ e : Ending, g.run w regardless (first :: second :: rest)
        = e.behind [g.report w first, (g.next w first).report w second] ∧
      e.AgreesFrom 2 (g.run w regardless rest) := by
  have same := (after_pair_agreesFrom quiet free h₁ h₂).run w regardless rest
  rw [quiet.shift_eq] at same
  exact ⟨_, run_append (passes_pair quiet regardless calm h₁ h₂) rest, same⟩

end Stage

namespace Script

variable {w : World} {regardless : Bool} {script : Script} {s : State} {long : Report}

/-- **A run that reports on a row behind some rows passes those**, and finds the interrupt not set
behind them. -/
theorem passes_of_reported {rest : List Row}
    (ok : ((script.append rest).run w regardless s).1 = .ok long)
    (reported : script.rows.length < long.rows.length) :
    (script.start s).Passes w regardless script.rows ∧
      ((script.start s).after w script.rows).state.isInterrupted = false := by
  obtain ⟨ended, rfl⟩ := run_fst_eq_ok_iff.1 ok
  have same := ending_append_agreesFrom w regardless script rest s
  have started := Stage.length_run_rows (same.fault.symm.trans ended)
  rw [← same.rows_eq] at started
  have reached := Stage.lt_started_iff.1 (Nat.lt_of_lt_of_eq reported started)
  rw [List.take_left] at reached
  exact reached.2

/-- **Two inverting rows in a row are as good as none.**  Behind rows that leave no inversion waiting,
a run that comes to the two has the report of the run without them, with the two put in: nothing comes
of them but that the rows behind them are numbered later.  The first is not turned around and the
second is, so it turns nothing around, whatever the two demand.  Nobody sets the interrupt between two
rows. -/
theorem run_cancelled (quiet : w.IsQuiet) {first second : Row} {rest : List Row}
    (even : Even (invertingBlock (script.rows.map Row.command)))
    (h₁ : isInverting first.command = true) (h₂ : isInverting second.command = true)
    (ok : ((script.append (first :: second :: rest)).run w regardless s).1 = .ok long)
    (reported : script.rows.length < long.rows.length) :
    ((script.append (first :: second :: rest)).run w regardless s).2.Agrees
        ((script.append rest).run w regardless s).2 ∧
      ∃ short r₁ r₂ before behind, ((script.append rest).run w regardless s).1 = .ok short ∧
        long.rows = before ++ r₁ :: r₂ :: behind.map (RowReport.shift 2) ∧
        short.rows = before ++ behind ∧ before.length = script.rows.length ∧
        (r₁.row = first ∧ r₁.outcome = some .clean ∧ r₁.decorated = false) ∧
        (r₂.row = second ∧ r₂.outcome = some .clean ∧ r₂.decorated = true) ∧
        (∀ r ∈ behind.head?, r.decorated = false) ∧
        long.passed = short.passed ∧ long.halted = short.halted ∧
        long.stepsRun = short.stepsRun + 2 ∧ long.stepsTotal = short.stepsTotal + 2 := by
  obtain ⟨passes, calm⟩ := passes_of_reported ok reported
  obtain ⟨ended, rfl⟩ := run_fst_eq_ok_iff.1 ok
  have there := ending_append_of_passes passes (first :: second :: rest)
  have here := ending_append_of_passes passes rest
  have free : ((script.start s).after w script.rows).pending = none :=
    Stage.pending_after_of_even w rfl even
  generalize (script.start s).after w script.rows = g at calm free there here
  obtain ⟨e, pair, same⟩ := Stage.run_pair quiet regardless calm free h₁ h₂ rest
  rw [pair] at there
  have whole : ((script.append rest).ending w regardless s).fault = none :=
    here.fault.trans (same.fault.symm.trans (there.fault.symm.trans ended))
  have spent : (g.next w first).pending.isSome = true := by
    rw [Stage.next_pending_isSome, h₁, free]
    rfl
  have clean₁ := Stage.outcome_of_isInverting h₁ w g
  have clean₂ := Stage.outcome_of_isInverting h₂ w (g.next w first)
  have long := there.rows_eq.trans (congrArg (_ ++ _ :: _ :: ·) same.rows)
  have short : ((script.append rest).ending w regardless s).rows
      = (script.start s).reports w script.rows ++ (g.run w regardless rest).rows := here.rows_eq
  refine ⟨run_snd_agrees_of (there.state.trans (same.state.trans here.state.symm)), _, _, _, _, _,
    run_fst_eq_ok_iff.2 ⟨whole, rfl⟩, long, short, Stage.length_reports _ _ _,
    ⟨rfl, clean₁, congrArg Option.isSome free⟩, ⟨rfl, clean₂, spent⟩, fun r hr => ?_, ?_,
    there.halted.trans (same.halted.trans here.halted.symm), ?_, ?_⟩
  · rw [Stage.decorated_of_head? hr, free]
    rfl
  · have fine₁ := Stage.isFailure_of_isInverting h₁ w g
    have fine₂ := Stage.isFailure_of_isInverting h₂ w (g.next w first)
    change Ending.passed _ = Ending.passed _
    rw [ending_isCounted, ending_isCounted, long, short, List.all_append, List.all_append,
      List.all_cons, List.all_cons, fine₁, fine₂, List.all_map]
    rfl
  · change List.length (ending _ _ _ _).rows = List.length (ending _ _ _ _).rows + 2
    rw [long, short, List.length_append, List.length_append, List.length_cons, List.length_cons,
      List.length_map]
    rfl
  · change List.length (script.rows ++ first :: second :: rest) = (script.rows ++ rest).length + 2
    rw [List.length_append, List.length_append]
    rfl

/-- A store, and a block of four inverting rows before an echo: the echo is not turned around, and
the click behind it, which is, stops the run before the last row with the two rows as without. -/
theorem run_cancelled_before_click :
    let script : Script := {
      name := "cancelled"
      rows := [⟨"store", "x", "5"⟩, ⟨"assertErrorOnNext", "", ""⟩, ⟨"verifyErrorOnNext", "", ""⟩] }
    let rest : List Row := [⟨"echo", "${x}", ""⟩, ⟨"assertErrorOnNext", "", ""⟩,
      ⟨"click", "id=${x}", ""⟩, ⟨"echo", "over", ""⟩]
    let pair : List Row := [⟨"verifyFailureOnNext", "", ""⟩, ⟨"assertFailureOnNext", "", ""⟩]
    let long := (script.append (pair ++ rest)).run {} false {}
    let short := (script.append rest).run {} false {}
    long.2.Agrees short.2 ∧ short.2.lines = ["5"] ∧ ∃ a b, long.1 = .ok a ∧ short.1 = .ok b ∧
      a.rows.length = 8 ∧ b.stepsRun = 6 ∧ b.stepsTotal = 7 ∧ b.halted = true ∧
      b.rows.map RowReport.decorated = [false, false, true, false, false, true] := by
  intro script rest pair long short
  let whole : Script := script.append (pair ++ rest)
  have ok : long.1 = .ok ((whole.ending {} false {}).report whole) :=
    run_fst_eq_ok_iff.2 ⟨by decide +kernel, rfl⟩
  obtain ⟨agrees, b, r₁, r₂, before, behind, ok', -, -, -, -, -, -, -, halted, stepsRun, total⟩ :=
    run_cancelled (fun _ => rfl) (by decide +kernel) (by decide +kernel) (by decide +kernel) ok
      (by decide +kernel)
  have reported : ∀ report, short.1 = .ok report →
      report.rows.map RowReport.decorated = [false, false, true, false, false, true] := by
    intro report h
    obtain ⟨-, rfl⟩ := run_fst_eq_ok_iff.1 h
    decide +kernel
  refine ⟨agrees, by decide +kernel, _, b, ok, ok', by decide +kernel, ?_, ?_, ?_, reported b ok'⟩
  · exact Nat.add_right_cancel (stepsRun.symm.trans (by decide +kernel : _ = 6 + 2))
  · exact Nat.add_right_cancel (total.symm.trans (by decide +kernel : _ = 7 + 2))
  · exact halted.symm.trans (by decide +kernel)

end Script

end Rowscript
