import Mathlib.Algebra.Ring.Parity
import Mathlib.Data.List.Induction
import Rowscript.Proofs.Stage

/-!
# Proofs/Decoration — which rows are turned around

An inverting row that is not turned around itself turns the next row around; one that is turned
around is spent.  So along a block of inverting rows the inversion comes and goes, and whether one
waits behind the block is the parity of its length (`Stage.pending_after_isSome_iff`).  Nothing but
the names of the commands takes part in this.
-/

namespace Rowscript

/-- How many inverting commands stand at the end of a list of names. -/
def invertingBlock (names : List String) : Nat := (names.reverse.takeWhile isInverting).length

/-- One more name ends the block or makes it longer. -/
theorem invertingBlock_concat (names : List String) (name : String) :
    invertingBlock (names ++ [name]) =
      if isInverting name then invertingBlock names + 1 else 0 := by
  rw [invertingBlock, invertingBlock, List.reverse_concat, List.takeWhile_cons]
  split <;> rfl

namespace Stage

/-- **An inversion waits behind a row if the row inverts and is not turned around.** -/
theorem next_pending_isSome (w : World) (g : Stage) (row : Row) :
    (g.next w row).pending.isSome = (isInverting row.command && !g.pending.isSome) := by
  rw [next, result]
  cases hi : isInverting row.command with
  | true =>
    obtain ⟨kind, named⟩ := isInverting_iff.1 hi
    rw [Row.reply_of_invert named]
    cases g.pending <;> rfl
  | false =>
    cases hr : row.reply w g.state with
    | error fault => rfl
    | ok reply =>
      cases reply with
      | wrap inv =>
        have named := isInverting_iff.2 ⟨inv.failure, Row.reply_eq_wrap_iff.1 hr⟩
        rw [hi] at named
        cases named
      | done outcome => cases g.pending <;> rfl
      | silent => cases g.pending <;> rfl

/-- **Behind rows an inversion waits if the block at their end is odd.**  The invariant of a run: it
holds at every stage, whatever the rows did. -/
theorem pending_after_isSome_iff (w : World) {g : Stage} (h : g.pending = none)
    (rows : List Row) :
    (g.after w rows).pending.isSome = true ↔ Odd (invertingBlock (rows.map Row.command)) := by
  induction rows using List.reverseRecOn with
  | nil => simp [h, invertingBlock]
  | append_singleton rows row ih =>
    rw [after_append, after_cons, after_nil, next_pending_isSome, List.map_append,
      List.map_singleton, invertingBlock_concat]
    cases isInverting row.command with
    | false => simp
    | true =>
      rw [Bool.true_and, Bool.not_eq_true', ← Bool.not_eq_true, ih]
      exact Nat.odd_add_one.symm

/-- …so behind an even one nothing does. -/
theorem pending_after_of_even (w : World) {g : Stage} (h : g.pending = none) {rows : List Row}
    (even : Even (invertingBlock (rows.map Row.command))) : (g.after w rows).pending = none :=
  Option.not_isSome_iff_eq_none.1
    (mt (pending_after_isSome_iff w h rows).1 (Nat.not_odd_iff_even.2 even))

end Stage

namespace Script

variable {w : World} {regardless : Bool} {script : Script} {s : State} {report : Report}

/-- **A row is turned around if the block of inverting commands right before it is odd**, and the
inversion is spent on it: the row behind it is turned around only by itself. -/
theorem decorated_iff_odd_block (h : (script.run w regardless s).1 = .ok report) {i : Nat}
    (hi : i < report.rows.length) :
    ∃ hs : i < script.rows.length,
      report.rows[i].row = script.rows[i] ∧
      (report.rows[i].decorated = true
        ↔ Odd (invertingBlock ((script.rows.map Row.command).take i))) ∧
      ∀ hn : i + 1 < report.rows.length,
        report.rows[i + 1].decorated
          = (isInverting script.rows[i].command && !report.rows[i].decorated) := by
  obtain ⟨hs, -, here⟩ := getElem_rows h hi
  refine ⟨hs, by rw [here]; rfl, ?_, fun hn => ?_⟩
  · rw [here, ← List.map_take]
    exact Stage.pending_after_isSome_iff w rfl (script.rows.take i)
  · obtain ⟨_, -, behind⟩ := getElem_rows h hn
    rw [here, behind]
    exact (congrArg (fun g : Stage => g.pending.isSome) (stage_succ w s hs)).trans
      (Stage.next_pending_isSome w _ _)

/-- The echo behind a block of three inverting rows is turned around. -/
theorem decorated_echo_behind_three :
    let script : Script := {
      name := "three"
      rows := [⟨"assertErrorOnNext", "", ""⟩, ⟨"verifyErrorOnNext", "", ""⟩,
        ⟨"verifyFailureOnNext", "", ""⟩, ⟨"echo", "over", ""⟩] }
    let report := (script.ending {} false {}).report script
    (script.run {} false {}).1 = .ok report ∧ ∃ hi : 3 < report.rows.length,
      report.rows[3].decorated = true := by
  intro script report
  have h : (script.run {} false {}).1 = .ok report :=
    run_fst_eq_ok_iff.2 ⟨by decide +kernel, rfl⟩
  have hi : 3 < report.rows.length := by decide +kernel
  obtain ⟨-, -, parity, -⟩ := decorated_iff_odd_block h hi
  exact ⟨h, hi, parity.2 (by decide +kernel)⟩

end Script

end Rowscript
