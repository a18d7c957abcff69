import Rowscript.Proofs.Progress

/-!
# Proofs/Calm — a run that nothing interrupts

Only an interrupt keeps a run from having a report, and it has to come from somewhere: it is there
from the start, or the driver or the sink sends it.  In a calm world neither does, so an interrupt
that is clear at the start stays clear row by row, and every script has a report (`Script.run_calm`).
-/

namespace Rowscript

/-- **The world interrupts nothing**: no call and no line sets the interrupt, nor does anybody else,
and no call is answered with one. -/
structure World.Calm (w : World) : Prop where
  triggers : ∀ calls, (w.driver calls).triggers = false
  answers : ∀ calls, (w.driver calls).result ≠ .error .interrupted
  sink : ∀ lines, w.sink lines = false
  arrives : ∀ waits, w.arrives waits = false
  behind : ∀ index, w.behind index = false

section Calm

variable {w : World} (h : w.Calm)

include h

/-! ## One row -/

namespace State

theorem write_interrupt_of_calm (s : State) (line : String) :
    (s.write w line).interrupt = s.interrupt := by
  rw [write, if_neg (by simp [h.sink])]
  rfl

theorem call_interrupt_of_calm (s : State) (c : Call) :
    (s.call w c).2.interrupt = s.interrupt := by
  rw [call_snd, h.triggers]
  exact called_keeps w s c State.interrupt State.note_interrupt

/-- Without an interrupt a wait is not cut short. -/
theorem wait_of_clear {s : State} (clear : s.interrupt = .clear) (ms : Nat) :
    s.wait w ms = (false, { s with waits := s.waits ++ [ms] }) := by
  simp [wait, isInterrupted, clear, h.arrives]

end State

namespace Row

/-- **The interrupt stays clear**… -/
theorem effect_interrupt_of_calm (row : Row) {s : State} (clear : s.interrupt = .clear) :
    (row.effect w s).interrupt = .clear := by
  cases row.kind with
  | invert kind named =>
    rw [effect, perform_step_invert named]
    exact clear
  | echo named =>
    rw [effect, perform_step_echo named]
    exact (State.write_interrupt_of_calm h s _).trans clear
  | pause named =>
    rw [effect, perform_step_pause named]
    cases ht : Text.word? (s.expand row.locator).toList with
    | none => rwa [Step.performPause_of_none w ht]
    | some ms =>
      have noted : (s.note (.pausing ms)).interrupt = .clear := clear
      rw [Step.performPause_of_some w ht, State.wait_of_clear h clear, State.wait_of_clear h noted]
      exact clear
  | store named =>
    rw [effect, perform_step_store named]
    exact clear
  | drive unknown =>
    rw [effect, perform_step_drive unknown,
      Step.performCall_keeps State.interrupt State.note_interrupt]
    exact (State.call_interrupt_of_calm h _ _).trans clear

/-- …and no row is cut short. -/
theorem not_isCutShort_of_calm (row : Row) {s : State} (clear : s.interrupt = .clear) :
    ¬row.IsCutShort w s := by
  rintro (⟨-, ms, -, cut⟩ | ⟨-, answered⟩)
  · rw [State.wait_of_clear h clear] at cut
    cases cut
  · exact h.answers _ answered

end Row

/-! ## Many rows -/

namespace Stage

variable {g : Stage} (clear : g.state.interrupt = .clear)

include clear

theorem fault?_of_calm (row : Row) : g.fault? w row = none := by
  cases hf : g.fault? w row with
  | none => rfl
  | some fault =>
    obtain ⟨-, interrupted | cut⟩ := fault?_eq_some_iff.1 hf
    · rw [State.isInterrupted, clear] at interrupted
      cases interrupted
    · exact absurd cut (row.not_isCutShort_of_calm h clear)

theorem next_interrupt_of_calm (row : Row) : (g.next w row).state.interrupt = .clear := by
  change (State.pass w g.index _ _).interrupt = .clear
  rw [State.pass, h.behind]
  change (State.note _ _).interrupt = .clear
  rw [State.note_interrupt, Row.perform_keeps State.interrupt State.note_interrupt]
  exact row.effect_interrupt_of_calm h clear

/-- **A run that nothing interrupts has no fault**, and leaves the interrupt clear. -/
theorem run_calm (regardless : Bool) (rows : List Row) :
    (g.run w regardless rows).fault = none ∧
      (g.run w regardless rows).state.interrupt = .clear := by
  induction rows generalizing g with
  | nil => exact ⟨rfl, clear⟩
  | cons row rest ih =>
    have behind : (g.next w row).state.interrupt = .clear := next_interrupt_of_calm h clear row
    rw [run_cons (fault?_of_calm h clear row)]
    split
    · exact ih behind
    · exact ⟨rfl, behind⟩

end Stage

/-- **A script that nothing interrupts has a report**, and leaves the interrupt clear. -/
theorem Script.run_calm {s : State} (clear : s.interrupt = .clear) (regardless : Bool)
    (script : Script) :
    (script.run w regardless s).1 = .ok ((script.ending w regardless s).report script) ∧
      (script.run w regardless s).2.interrupt = .clear := by
  have start : (script.start s).state.interrupt = .clear :=
    (State.seed_keeps State.interrupt (fun _ _ _ => rfl) _ _).trans clear
  obtain ⟨whole, left⟩ := Stage.run_calm h start regardless script.rows
  exact ⟨run_fst_eq_ok_iff.2 ⟨whole, rfl⟩,
    (run_snd_agrees w regardless script s).interrupt.trans left⟩

end Calm

end Rowscript
