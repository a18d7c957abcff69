import Rowscript.Proofs.Lockstep
import Rowscript.Proofs.Variables

/-!
# Proofs/Resemblance — nothing in a run depends on how its variables are kept

    state            ──rows──▸ state′
    state, other map ──rows──▸ state′, other map

A run asks its variables what names stand for, and nothing else.  With another map that says the same
it does the very same, and keeps another map that says the same to its end (`Stage.run_withVars`).
Together with what is known of records: from states that resemble each other, rows are reported on
alike and lead to states that resemble each other again (`Stage.Resembles.run`).
-/

namespace Rowscript

/-! ## States -/

namespace State

/-- The state with its variables in another map. -/
def withVars (s : State) (v : Variables) : State := { s with vars := v }

/-- **The states can be told apart by no name and no deed**: each name stands for the same in both,
and they agree in all else but their records. -/
structure Resembles (s t : State) : Prop where
  vars : s.vars.Resembles t.vars
  interrupt : s.interrupt = t.interrupt
  calls : s.calls = t.calls
  lines : s.lines = t.lines
  waits : s.waits = t.waits

theorem Agrees.resembles {s t : State} (h : s.Agrees t) : s.Resembles t where
  vars := h.vars ▸ .refl _
  interrupt := h.interrupt
  calls := h.calls
  lines := h.lines
  waits := h.waits

theorem withVars_resembles (s : State) {v : Variables} (h : v.Resembles s.vars) :
    (s.withVars v).Resembles s := ⟨h, rfl, rfl, rfl, rfl⟩

namespace Resembles

variable {s t u : State}

theorem refl (s : State) : s.Resembles s := (Agrees.refl s).resembles

theorem symm (h : s.Resembles t) : t.Resembles s :=
  ⟨h.vars.symm, h.interrupt.symm, h.calls.symm, h.lines.symm, h.waits.symm⟩

theorem trans (h : s.Resembles t) (k : t.Resembles u) : s.Resembles u :=
  ⟨h.vars.trans k.vars, h.interrupt.trans k.interrupt, h.calls.trans k.calls,
    h.lines.trans k.lines, h.waits.trans k.waits⟩

/-- States that resemble each other agree once they keep their variables in the same map. -/
theorem agrees_withVars (h : s.Resembles t) : s.Agrees (t.withVars s.vars) :=
  ⟨rfl, h.interrupt, h.calls, h.lines, h.waits⟩

end Resembles

/-! What an operation does, it does whatever the map. -/

section WithVars

variable (w : World) (s : State) (v : Variables)

theorem withVars_ite_trigger (b : Bool) :
    (if b then (s.withVars v).trigger else s.withVars v)
      = (if b then s.trigger else s).withVars v := by
  cases b <;> rfl

theorem withVars_write (line : String) :
    (s.withVars v).write w line = (s.write w line).withVars v :=
  withVars_ite_trigger { s.note (.echoed line) with lines := s.lines ++ [line] } v
    (w.sink (s.lines ++ [line]))

theorem withVars_called (c : Call) :
    (s.withVars v).called w c = (s.called w c).withVars v := by
  change (if (w.driver (s.calls ++ [c])).isNoted then _ else _) = _
  unfold called
  dsimp only
  split <;> rfl

theorem withVars_call (c : Call) :
    (s.withVars v).call w c = ((s.call w c).1, (s.call w c).2.withVars v) := by
  refine Prod.ext rfl ?_
  rw [call_snd, withVars_called, call_snd]
  exact withVars_ite_trigger _ v _

theorem withVars_wait (ms : Nat) :
    (s.withVars v).wait w ms = ((s.wait w ms).1, (s.wait w ms).2.withVars v) :=
  Prod.ext rfl (withVars_ite_trigger { s with waits := s.waits ++ [ms] } v (s.wait w ms).1)

theorem withVars_pass (index : Nat) (r : Record) :
    (s.withVars v).pass w index r = (s.pass w index r).withVars v :=
  withVars_ite_trigger (s.note r) v (w.behind index)

end WithVars

end State

/-! ## Rows -/

namespace Step

theorem performPause_withVars (w : World) (text : String) (s : State) (v : Variables) :
    performPause w text (s.withVars v)
      = ((performPause w text s).1, (performPause w text s).2.withVars v) := by
  cases ht : Text.word? text.toList with
  | none => rw [performPause_of_none w ht, performPause_of_none w ht]
  | some ms =>
    have noted : (s.withVars v).note (.pausing ms) = (s.note (.pausing ms)).withVars v := rfl
    rw [performPause_of_some w ht, performPause_of_some w ht, noted, State.withVars_wait,
      State.withVars_wait]
    dsimp only
    split <;> rfl

theorem performCall_withVars (w : World) (c : Call) (s : State) (v : Variables) :
    performCall w c (s.withVars v)
      = ((performCall w c s).1, (performCall w c s).2.withVars v) := by
  unfold performCall
  rw [State.withVars_call]
  obtain ⟨_ | fault, t⟩ := s.call w c
  · dsimp only
    split <;> rfl
  · rfl

end Step

namespace Row

variable {w : World} {row : Row} {s : State} {v : Variables}

/-- **The step of a row does the same with another map that says the same**, and only a store writes
into it. -/
theorem perform_step_withVars (h : v.Resembles s.vars) (w : World) (row : Row) :
    ∃ v', v'.Resembles (row.effect w s).vars ∧
      row.step.perform w (row.announce (s.withVars v))
        = (row.reply w s, (row.effect w s).withVars v') := by
  have expand : ∀ text, (s.withVars v).expand text = s.expand text := h.expand
  rw [reply, effect]
  cases row.kind with
  | invert kind named =>
    rw [perform_step_invert named, perform_step_invert named]
    exact ⟨v, h, rfl⟩
  | echo named =>
    rw [perform_step_echo named, perform_step_echo named, expand, State.withVars_write]
    refine ⟨v, ?_, rfl⟩
    rwa [State.write_vars]
  | pause named =>
    rw [perform_step_pause named, perform_step_pause named, expand, Step.performPause_withVars]
    refine ⟨v, ?_, rfl⟩
    rwa [Step.performPause_keeps State.vars State.note_vars w (State.wait_vars w)]
  | store named =>
    rw [perform_step_store named, perform_step_store named, expand, expand]
    exact ⟨_, h.insert (s.expand row.locator) (s.expand row.value), rfl⟩
  | drive unknown =>
    have call : row.call (s.withVars v) = row.call s := by
      rw [Row.call, expand, expand]
      rfl
    have announced : (s.withVars v).note (.forwarded row.command)
        = (s.note (.forwarded row.command)).withVars v := rfl
    rw [perform_step_drive unknown, perform_step_drive unknown, call, announced,
      Step.performCall_withVars]
    refine ⟨v, ?_, rfl⟩
    rwa [Step.performCall_keeps State.vars State.note_vars, State.call_vars]

theorem reply_withVars (h : v.Resembles s.vars) (w : World) (row : Row) :
    row.reply w (s.withVars v) = row.reply w s := by
  obtain ⟨_, -, performed⟩ := perform_step_withVars h w row
  rw [reply, performed]

/-- …and so does the row, whatever waits for it. -/
theorem perform_withVars (h : v.Resembles s.vars) (w : World) (pending : Option Inversion)
    (row : Row) :
    ∃ v', v'.Resembles (row.perform w pending s).2.vars ∧
      row.perform w pending (s.withVars v)
        = ((row.perform w pending s).1, (row.perform w pending s).2.withVars v') := by
  obtain ⟨v', same, performed⟩ := perform_step_withVars h w row
  refine ⟨v', ?_, ?_⟩
  · rwa [row.perform_keeps State.vars State.note_vars]
  · rw [reply, effect] at performed
    unfold perform
    cases pending with
    | none =>
      dsimp only
      rw [performed]
      obtain ⟨_ | _, t⟩ := row.step.perform w (row.announce s) <;> rfl
    | some inv =>
      dsimp only [Inversion.evaluate]
      rw [performed]
      obtain ⟨_ | _, t⟩ := row.step.perform w (row.announce s) <;> rfl

end Row

/-! ## Runs -/

namespace Stage

/-- The stage with its variables in another map. -/
def withVars (g : Stage) (v : Variables) : Stage := { g with state := g.state.withVars v }

section WithVars

variable {g : Stage} {v : Variables} (h : v.Resembles g.state.vars) (w : World) (row : Row)

include h

theorem fault?_withVars : (g.withVars v).fault? w row = g.fault? w row := by
  have same : row.reply w (g.withVars v).state = row.reply w g.state := Row.reply_withVars h w row
  rw [fault?, fault?, same]
  rfl

theorem result_withVars : (g.withVars v).result w row = g.result w row := by
  have same : row.reply w (g.withVars v).state = row.reply w g.state := Row.reply_withVars h w row
  rw [result, result, same]
  rfl

theorem report_withVars : (g.withVars v).report w row = g.report w row := by
  rw [report, result_withVars h]
  rfl

theorem next_withVars :
    ∃ v', v'.Resembles (g.next w row).state.vars ∧
      (g.withVars v).next w row = (g.next w row).withVars v' := by
  obtain ⟨v', same, performed⟩ := row.perform_withVars h w g.pending
  refine ⟨v', by rwa [next_vars], ?_⟩
  change Stage.mk _ _ _ (State.pass w _ _ (row.perform w g.pending (g.state.withVars v)).2) = _
  rw [performed, result_withVars h, report_withVars h, State.withVars_pass]
  rfl

theorem broken_withVars :
    ∃ v', v'.Resembles (g.broken w row).vars ∧
      (g.withVars v).broken w row = (g.broken w row).withVars v' := by
  change ∃ v', _ ∧ (if g.state.isInterrupted then g.state.withVars v
    else (row.perform w g.pending (g.state.withVars v)).2) = _
  rw [broken]
  split
  · exact ⟨v, h, rfl⟩
  · obtain ⟨v', same, performed⟩ := row.perform_withVars h w g.pending
    exact ⟨v', same, congrArg Prod.snd performed⟩

end WithVars

/-- **A run does the very same with another map that says the same**: all that differs in the end is
the map. -/
theorem run_withVars {g : Stage} {v : Variables} (h : v.Resembles g.state.vars) (w : World)
    (regardless : Bool) (rows : List Row) :
    ∃ v', v'.Resembles (g.run w regardless rows).state.vars ∧
      (g.withVars v).run w regardless rows
        = { g.run w regardless rows with
            state := (g.run w regardless rows).state.withVars v' } := by
  induction rows generalizing g v with
  | nil => exact ⟨v, h, rfl⟩
  | cons row rest ih =>
    have same : (g.withVars v).fault? w row = g.fault? w row := fault?_withVars h w row
    cases hf : g.fault? w row with
    | some fault =>
      obtain ⟨v', left, broke⟩ := broken_withVars h w row
      rw [run_cons_of_fault hf, run_cons_of_fault (same.trans hf), broke]
      exact ⟨v', left, rfl⟩
    | none =>
      obtain ⟨u, behind, next⟩ := next_withVars h w row
      rw [run_cons hf, run_cons (same.trans hf), report_withVars h, next]
      split
      · obtain ⟨v', left, ran⟩ := ih behind
        exact ⟨v', left, congrArg (Ending.cons _) ran⟩
      · exact ⟨u, behind, rfl⟩

end Stage

/-- **The endings are the same but for their states**, and those resemble each other. -/
structure Ending.Resembles (e f : Ending) : Prop where
  rows : e.rows = f.rows
  fault : e.fault = f.fault
  halted : e.halted = f.halted
  pending : e.pending = f.pending
  state : e.state.Resembles f.state

/-- **From states that resemble each other rows are run alike.** -/
theorem Stage.run_resembles {g k : Stage} (index : g.index = k.index)
    (pending : g.pending = k.pending) (h : g.state.Resembles k.state) (w : World)
    (regardless : Bool) (rows : List Row) :
    (g.run w regardless rows).Resembles (k.run w regardless rows) := by
  have start : g.AgreesFrom 0 (k.withVars g.state.vars) := ⟨index, pending, h.agrees_withVars⟩
  have records : Ending.AgreesFrom 0 (g.run w regardless rows)
      ((k.withVars g.state.vars).run w regardless rows) := start.run w regardless rows
  obtain ⟨v, left, ran⟩ := run_withVars h.vars w regardless rows
  rw [ran] at records
  exact
    { rows := records.rows_eq
      fault := records.fault
      halted := records.halted
      pending := records.pending
      state := records.state.resembles.trans (State.withVars_resembles _ left) }

/-- **Scripts with the same name and the same rows report the same** if they start from states that
resemble each other, and what they leave resembles each other. -/
theorem Script.run_resembles (script other : Script) {s t : State} (name : script.name = other.name)
    (rows : script.rows = other.rows)
    (h : (script.start s).state.Resembles (other.start t).state) (w : World) (regardless : Bool) :
    (script.run w regardless s).1 = (other.run w regardless t).1 ∧
      (script.run w regardless s).2.Resembles (other.run w regardless t).2 := by
  have ends : (script.ending w regardless s).Resembles (other.ending w regardless t) := by
    rw [ending, ending, rows]
    exact Stage.run_resembles (g := script.start s) (k := other.start t) rfl rfl h w regardless _
  have passed : (script.ending w regardless s).passed = (other.ending w regardless t).passed := by
    rw [ending_isCounted w regardless script s, ends.rows, ending_isCounted w regardless other t]
  have report : (script.ending w regardless s).report script
      = (other.ending w regardless t).report other := by
    simp only [Ending.report, name, rows, ends.rows, passed, ends.halted]
  constructor
  · rw [run_eq, run_eq, ends.fault, report]
    cases (other.ending w regardless t).fault <;> rfl
  · exact ((run_snd_agrees w regardless script s).resembles.trans ends.state).trans
      (run_snd_agrees w regardless other t).resembles.symm

end Rowscript
