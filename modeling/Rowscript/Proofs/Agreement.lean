import Rowscript.Proofs.Stage

/-!
# Proofs/Agreement — nothing in a run depends on the records

Two states agree if they differ in their records alone (`State.Agrees`).  Whatever is done to both of
them comes out alike and leaves states that agree again: operations, and so the rows made of them
(`Row.reply_of_agrees`, `Row.perform_agrees`).
-/

namespace Rowscript

/-! ## States -/

/-- **The states differ in their records alone.** -/
structure State.Agrees (s t : State) : Prop where
  vars : s.vars = t.vars
  interrupt : s.interrupt = t.interrupt
  calls : s.calls = t.calls
  lines : s.lines = t.lines
  waits : s.waits = t.waits

namespace State

theorem agrees_note (s : State) (r : Record) : (s.note r).Agrees s := ⟨rfl, rfl, rfl, rfl, rfl⟩

theorem agrees_called (w : World) (s : State) (c : Call) :
    (s.called w c).Agrees { s with calls := s.calls ++ [c] } := by
  unfold called
  dsimp only
  split
  · exact agrees_note _ _
  · exact ⟨rfl, rfl, rfl, rfl, rfl⟩

/-- Where nobody sets the interrupt behind a row, all that the row adds there is its record. -/
theorem agrees_pass (w : World) {index : Nat} (quiet : w.behind index = false) (r : Record)
    (s : State) : (s.pass w index r).Agrees s := by
  rw [pass, quiet]
  exact agrees_note s r

namespace Agrees

variable {s t u : State}

theorem refl (s : State) : s.Agrees s := ⟨rfl, rfl, rfl, rfl, rfl⟩

theorem symm (h : s.Agrees t) : t.Agrees s :=
  ⟨h.vars.symm, h.interrupt.symm, h.calls.symm, h.lines.symm, h.waits.symm⟩

theorem trans (h : s.Agrees t) (k : t.Agrees u) : s.Agrees u :=
  ⟨h.vars.trans k.vars, h.interrupt.trans k.interrupt, h.calls.trans k.calls,
    h.lines.trans k.lines, h.waits.trans k.waits⟩

/-- Records may be added on both sides, whatever they say. -/
theorem notes (h : s.Agrees t) (r r' : Record) : (s.note r).Agrees (t.note r') :=
  ((agrees_note s r).trans h).trans (agrees_note t r').symm

theorem isInterrupted (h : s.Agrees t) : s.isInterrupted = t.isInterrupted := by
  rw [State.isInterrupted, h.interrupt]
  rfl

theorem expand (h : s.Agrees t) (text : String) : s.expand text = t.expand text := by
  rw [State.expand, h.vars]
  rfl

theorem trigger (h : s.Agrees t) : s.trigger.Agrees t.trigger :=
  ⟨h.vars, rfl, h.calls, h.lines, h.waits⟩

theorem ite_trigger (h : s.Agrees t) (b : Bool) :
    (if b then s.trigger else s).Agrees (if b then t.trigger else t) := by
  cases b
  · exact h
  · exact h.trigger

theorem store (h : s.Agrees t) (name value : String) :
    (s.store name value).Agrees (t.store name value) :=
  ⟨congrArg (·.insert name value) h.vars, h.interrupt, h.calls, h.lines, h.waits⟩

theorem seed (h : s.Agrees t) (v : Variables) : (s.seed v).Agrees (t.seed v) := by
  unfold State.seed
  induction v.entries generalizing s t with
  | nil => exact h
  | cons entry entries ih => exact ih (h.store entry.1 entry.2)

/-- The sink sees the lines… -/
theorem write (h : s.Agrees t) (w : World) (line : String) :
    (s.write w line).Agrees (t.write w line) := by
  have lines : s.lines ++ [line] = t.lines ++ [line] := by rw [h.lines]
  have added : State.Agrees { s.note (.echoed line) with lines := s.lines ++ [line] }
      { t.note (.echoed line) with lines := t.lines ++ [line] } :=
    ⟨h.vars, h.interrupt, h.calls, lines, h.waits⟩
  unfold State.write
  dsimp only
  rw [lines] at added ⊢
  exact added.ite_trigger _

/-- …and the driver sees the calls, and neither of them anything else. -/
theorem call (h : s.Agrees t) (w : World) (c : Call) :
    (s.call w c).1 = (t.call w c).1 ∧ (s.call w c).2.Agrees (t.call w c).2 := by
  have calls : s.calls ++ [c] = t.calls ++ [c] := by rw [h.calls]
  have received : State.Agrees { s with calls := s.calls ++ [c] }
      { t with calls := t.calls ++ [c] } :=
    ⟨h.vars, h.interrupt, calls, h.lines, h.waits⟩
  have added : (s.called w c).Agrees (t.called w c) :=
    ((agrees_called w s c).trans received).trans (agrees_called w t c).symm
  refine ⟨by rw [call_result, call_result, calls], ?_⟩
  rw [call_snd, call_snd, calls]
  exact added.ite_trigger _

/-- A wait comes out by the interrupt and the waits before it. -/
theorem wait (h : s.Agrees t) (w : World) (ms : Nat) :
    (s.wait w ms).1 = (t.wait w ms).1 ∧ (s.wait w ms).2.Agrees (t.wait w ms).2 := by
  have waits : s.waits ++ [ms] = t.waits ++ [ms] := by rw [h.waits]
  have added : State.Agrees { s with waits := s.waits ++ [ms] }
      { t with waits := t.waits ++ [ms] } :=
    ⟨h.vars, h.interrupt, h.calls, h.lines, waits⟩
  have cut : (s.wait w ms).1 = (t.wait w ms).1 := by
    rw [wait_fst, wait_fst, h.isInterrupted, waits]
  refine ⟨cut, ?_⟩
  rw [wait_snd, wait_snd, cut]
  exact added.ite_trigger _

/-- Behind rows the interrupt is set on both sides, or on neither. -/
theorem pass (h : s.Agrees t) {w w' : World} {i j : Nat} (same : w.behind i = w'.behind j)
    (r r' : Record) : (s.pass w i r).Agrees (t.pass w' j r') := by
  rw [State.pass, State.pass, same]
  exact (h.notes r r').ite_trigger _

end Agrees

end State

/-! ## Rows -/

namespace Step

variable {s t : State}

theorem performPause_agrees (h : s.Agrees t) (w : World) (text : String) :
    (performPause w text s).2.Agrees (performPause w text t).2 := by
  cases ht : Text.word? text.toList with
  | none =>
    rw [performPause_of_none w ht, performPause_of_none w ht]
    exact h
  | some ms =>
    have waited := ((h.notes (.pausing ms) (.pausing ms)).wait w ms).2
    rw [performPause_of_some w ht, performPause_of_some w ht, (h.wait w ms).1]
    split
    · exact waited.notes _ _
    · exact waited

/-- A call leaves what the driver leaves, and maybe a record. -/
theorem performCall_agrees_call (w : World) (c : Call) (s : State) :
    (performCall w c s).2.Agrees (s.call w c).2 := by
  rw [performCall_eq]
  split
  · exact .refl _
  · split
    · exact .refl _
    · exact State.agrees_note _ _

theorem performCall_agrees (h : s.Agrees t) (w : World) (c : Call) :
    (performCall w c s).2.Agrees (performCall w c t).2 :=
  ((performCall_agrees_call w c s).trans (h.call w c).2).trans (performCall_agrees_call w c t).symm

end Step

namespace Row

variable {s t : State}

/-- **States that agree get the same reply.** -/
theorem reply_of_agrees (h : s.Agrees t) (w : World) (row : Row) :
    row.reply w s = row.reply w t := by
  cases row.kind with
  | invert kind named => rw [reply_of_invert named, reply_of_invert named]
  | echo named => rw [reply_of_echo named, reply_of_echo named]
  | pause named =>
    have timeout : row.timeout? s = row.timeout? t := by
      rw [timeout?, h.expand]
      rfl
    rw [reply_of_pause named, reply_of_pause named, timeout, h.expand]
    simp only [(h.wait w _).1]
  | store named => rw [reply_of_store named, reply_of_store named]
  | drive unknown =>
    have answer : row.answer w s = row.answer w t := by
      rw [Row.answer, Row.call, h.calls, h.expand, h.expand]
      rfl
    rw [reply_of_drive unknown, reply_of_drive unknown, answer]

/-- …and the row leaves states that agree. -/
theorem effect_agrees (h : s.Agrees t) (w : World) (row : Row) :
    (row.effect w s).Agrees (row.effect w t) := by
  cases row.kind with
  | invert kind named =>
    rw [effect, effect, perform_step_invert named, perform_step_invert named]
    exact h
  | echo named =>
    rw [effect, effect, perform_step_echo named, perform_step_echo named, h.expand]
    exact h.write w _
  | pause named =>
    rw [effect, effect, perform_step_pause named, perform_step_pause named, h.expand]
    exact Step.performPause_agrees h w _
  | store named =>
    rw [effect, effect, perform_step_store named, perform_step_store named, h.expand, h.expand]
    exact h.store _ _
  | drive unknown =>
    have call : row.call s = row.call t := by
      rw [Row.call, h.expand, h.expand]
      rfl
    rw [effect, effect, perform_step_drive unknown, perform_step_drive unknown, call]
    exact Step.performCall_agrees (h.notes _ _) w _

/-- **What waits for a row leaves no trace but a record.** -/
theorem perform_agrees_effect (w : World) (pending : Option Inversion) (row : Row) (s : State) :
    (row.perform w pending s).2.Agrees (row.effect w s) := by
  obtain h | ⟨r, h⟩ := row.perform_snd w pending s
  · rw [h]
    exact .refl _
  · rw [h]
    exact State.agrees_note _ r

theorem perform_agrees (h : s.Agrees t) (w : World) (pending pending' : Option Inversion)
    (row : Row) : (row.perform w pending s).2.Agrees (row.perform w pending' t).2 :=
  ((row.perform_agrees_effect w pending s).trans (effect_agrees h w row)).trans
    (row.perform_agrees_effect w pending' t).symm

end Row

/-! ## Runs -/

/-- **States that agree meet the same fault**, whatever waits for the row. -/
theorem Stage.fault?_of_agrees {g k : Stage} (h : g.state.Agrees k.state) (w : World) (row : Row) :
    g.fault? w row = k.fault? w row := by
  rw [fault?, h.isInterrupted, Row.reply_of_agrees h]
  rfl

/-- What remains to be said of a pending inversion is a record. -/
theorem Ending.finish_agrees (e : Ending) : e.finish.Agrees e.state := by
  rw [finish]
  split
  · exact State.agrees_note _ _
  · exact .refl _

/-- **A run leaves what its last row left**, and maybe one more record. -/
theorem Script.run_snd_agrees (w : World) (regardless : Bool) (script : Script) (s : State) :
    (script.run w regardless s).2.Agrees (script.ending w regardless s).state := by
  rw [run_eq]
  cases (script.ending w regardless s).fault with
  | some fault => exact .refl _
  | none => exact Ending.finish_agrees _

/-- Runs with endings that agree leave states that agree. -/
theorem Script.run_snd_agrees_of {w w' : World} {regardless regardless' : Bool}
    {script other : Script} {s t : State}
    (h : (script.ending w regardless s).state.Agrees (other.ending w' regardless' t).state) :
    (script.run w regardless s).2.Agrees (other.run w' regardless' t).2 :=
  ((run_snd_agrees w regardless script s).trans h).trans
    (run_snd_agrees w' regardless' other t).symm

end Rowscript
