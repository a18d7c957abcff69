import Rowscript.Proofs.Stage

/-!
# Proofs/Interruption — when a run ends without a report, and what it leaves

A run ends without a report only if it is interrupted, and only at a row that it reaches: the
interrupt is set when the row is about to start, or the row itself is cut short
(`Script.interrupted_iff`).  What the rows before it did is then all that was done, but for the call
that the driver answered with the interrupt.  Whatever the last row that counts sets off comes too
late to interrupt anything.
-/

namespace Rowscript

/-- A row that is cut short pauses or goes to the driver. -/
theorem Row.ne_of_isCutShort {w : World} {row : Row} {s : State} (h : row.IsCutShort w s) :
    row.command ≠ "store" ∧ row.command ≠ "echo" := by
  obtain ⟨named, -⟩ | ⟨unknown, -⟩ := h
  · simp [named]
  · exact ⟨(ne_of_unknown unknown).2.2, (ne_of_unknown unknown).1⟩

namespace Stage

variable {w : World} {g : Stage} {row : Row}

/-- **The run is interrupted at the row**: the interrupt is set when the row is about to start, or
the row is cut short. -/
def InterruptedAt (w : World) (g : Stage) (row : Row) : Prop :=
  g.state.isInterrupted = true ∨ row.IsCutShort w g.state

theorem fault?_of_interruptedAt (h : g.InterruptedAt w row) :
    g.fault? w row = some .interrupted := fault?_eq_some_iff.2 ⟨rfl, h⟩

theorem fault?_of_not_interruptedAt (h : ¬g.InterruptedAt w row) : g.fault? w row = none := by
  cases hf : g.fault? w row with
  | none => rfl
  | some fault => exact absurd (fault?_eq_some_iff.1 hf).2 h

/-- **What an interrupt leaves** is the stage, but for the call that it answers. -/
theorem broken_of_interruptedAt (h : g.InterruptedAt w row) :
    (g.broken w row).vars = g.state.vars ∧ (g.broken w row).lines = g.state.lines ∧
      (g.broken w row).calls =
        if g.state.isInterrupted = true ∨ row.command ∈ Command.names then g.state.calls
        else g.state.calls ++ [row.call g.state] := by
  rw [broken]
  split
  case isTrue hi => exact ⟨rfl, rfl, (if_pos (.inl hi)).symm⟩
  case isFalse hi =>
    obtain ⟨store, echo⟩ := Row.ne_of_isCutShort (h.resolve_left hi)
    refine ⟨?_, ?_, ?_⟩
    · rw [Row.perform_keeps State.vars State.note_vars, Row.effect_vars, if_neg store]
    · rw [Row.perform_keeps State.lines State.note_lines, Row.effect_lines, if_neg echo]
    · rw [Row.perform_keeps State.calls State.note_calls, Row.effect_calls]
      simp only [hi, Bool.false_eq_true, false_or]

end Stage

namespace Script

variable {w : World} {regardless : Bool} {script : Script} {s : State}

/-- A run that ends with a fault reaches the row that has it. -/
theorem exists_reaches_of_fault {fault : Fault}
    (h : (script.ending w regardless s).fault = some fault) :
    ∃ k, ∃ hk : script.Reaches w regardless s k,
      (script.stage w s k).fault? w hk.row = some fault := by
  generalize he : script.ending w regardless s = e at h
  cases he ▸ script.ends w regardless s with
  | passed => cases h
  | stopped => cases h
  | failed done row rest split passes cause pending broke =>
    obtain rfl : cause = fault := Option.some.inj h
    have taken : script.rows.take done.length = done := by rw [split, List.take_left]
    have hk : done.length < script.rows.length := by
      rw [split, List.length_append, List.length_cons]
      omega
    have reaches : script.Reaches w regardless s done.length := ⟨hk, by rwa [taken]⟩
    have here : reaches.row = row := by
      change script.rows[done.length] = row
      rw [List.getElem_of_eq split hk, List.getElem_append_right (Nat.le_refl _)]
      simp
    refine ⟨done.length, reaches, ?_⟩
    rw [here, stage, taken]
    exact broke

/-- A row at which the run is interrupted ends it, and what it leaves is what the row leaves. -/
theorem Reaches.run_of_interruptedAt {k : Nat} (h : script.Reaches w regardless s k)
    (cause : (script.stage w s k).InterruptedAt w h.row) :
    script.run w regardless s
      = (.error .interrupted, (script.stage w s k).broken w h.row) := by
  rw [run_eq, h.ending_eq, Stage.run_cons_of_fault (Stage.fault?_of_interruptedAt cause)]
  rfl

/-- A row at which the run is not interrupted makes for a report, if it is the last one or its
verdict stops the run: whatever it sets off comes too late. -/
theorem Reaches.run_of_last {k : Nat} (h : script.Reaches w regardless s k)
    (calm : ¬(script.stage w s k).InterruptedAt w h.row)
    (last : k + 1 = script.rows.length ∨
      regardless = false ∧ ((script.stage w s k).report w h.row).isHard = true) :
    ∃ report, (script.run w regardless s).1 = .ok report := by
  have hf : (script.ending w regardless s).fault = none := by
    rw [h.ending_eq, Stage.run_cons (Stage.fault?_of_not_interruptedAt calm)]
    obtain last | ⟨rfl, hard⟩ := last
    · rw [last, List.drop_length]
      split <;> rfl
    · rw [hard]
      rfl
  exact ⟨_, run_fst_eq_ok_iff.2 ⟨hf, rfl⟩⟩

/-- **A run ends without a report exactly if it is interrupted at a row that it reaches**, whoever
interrupts it: the driver, the sink, or somebody outside, in any of its waits or behind any of its
rows.  What waits for the row is no part of it.  What is left is what the rows before it left, and
the call that the driver answered with an interrupt.  At a row that ends the run by itself, the last
one or one with a verdict that stops it, nothing that the row sets off matters; and without rows
there is always a report. -/
theorem interrupted_iff (w : World) (regardless : Bool) (script : Script) (s : State) :
    (∀ fault, (script.run w regardless s).1 = .error fault
      ↔ fault = .interrupted ∧ ∃ k, ∃ hk : script.Reaches w regardless s k,
        (script.stage w s k).InterruptedAt w hk.row) ∧
    (∀ k, ∀ hk : script.Reaches w regardless s k,
      let before := (script.stage w s k).state
      let row := hk.row
      let left := (script.run w regardless s).2
      (script.stage w s k).InterruptedAt w row →
        left.vars = before.vars ∧ left.lines = before.lines ∧
          left.calls =
            if before.isInterrupted = true ∨ row.command ∈ Command.names then before.calls
            else before.calls ++ [row.call before]) ∧
    (∀ k, ∀ hk : script.Reaches w regardless s k,
      ¬(script.stage w s k).InterruptedAt w hk.row →
      (k + 1 = script.rows.length ∨
        regardless = false ∧ ((script.stage w s k).report w hk.row).isHard = true) →
      ∃ report, (script.run w regardless s).1 = .ok report) ∧
    (script.rows = [] → ∃ report, (script.run w regardless s).1 = .ok report) := by
  refine ⟨fun fault => ⟨fun h => ?_, ?_⟩, fun k hk => ?_, fun k hk => hk.run_of_last, fun h => ?_⟩
  · obtain ⟨k, hk, broke⟩ := exists_reaches_of_fault (run_fst_eq_error_iff.1 h)
    obtain ⟨rfl, cause⟩ := Stage.fault?_eq_some_iff.1 broke
    exact ⟨rfl, k, hk, cause⟩
  · rintro ⟨rfl, k, hk, cause⟩
    rw [hk.run_of_interruptedAt cause]
  · intro before row left cause
    rw [show left = _ from congrArg Prod.snd (hk.run_of_interruptedAt cause)]
    exact Stage.broken_of_interruptedAt cause
  · have hf : (script.ending w regardless s).fault = none := by
      rw [ending, h]
      rfl
    exact ⟨_, run_fst_eq_ok_iff.2 ⟨hf, rfl⟩⟩

/-- A click that the driver answers with an interrupt, behind a row that wants it to fail: there is
no report, the click is the last call, and the echo behind it never comes.  Without the click it is
the second pause that is cut short, and again nothing comes behind it. -/
theorem interrupted_click :
    let w : World := {
      driver := fun _ => { result := .error .interrupted }
      arrives := fun waits => waits.length == 2 }
    let script : Script := {
      name := "interrupted"
      rows := [⟨"echo", "before", ""⟩, ⟨"assertErrorOnNext", "", ""⟩, ⟨"click", "id=save", ""⟩,
        ⟨"echo", "behind", ""⟩] }
    let pauses : Script := {
      name := "pauses"
      rows := [⟨"pause", "1", ""⟩, ⟨"echo", "between", ""⟩, ⟨"assertErrorOnNext", "", ""⟩,
        ⟨"pause", "60000", ""⟩, ⟨"echo", "behind", ""⟩] }
    let left := (script.run w true {}).2
    (script.run w true {}).1 = .error .interrupted ∧ left.lines = ["before"] ∧
      left.calls = [⟨"click", ["id=save", ""]⟩] ∧
      (pauses.run w true {}).1 = .error .interrupted ∧
      (pauses.run w true {}).2.lines = ["between"] := by
  intro w script pauses left
  have reaches : script.Reaches w true {} 2 :=
    ⟨by decide, by decide +kernel, rfl, by decide +kernel, rfl, trivial⟩
  have unknown : "click" ∉ Command.names := by decide +kernel
  have cause : (script.stage w {} 2).InterruptedAt w reaches.row :=
    .inr (.inr ⟨unknown, rfl⟩)
  obtain ⟨ends, leaves, -⟩ := interrupted_iff w true script {}
  obtain ⟨-, lines, calls⟩ := leaves 2 reaches cause
  rw [show reaches.row = ⟨"click", "id=save", ""⟩ from rfl] at calls
  have paused : pauses.Reaches w true {} 3 :=
    ⟨by decide, by decide +kernel, rfl, by decide +kernel, rfl, by decide +kernel, rfl, trivial⟩
  have cut : Row.IsCutShort w ⟨"pause", "60000", ""⟩ (pauses.stage w {} 3).state :=
    .inl ⟨rfl, 60000, by decide +kernel, by decide +kernel⟩
  have arrives : (pauses.stage w {} 3).InterruptedAt w paused.row := .inr cut
  obtain ⟨ends', leaves', -⟩ := interrupted_iff w true pauses {}
  obtain ⟨-, lines', -⟩ := leaves' 3 paused arrives
  exact ⟨(ends _).2 ⟨rfl, 2, reaches, cause⟩, lines.trans (by decide +kernel),
    calls.trans (by decide +kernel), (ends' _).2 ⟨rfl, 3, paused, arrives⟩,
    lines'.trans (by decide +kernel)⟩

end Script

end Rowscript
