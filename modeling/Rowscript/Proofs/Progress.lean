import Rowscript.Proofs.Agreement

/-!
# Proofs/Progress — how far a run gets

A run starts a row if it reaches it and finds the interrupt not set.  The rows that it starts are the
first ones (`Script.lt_started_iff`), and however the run ends, what it leaves is the stage behind
them, but for records and the interrupt (`Script.run_snd_keeps`).  A field that every row adds to is
then what the rows add, one by one (`Script.field_stage`).
-/

namespace Rowscript

namespace Stage

variable {w : World} {regardless : Bool} {g : Stage} {row : Row}

/-- How many rows a run starts. -/
def started (w : World) (regardless : Bool) : Stage → List Row → Nat
  | _, [] => 0
  | g, row :: rest =>
    if g.state.isInterrupted then 0
    else if g.fault? w row = none ∧ (regardless || !(g.report w row).isHard) = true then
      started w regardless (g.next w row) rest + 1
    else 1

theorem started_of_interrupted (h : g.state.isInterrupted = true) (rest : List Row) :
    g.started w regardless (row :: rest) = 0 := if_pos h

/-- A row that the run goes on behind… -/
theorem started_of_on (h : g.fault? w row = none)
    (on : (regardless || !(g.report w row).isHard) = true) (rest : List Row) :
    g.started w regardless (row :: rest) = (g.next w row).started w regardless rest + 1 := by
  rw [started, if_neg (by simp [(fault?_eq_none_iff.1 h).1]), if_pos ⟨h, on⟩]

/-- …and one that is the last. -/
theorem started_of_off (hi : g.state.isInterrupted = false)
    (off : ¬(g.fault? w row = none ∧ (regardless || !(g.report w row).isHard) = true))
    (rest : List Row) : g.started w regardless (row :: rest) = 1 := by
  rw [started, if_neg (by simp [hi]), if_neg off]

/-- **The rows that a run starts are the first ones.** -/
theorem lt_started_iff {rows : List Row} {k : Nat} :
    k < g.started w regardless rows ↔
      k < rows.length ∧ g.Passes w regardless (rows.take k) ∧
        (g.after w (rows.take k)).state.isInterrupted = false := by
  induction rows generalizing g k with
  | nil => simp [started]
  | cons row rest ih =>
    cases hi : g.state.isInterrupted with
    | true =>
      rw [started_of_interrupted hi]
      cases k with
      | zero => simp [hi]
      | succ k =>
        have stuck : g.fault? w row ≠ none := fun h => by
          rw [(fault?_eq_none_iff.1 h).1] at hi
          cases hi
        simp [Passes, stuck]
    | false =>
      by_cases on : g.fault? w row = none ∧ (regardless || !(g.report w row).isHard) = true
      · rw [started_of_on on.1 on.2]
        cases k with
        | zero => simp [hi, Passes]
        | succ k => simp only [Nat.add_lt_add_iff_right, ih, List.length_cons, List.take_succ_cons,
            Passes, on.1, on.2, true_and, after_cons]
      · rw [started_of_off hi on]
        cases k with
        | zero => simp [hi, Passes]
        | succ k =>
          have stuck : ¬g.Passes w regardless (row :: rest.take k) := fun h => on ⟨h.1, h.2.1⟩
          simp [stuck]

section Keeps

variable {α : Type} (field : State → α) (note : ∀ s r, field (s.note r) = field s)
  (trigger : ∀ s, field s.trigger = field s)

include note trigger

/-- **What a run leaves is the stage behind the rows that it starts.** -/
theorem run_state_keeps (w : World) (regardless : Bool) (g : Stage) (rows : List Row) :
    field (g.run w regardless rows).state =
      field (g.after w (rows.take (g.started w regardless rows))).state := by
  induction rows generalizing g with
  | nil => rfl
  | cons row rest ih =>
    cases hf : g.fault? w row with
    | some fault =>
      rw [run_cons_of_fault hf]
      cases hi : g.state.isInterrupted with
      | true =>
        rw [started_of_interrupted hi]
        simp only [broken, hi]
        rfl
      | false =>
        rw [started_of_off hi (by simp [hf])]
        simp only [broken, hi]
        exact (State.pass_keeps w _ _ _ field note trigger).symm
    | none =>
      rw [run_cons hf]
      split
      case isTrue on =>
        rw [started_of_on hf on]
        exact ih _
      case isFalse off =>
        rw [started_of_off (fault?_eq_none_iff.1 hf).1 (fun h => off h.2)]
        rfl

end Keeps

/-- Without a fault, they are the rows reported on. -/
theorem length_run_rows {rows : List Row} (h : (g.run w regardless rows).fault = none) :
    (g.run w regardless rows).rows.length = g.started w regardless rows := by
  induction rows generalizing g with
  | nil => rfl
  | cons row rest ih =>
    cases hf : g.fault? w row with
    | some fault =>
      rw [run_cons_of_fault hf] at h
      cases h
    | none =>
      rw [run_cons hf] at h ⊢
      split at h
      case isTrue on =>
        rw [if_pos on, started_of_on hf on, ← ih h]
        rfl
      case isFalse off =>
        rw [if_neg off, started_of_off (fault?_eq_none_iff.1 hf).1 (fun h => off h.2)]
        rfl

end Stage

/-- What storing variables keeps, seeding keeps. -/
theorem State.seed_keeps {α : Type} (field : State → α)
    (store : ∀ s name value, field (s.store name value) = field s) (s : State) (v : Variables) :
    field (s.seed v) = field s := by
  unfold seed
  induction v.entries generalizing s with
  | nil => rfl
  | cons entry entries ih => exact (ih _).trans (store s entry.1 entry.2)

namespace Script

variable {w : World} {regardless : Bool} {script : Script} {s : State}

/-- **The run starts a row**: it reaches the row, and the interrupt is not set. -/
def Starts (w : World) (regardless : Bool) (script : Script) (s : State) (k : Nat) : Prop :=
  script.Reaches w regardless s k ∧ (script.stage w s k).state.isInterrupted = false

/-- How many rows the run starts. -/
def started (w : World) (regardless : Bool) (script : Script) (s : State) : Nat :=
  (script.start s).started w regardless script.rows

/-- **The rows that a run starts are the first ones.** -/
theorem lt_started_iff {k : Nat} :
    k < script.started w regardless s ↔ script.Starts w regardless s k :=
  Stage.lt_started_iff.trans and_assoc.symm

theorem started_le (w : World) (regardless : Bool) (script : Script) (s : State) :
    script.started w regardless s ≤ script.rows.length := by
  refine Nat.le_of_not_lt fun h => ?_
  exact absurd (lt_started_iff.1 h).1.1 (Nat.lt_irrefl _)

/-- The rows before a row that is reached are started. -/
theorem Reaches.starts {k i : Nat} (h : script.Reaches w regardless s k) (hi : i < k) :
    script.Starts w regardless s i := by
  have before : (script.rows.take k).take i = script.rows.take i := by
    rw [List.take_take, Nat.min_eq_left (Nat.le_of_lt hi)]
  have len : i < (script.rows.take k).length := by
    rw [List.length_take_of_le (Nat.le_of_lt h.1)]
    exact hi
  have whole := h.2.fault?_getElem len
  have passes := h.2
  rw [← List.take_append_drop i (script.rows.take k), Stage.passes_append] at passes
  rw [before] at whole passes
  exact ⟨⟨Nat.lt_trans hi h.1, passes.1⟩, (Stage.fault?_eq_none_iff.1 whole).1⟩

/-- With a report, they are the rows of the report. -/
theorem length_rows_eq_started {report : Report}
    (h : (script.run w regardless s).1 = .ok report) :
    report.rows.length = script.started w regardless s := by
  obtain ⟨ended, rfl⟩ := run_fst_eq_ok_iff.1 h
  exact Stage.length_run_rows ended

/-- **However a run ends, it leaves the stage behind the rows that it starts.** -/
theorem run_snd_keeps {α : Type} (field : State → α) (note : ∀ s r, field (s.note r) = field s)
    (trigger : ∀ s, field s.trigger = field s) (w : World) (regardless : Bool) (script : Script)
    (s : State) :
    field (script.run w regardless s).2 =
      field (script.stage w s (script.started w regardless s)).state := by
  rw [run_eq, stage, started, ← Stage.run_state_keeps field note trigger]
  cases (script.ending w regardless s).fault with
  | some fault => rfl
  | none => exact Ending.finish_keeps field note _

/-- **A field that every row adds to is what all rows add**, each with the variables in force when it
starts. -/
theorem field_stage {α : Type} (field : State → List α) (adds : Row → Variables → List α)
    (note : ∀ t r, field (State.note t r) = field t)
    (trigger : ∀ t, field (State.trigger t) = field t)
    (store : ∀ t name value, field (State.store t name value) = field t)
    (effect : ∀ row t, field (Row.effect w row t) = field t ++ adds row t.vars)
    {k : Nat} (hk : k ≤ script.rows.length) :
    field (script.stage w s k).state
      = field s ++ (script.rows.take k).zipIdx.flatMap fun (row, i) =>
          adds row (script.stage w s i).state.vars := by
  induction k with
  | zero => exact ((State.seed_keeps field store _ _).trans (note _ _)).trans (List.append_nil _).symm
  | succ k ih =>
    have here : k < script.rows.length := hk
    rw [List.take_succ_eq_append_getElem here, List.zipIdx_append, List.flatMap_append,
      ← List.append_assoc, ← ih (Nat.le_of_lt here), List.length_take_of_le (Nat.le_of_lt here),
      stage_succ w s here]
    change field (State.pass _ _ _ _) = _
    rw [State.pass_keeps _ _ _ _ field note trigger, Row.perform_keeps field note, effect]
    simp

end Script

end Rowscript
