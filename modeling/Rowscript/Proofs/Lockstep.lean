import Mathlib.Data.List.Forall2
import Rowscript.Proofs.Agreement

/-!
# Proofs/Lockstep — two runs that go in step

    stage ──row ──▸ stage ──row ──▸ … ──row ──▸ end
      ∥       ∥       ∥       ∥             ∥      ∥
    stage ──row′──▸ stage ──row′──▸ … ──row′──▸ end

Two runs go in step if, row by row, what is related on the two sides leads to what is related again.
What that is varies: the worlds may differ, or the rows, or what waits for them.  The one induction on
the rows is `Lockstep.run`; what is to be shown of a pair of rows is `Lockstep`.  The first use of it:
rows that are numbered from another start are reported on under other numbers, and that is all
(`Stage.AgreesFrom.run`), if the interrupt comes behind the same rows (`World.shift`).
-/

namespace Rowscript

/-- The stages are in step: their rows are numbered so far apart, what waits at them is related, and
their states agree. -/
structure Stage.InStep (n : Nat) (Waits : Option Inversion → Option Inversion → Prop)
    (g k : Stage) : Prop where
  index : g.index = k.index + n
  pending : Waits g.pending k.pending
  state : g.state.Agrees k.state

/-- The endings are in step, each row reported on beside a similar one. -/
structure Ending.InStep (Waits : Option Inversion → Option Inversion → Prop)
    (Similar : RowReport → RowReport → Prop) (e f : Ending) : Prop where
  rows : List.Forall₂ Similar e.rows f.rows
  fault : e.fault = f.fault
  halted : e.halted = f.halted
  pending : Waits e.pending f.pending
  state : e.state.Agrees f.state

/-- **What keeps two runs in step**: rows that match do the same, are cut short by the same faults,
and come to similar reports and to inversions that are related. -/
structure Lockstep (w w' : World) (regardless : Bool) (n : Nat)
    (Waits : Option Inversion → Option Inversion → Prop) (Matches : Row → Row → Prop)
    (Similar : RowReport → RowReport → Prop) : Prop where
  idle : Waits none none
  behind : ∀ i, w.behind (i + n) = w'.behind i
  effect : ∀ {row row' : Row} {s t : State}, Matches row row' → s.Agrees t →
    (row.effect w s).Agrees (row'.effect w' t)
  error_iff : ∀ {row row' : Row} {s t : State} {fault : Fault}, Matches row row' → s.Agrees t →
    (row.reply w s = .error fault ↔ row'.reply w' t = .error fault)
  judged : ∀ {row row' : Row} {s t : State} {pending pending' : Option Inversion}
      {reply reply' : Reply}, Matches row row' → s.Agrees t → Waits pending pending' →
    row.reply w s = .ok reply → row'.reply w' t = .ok reply' →
    Waits (RowResult.judged pending reply).pending (RowResult.judged pending' reply').pending ∧
      ∀ i, Similar ⟨i + n, row, (RowResult.judged pending reply).outcome, pending.isSome⟩
        ⟨i, row', (RowResult.judged pending' reply').outcome, pending'.isSome⟩
  isHard : ∀ {r r' : RowReport}, Similar r r' → regardless = true ∨ r.isHard = r'.isHard

namespace Lockstep

open Stage

variable {w w' : World} {regardless : Bool} {n : Nat}
  {Waits : Option Inversion → Option Inversion → Prop} {Matches : Row → Row → Prop}
  {Similar : RowReport → RowReport → Prop} {g k : Stage} {row row' : Row}

/-- Rows that match have the same fault… -/
theorem fault?_eq (l : Lockstep w w' regardless n Waits Matches Similar)
    (h : g.InStep n Waits k) (hm : Matches row row') : g.fault? w row = k.fault? w' row' := by
  have errors : ∀ fault,
      row.reply w g.state = .error fault ↔ row'.reply w' k.state = .error fault :=
    fun fault => l.error_iff hm h.state
  rw [fault?, fault?, h.state.isInterrupted]
  cases hr : row.reply w g.state with
  | error fault => rw [(errors fault).1 hr]
  | ok reply =>
    cases hr' : row'.reply w' k.state with
    | error fault => cases hr.symm.trans ((errors fault).2 hr')
    | ok reply' => rfl

/-- …leave states that agree… -/
theorem perform_agrees (l : Lockstep w w' regardless n Waits Matches Similar)
    (h : g.InStep n Waits k) (hm : Matches row row') :
    (row.perform w g.pending g.state).2.Agrees (row'.perform w' k.pending k.state).2 :=
  ((row.perform_agrees_effect w _ _).trans (l.effect hm h.state)).trans
    (row'.perform_agrees_effect w' _ _).symm

/-- …and, without a fault, are reported on alike and lead to stages in step. -/
theorem next (l : Lockstep w w' regardless n Waits Matches Similar)
    (h : g.InStep n Waits k) (hm : Matches row row') (whole : g.fault? w row = none) :
    Similar (g.report w row) (k.report w' row') ∧
      (g.next w row).InStep n Waits (k.next w' row') := by
  obtain ⟨-, reply, hr⟩ := fault?_eq_none_iff.1 whole
  obtain ⟨-, reply', hr'⟩ := fault?_eq_none_iff.1 ((l.fault?_eq h hm).symm.trans whole)
  obtain ⟨waits, similar⟩ := l.judged hm h.state h.pending hr hr'
  rw [← result_of_reply hr, ← result_of_reply hr'] at waits similar
  have behind : w.behind g.index = w'.behind k.index := by rw [h.index, l.behind]
  refine ⟨?_, ?_, waits, (l.perform_agrees h hm).pass behind _ _⟩
  · rw [report, h.index]
    exact similar k.index
  · change g.index + 1 = k.index + 1 + n
    rw [h.index, Nat.add_right_comm]

/-- **Runs from stages in step, over rows that match, end in step.** -/
theorem run (l : Lockstep w w' regardless n Waits Matches Similar) {rows rows' : List Row}
    (h : g.InStep n Waits k) (hm : List.Forall₂ Matches rows rows') :
    (g.run w regardless rows).InStep Waits Similar (k.run w' regardless rows') := by
  induction hm generalizing g k with
  | nil => exact ⟨.nil, rfl, rfl, h.pending, h.state⟩
  | @cons row row' rest rest' hm more ih =>
    have same : g.fault? w row = k.fault? w' row' := l.fault?_eq h hm
    cases hf : g.fault? w row with
    | some fault =>
      rw [run_cons_of_fault hf, run_cons_of_fault (same.symm.trans hf), broken, broken,
        h.state.isInterrupted]
      split
      · exact ⟨.nil, rfl, rfl, h.pending, h.state⟩
      · exact ⟨.nil, rfl, rfl, l.idle, l.perform_agrees h hm⟩
    | none =>
      obtain ⟨similar, next⟩ := l.next h hm hf
      have on : (regardless || !(g.report w row).isHard)
          = (regardless || !(k.report w' row').isHard) := by
        obtain rfl | hard := l.isHard similar
        · rfl
        · rw [hard]
      have left : rest.isEmpty = rest'.isEmpty := by cases more <;> rfl
      rw [run_cons hf, run_cons (same.symm.trans hf), on]
      split
      · have ends := ih next
        exact ⟨.cons similar ends.rows, ends.fault, ends.halted, ends.pending, ends.state⟩
      · exact ⟨.cons similar .nil, rfl, congrArg (!·) left, next.pending, next.state⟩

end Lockstep

/-! ## Reports beside each other -/

namespace Ending.InStep

variable {Waits : Option Inversion → Option Inversion → Prop}
  {Similar : RowReport → RowReport → Prop} {e f : Ending}

/-- What similar rows have in common, the endings have in common row by row… -/
theorem map_rows {α : Type} (h : e.InStep Waits Similar f) (field : RowReport → α)
    (same : ∀ {r r' : RowReport}, Similar r r' → field r = field r') :
    e.rows.map field = f.rows.map field := by
  rw [← List.forall₂_eq_eq_eq, List.forall₂_map_left_iff, List.forall₂_map_right_iff]
  exact h.rows.imp fun _ _ => same

/-- …so that the reports say the same but for the rows, if failures are what they have in common. -/
theorem report_eq (h : e.InStep Waits Similar f)
    (same : ∀ {r r' : RowReport}, Similar r r' → r.isFailure = r'.isFailure) (he : e.IsCounted)
    (hf : f.IsCounted) (script other : Script) (name : script.name = other.name)
    (length : script.rows.length = other.rows.length) :
    f.report other = { e.report script with rows := f.rows } := by
  have failures : e.rows.map RowReport.isFailure = f.rows.map RowReport.isFailure :=
    h.map_rows RowReport.isFailure same
  have passed : e.passed = f.passed := by
    have negated := congrArg (List.all · (!·)) failures
    rw [he, hf]
    simpa only [List.all_map, Function.comp_def] using negated
  have run : e.rows.length = f.rows.length := h.rows.length_eq
  simp only [Ending.report, name, passed, run, length, h.halted]

end Ending.InStep

/-! ## Rows numbered from another start -/

/-- The world as it is for rows that are numbered from an earlier start. -/
def World.shift (n : Nat) (w : World) : World := { w with behind := fun i => w.behind (i + n) }

/-- Nobody sets the interrupt between two rows. -/
def World.IsQuiet (w : World) : Prop := ∀ i, w.behind i = false

/-- Then the numbers of the rows make no difference. -/
theorem World.IsQuiet.shift_eq {w : World} (quiet : w.IsQuiet) (n : Nat) : w.shift n = w := by
  have behind : w.behind = fun _ => false := funext quiet
  rw [shift, behind, ← behind]

section Rows

variable (w : World) (n : Nat) (row : Row) (s : State)

/-! A row has no number of its own. -/

theorem Row.reply_shift : row.reply (w.shift n) s = row.reply w s := rfl
theorem Row.effect_shift : row.effect (w.shift n) s = row.effect w s := rfl

end Rows

/-- The report on the row if it is numbered from a later start. -/
def RowReport.shift (n : Nat) (r : RowReport) : RowReport := { r with index := r.index + n }

/-- **The endings differ in the numbers of their rows**, by so much, and in records. -/
structure Ending.AgreesFrom (n : Nat) (e f : Ending) : Prop where
  rows : e.rows = f.rows.map (RowReport.shift n)
  fault : e.fault = f.fault
  halted : e.halted = f.halted
  pending : e.pending = f.pending
  state : e.state.Agrees f.state

namespace Stage

/-- **The stages differ in the number of the row that is next**, by so much, and in records. -/
structure AgreesFrom (n : Nat) (g k : Stage) : Prop where
  index : g.index = k.index + n
  pending : g.pending = k.pending
  state : g.state.Agrees k.state

/-- A run beside itself is in step, whatever number its rows start with. -/
theorem lockstep_shift (w : World) (regardless : Bool) (n : Nat) :
    Lockstep w (w.shift n) regardless n Eq Eq (fun r r' => r = r'.shift n) where
  idle := rfl
  behind _ := rfl
  effect := by
    rintro row _ s t rfl h
    rw [Row.effect_shift]
    exact Row.effect_agrees h w row
  error_iff := by
    rintro row _ s t fault rfl h
    rw [Row.reply_shift, Row.reply_of_agrees h]
  judged := by
    rintro row _ s t pending _ reply reply' rfl h rfl hr hr'
    rw [Row.reply_shift, ← Row.reply_of_agrees h, hr] at hr'
    obtain rfl : reply = reply' := Except.ok.inj hr'
    exact ⟨rfl, fun i => rfl⟩
  isHard := by
    rintro _ r rfl
    exact .inr rfl

/-- **Runs from stages that agree end alike.** -/
theorem AgreesFrom.run {n : Nat} {g k : Stage} (h : g.AgreesFrom n k) (w : World)
    (regardless : Bool) (rows : List Row) :
    (g.run w regardless rows).AgreesFrom n (k.run (w.shift n) regardless rows) := by
  have same : List.Forall₂ Eq rows rows := List.forall₂_same.2 fun _ _ => rfl
  obtain ⟨similar, fault, halted, pending, state⟩ :=
    (lockstep_shift w regardless n).run ⟨h.index, h.pending, h.state⟩ same
  refine ⟨?_, fault, halted, pending, state⟩
  rwa [← List.forall₂_eq_eq_eq, List.forall₂_map_right_iff]

end Stage

/-- Rows numbered from the same start are the same. -/
theorem Ending.AgreesFrom.rows_eq {e f : Ending} (h : e.AgreesFrom 0 f) : e.rows = f.rows :=
  h.rows.trans (List.map_id _)

end Rowscript
