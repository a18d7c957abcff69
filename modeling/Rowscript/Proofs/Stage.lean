import Rowscript.Proofs.Reply

/-!
# Proofs/Stage — a run, stage by stage

    stage ──row──▸ stage ──row──▸ … ──row──▸ stage

Before each row a run stands at a `Stage`.  The stage and the row determine everything: whether the
row has a fault (`Stage.fault?`), what is reported on it (`Stage.report`) and the stage behind it
(`Stage.next`).  A run goes through the rows it passes and then ends in one of three ways
(`Stage.ends`); behind rows that it passes it is the run of the rest (`Stage.run_append`).
-/

namespace Rowscript

/-- The verdict is one that a run does not go on after: an assertion failure or an error. -/
def RowReport.isHard (r : RowReport) : Bool :=
  match r.outcome with
  | some .assertionFailed | some (.error _) => true
  | some .clean | some .verificationFailed | none => false

/-- A hard verdict counts against the script. -/
theorem RowReport.isFailure_of_isHard {r : RowReport} (h : r.isHard = true) :
    r.isFailure = true := by
  obtain ⟨index, row, outcome, decorated⟩ := r
  cases outcome with
  | none => cases h
  | some outcome => cases outcome <;> first | rfl | cases h

/-- The same ending behind some more rows. -/
def Ending.behind (rs : List RowReport) (e : Ending) : Ending := { e with rows := rs ++ e.rows }

/-- What remains to be said of a pending inversion is a record. -/
theorem Ending.finish_keeps {α : Type} (field : State → α)
    (note : ∀ s r, field (s.note r) = field s) (e : Ending) :
    field e.finish = field e.state := by
  rw [finish]
  split
  · exact note _ _
  · rfl

/-- The flag of an ending says whether any of its rows has failed. -/
def Ending.IsCounted (e : Ending) : Prop := e.passed = e.rows.all fun r => !r.isFailure

/-- **Where a run stands**: the number of the row that is next, the inversion that waits for it,
whether all rows in front of it passed, and the state. -/
structure Stage where
  index : Nat
  pending : Option Inversion
  passed : Bool
  state : State

namespace Stage

/-! ## One row -/

/-- The fault that a run ends with at this row.  The interrupt is looked at first. -/
def fault? (w : World) (g : Stage) (row : Row) : Option Fault :=
  if g.state.isInterrupted then some .interrupted
  else
    match row.reply w g.state with
    | .error fault => some fault
    | .ok _ => none

/-- What the row comes to, if it has no fault. -/
def result (w : World) (g : Stage) (row : Row) : RowResult :=
  match row.reply w g.state with
  | .ok reply => .judged g.pending reply
  | .error _ => ⟨none, none⟩

/-- The report on the row. -/
def report (w : World) (g : Stage) (row : Row) : RowReport :=
  ⟨g.index, row, (g.result w row).outcome, g.pending.isSome⟩

/-- **The stage behind the row.** -/
def next (w : World) (g : Stage) (row : Row) : Stage where
  index := g.index + 1
  pending := (g.result w row).pending
  passed := g.passed && !(g.report w row).isFailure
  state :=
    (row.perform w g.pending g.state).2.pass w g.index
      ((g.result w row).record g.index row.command)

/-- Behind the row no variable is touched. -/
theorem next_vars (w : World) (g : Stage) (row : Row) :
    (g.next w row).state.vars = (row.perform w g.pending g.state).2.vars :=
  State.pass_keeps _ _ _ _ State.vars State.note_vars State.trigger_vars

/-- The state that a fault at this row leaves. -/
def broken (w : World) (g : Stage) (row : Row) : State :=
  if g.state.isInterrupted then g.state else (row.perform w g.pending g.state).2

/-- The run of some rows from here. -/
def run (w : World) (regardless : Bool) (g : Stage) (rows : List Row) : Ending :=
  runRows w regardless g.index g.pending g.passed g.state rows

variable {w : World} {regardless : Bool} {g : Stage} {row : Row}

theorem fault?_eq_none_iff :
    g.fault? w row = none ↔
      g.state.isInterrupted = false ∧ ∃ reply, row.reply w g.state = .ok reply := by
  unfold fault?
  cases g.state.isInterrupted <;> cases row.reply w g.state <;> simp

/-- **What stops a run at a row is an interrupt**: it is set when the row is about to start, or it
cuts the row short.  What waits for the row is no part of it. -/
theorem fault?_eq_some_iff {fault : Fault} :
    g.fault? w row = some fault ↔
      fault = .interrupted ∧ (g.state.isInterrupted = true ∨ row.IsCutShort w g.state) := by
  unfold fault?
  split
  case isTrue hi =>
    rw [Option.some.injEq, eq_comm]
    exact ⟨fun h => ⟨h, .inl hi⟩, fun h => h.1⟩
  case isFalse hi =>
    rw [or_iff_right hi, ← Row.reply_eq_error_iff]
    cases row.reply w g.state with
    | error f => rw [Option.some.injEq, Except.error.injEq]
    | ok reply => simp

theorem result_of_reply {reply : Reply} (h : row.reply w g.state = .ok reply) :
    g.result w row = .judged g.pending reply := by
  rw [result, h]

/-- **What there is to say against going on is a hard verdict**, and nothing else. -/
theorem isOkay_result (w : World) (g : Stage) (row : Row) :
    (g.result w row).isOkay = !(g.report w row).isHard := by
  rw [report]
  generalize g.result w row = result
  obtain ⟨outcome, pending⟩ := result
  have hp : pending.all (·.continuable) = true := by cases pending <;> rfl
  simp only [RowResult.isOkay, hp, Bool.and_true, RowReport.isHard]
  cases outcome with
  | none => rfl
  | some outcome => cases outcome <;> rfl

theorem perform_of_reply {reply : Reply} (h : row.reply w g.state = .ok reply) :
    row.perform w g.pending g.state
      = (.ok (g.result w row), (row.perform w g.pending g.state).2) := by
  refine Prod.ext ?_ rfl
  rw [row.perform_fst, h, result_of_reply h]
  rfl

/-! ## The run, row by row -/

@[simp] theorem run_nil :
    g.run w regardless [] = ⟨[], none, false, g.passed, g.pending, g.state⟩ := rfl

/-- A fault ends the run before the row is reported on. -/
theorem run_cons_of_fault {fault : Fault} (h : g.fault? w row = some fault) (rest : List Row) :
    g.run w regardless (row :: rest)
      = ⟨[], some fault, false, g.passed, if g.state.isInterrupted then g.pending else none,
          g.broken w row⟩ := by
  obtain ⟨rfl, cause⟩ := fault?_eq_some_iff.1 h
  rw [run, runRows, broken]
  split
  case isTrue hi => rfl
  case isFalse hi =>
    have cut : row.IsCutShort w g.state := cause.resolve_left hi
    have performed : row.perform w g.pending g.state
        = (.error .interrupted, (row.perform w g.pending g.state).2) := by
      refine Prod.ext ?_ rfl
      rw [row.perform_fst, Row.reply_of_isCutShort cut]
      rfl
    rw [performed]

/-- Without a fault, the verdict on the row says whether the run goes on. -/
theorem run_cons (h : g.fault? w row = none) (rest : List Row) :
    g.run w regardless (row :: rest) =
      if regardless || !(g.report w row).isHard then
        ((g.next w row).run w regardless rest).cons (g.report w row)
      else
        ⟨[g.report w row], none, !rest.isEmpty, (g.next w row).passed, (g.next w row).pending,
          (g.next w row).state⟩ := by
  obtain ⟨hi, reply, hr⟩ := fault?_eq_none_iff.1 h
  rw [run, runRows, if_neg (by simp [hi]), perform_of_reply hr, ← isOkay_result, Bool.or_comm]
  rfl

/-- A run that is to go on does so regardless of the verdict… -/
theorem run_cons_regardless (h : g.fault? w row = none) (rest : List Row) :
    g.run w true (row :: rest) = ((g.next w row).run w true rest).cons (g.report w row) := by
  rw [run_cons h, Bool.true_or, if_pos rfl]

/-- …and every run does unless the verdict is hard. -/
theorem run_cons_of_soft (h : g.fault? w row = none) (soft : (g.report w row).isHard = false)
    (rest : List Row) :
    g.run w regardless (row :: rest)
      = ((g.next w row).run w regardless rest).cons (g.report w row) := by
  rw [run_cons h, soft, Bool.not_false, Bool.or_true, if_pos rfl]

theorem run_cons_of_hard (h : g.fault? w row = none) (hard : (g.report w row).isHard = true)
    (rest : List Row) :
    g.run w false (row :: rest)
      = ⟨[g.report w row], none, !rest.isEmpty, (g.next w row).passed, (g.next w row).pending,
          (g.next w row).state⟩ := by
  rw [run_cons h, hard]
  rfl

/-! ## Many rows -/

/-- The stage behind rows. -/
def after (w : World) (g : Stage) (rows : List Row) : Stage := rows.foldl (next w) g

/-- The reports on rows. -/
def reports (w : World) : Stage → List Row → List RowReport
  | _, [] => []
  | g, row :: rest => g.report w row :: reports w (g.next w row) rest

/-- **A run passes rows**: none of them has a fault, and none has a hard verdict unless the run is
to go on regardless. -/
def Passes (w : World) (regardless : Bool) : Stage → List Row → Prop
  | _, [] => True
  | g, row :: rest =>
    g.fault? w row = none ∧ (regardless || !(g.report w row).isHard) = true ∧
      Passes w regardless (g.next w row) rest

@[simp] theorem after_nil : g.after w [] = g := rfl

@[simp] theorem after_cons (rest : List Row) :
    g.after w (row :: rest) = (g.next w row).after w rest := rfl

@[simp] theorem after_append (rows rest : List Row) :
    g.after w (rows ++ rest) = (g.after w rows).after w rest := List.foldl_append

/-- Rows are numbered one by one. -/
theorem after_index (w : World) (g : Stage) (rows : List Row) :
    (g.after w rows).index = g.index + rows.length := by
  induction rows generalizing g with
  | nil => rfl
  | cons row rest ih => simp only [after_cons, ih, List.length_cons, next]; omega

@[simp] theorem length_reports (w : World) (g : Stage) (rows : List Row) :
    (g.reports w rows).length = rows.length := by
  induction rows generalizing g with
  | nil => rfl
  | cons row rest ih => rw [reports, List.length_cons, List.length_cons, ih]

theorem reports_append (w : World) (g : Stage) (rows rest : List Row) :
    g.reports w (rows ++ rest) = g.reports w rows ++ (g.after w rows).reports w rest := by
  induction rows generalizing g with
  | nil => rfl
  | cons row rows ih => rw [List.cons_append, reports, ih]; rfl

/-- **Each report is made at the stage before its row.** -/
theorem getElem_reports (w : World) (g : Stage) (rows : List Row) (i : Nat)
    (h : i < rows.length) (hr : i < (g.reports w rows).length) :
    (g.reports w rows)[i] = (g.after w (rows.take i)).report w rows[i] := by
  induction rows generalizing g i with
  | nil => cases h
  | cons row rest ih =>
    cases i with
    | zero => rfl
    | succ i => exact ih (g.next w row) i (Nat.lt_of_succ_lt_succ h) (Nat.lt_of_succ_lt_succ hr)

/-- **All rows in front of a stage passed** if they had before and none has failed since. -/
theorem after_passed (w : World) (g : Stage) (rows : List Row) :
    (g.after w rows).passed = (g.passed && (g.reports w rows).all fun r => !r.isFailure) := by
  induction rows generalizing g with
  | nil => exact (Bool.and_true _).symm
  | cons row rest ih => rw [after_cons, ih, reports, List.all_cons, next, Bool.and_assoc]

theorem passes_append (rows rest : List Row) :
    g.Passes w regardless (rows ++ rest)
      ↔ g.Passes w regardless rows ∧ (g.after w rows).Passes w regardless rest := by
  induction rows generalizing g with
  | nil => simp [Passes]
  | cons row rows ih => simp only [List.cons_append, Passes, after_cons, ih, and_assoc]

/-- Rows that are passed have no fault. -/
theorem Passes.fault?_getElem {rows : List Row} (h : g.Passes w regardless rows) {i : Nat}
    (hi : i < rows.length) : (g.after w (rows.take i)).fault? w rows[i] = none := by
  induction rows generalizing g i with
  | nil => cases hi
  | cons row rest ih =>
    cases i with
    | zero => exact h.1
    | succ i => exact ih h.2.2 (by simpa using hi)

/-- What is passed is passed by a run that goes on regardless, too. -/
theorem Passes.mono {rows : List Row} (h : g.Passes w regardless rows) : g.Passes w true rows := by
  induction rows generalizing g with
  | nil => trivial
  | cons row rest ih => exact ⟨h.1, rfl, ih h.2.2⟩

/-! ## The run of many rows -/

/-- **Behind rows that it passes a run is the run of the rest.** -/
theorem run_append {rows : List Row} (h : g.Passes w regardless rows) (rest : List Row) :
    g.run w regardless (rows ++ rest)
      = ((g.after w rows).run w regardless rest).behind (g.reports w rows) := by
  induction rows generalizing g with
  | nil => rfl
  | cons row rows ih =>
    rw [List.cons_append, run_cons h.1, if_pos h.2.1, ih h.2.2]
    rfl

/-- **The three ways a run ends**: it passes all rows, a hard verdict stops it, or a fault does. -/
inductive Ends (w : World) (regardless : Bool) (g : Stage) (rows : List Row) : Ending → Prop
  | passed (h : g.Passes w regardless rows) :
      Ends w regardless g rows
        ⟨g.reports w rows, none, false, (g.after w rows).passed, (g.after w rows).pending,
          (g.after w rows).state⟩
  | stopped (done : List Row) (row : Row) (rest : List Row) (split : rows = done ++ row :: rest)
      (h : g.Passes w regardless done) (whole : (g.after w done).fault? w row = none)
      (strict : regardless = false) (hard : ((g.after w done).report w row).isHard = true) :
      Ends w regardless g rows
        ⟨g.reports w (done ++ [row]), none, !rest.isEmpty, (g.after w (done ++ [row])).passed,
          (g.after w (done ++ [row])).pending, (g.after w (done ++ [row])).state⟩
  | failed (done : List Row) (row : Row) (rest : List Row) (split : rows = done ++ row :: rest)
      (h : g.Passes w regardless done) (fault : Fault) (pending : Option Inversion)
      (broke : (g.after w done).fault? w row = some fault) :
      Ends w regardless g rows
        ⟨g.reports w done, some fault, false, (g.after w done).passed, pending,
          (g.after w done).broken w row⟩

/-- One more row in front. -/
theorem Ends.cons {rest : List Row} {e : Ending} (h : g.fault? w row = none)
    (on : (regardless || !(g.report w row).isHard) = true)
    (he : (g.next w row).Ends w regardless rest e) :
    g.Ends w regardless (row :: rest) (e.cons (g.report w row)) := by
  cases he with
  | passed hp => exact .passed ⟨h, on, hp⟩
  | stopped done last rest split hp whole strict hard =>
    exact .stopped (row :: done) last rest (by rw [split]; rfl) ⟨h, on, hp⟩ whole strict hard
  | failed done last rest split hp fault pending broke =>
    exact .failed (row :: done) last rest (by rw [split]; rfl) ⟨h, on, hp⟩ fault pending broke

/-- **Every run ends in one of the three ways.** -/
theorem ends (w : World) (regardless : Bool) (g : Stage) (rows : List Row) :
    g.Ends w regardless rows (g.run w regardless rows) := by
  induction rows generalizing g with
  | nil => exact .passed trivial
  | cons row rest ih =>
    cases h : g.fault? w row with
    | some fault =>
      rw [run_cons_of_fault h]
      exact .failed [] row rest rfl trivial fault _ h
    | none =>
      rw [run_cons h]
      split
      case isTrue on => exact (ih _).cons h on
      case isFalse off =>
        obtain ⟨strict, hard⟩ : regardless = false ∧ (g.report w row).isHard = true := by
          simpa using off
        exact .stopped [] row rest rfl trivial h strict hard

/-- **The flag of a run says that no row that it reports on has failed**, if none had before. -/
theorem run_passed (w : World) (regardless : Bool) (g : Stage) (rows : List Row) :
    (g.run w regardless rows).passed =
      (g.passed && (g.run w regardless rows).rows.all fun r => !r.isFailure) := by
  generalize he : g.run w regardless rows = e
  cases he ▸ g.ends w regardless rows with
  | passed => exact g.after_passed w rows
  | stopped => exact g.after_passed w _
  | failed => exact g.after_passed w _

/-- **Without a fault, the rows reported on are the first ones**, as many as there are reports, and
each of them is performed to its end. -/
theorem Ends.executed {rows : List Row} {e : Ending} (he : g.Ends w regardless rows e)
    (h : e.fault = none) :
    ∃ done rest, rows = done ++ rest ∧ g.Passes w true done ∧ e.rows = g.reports w done ∧
      e.pending = (g.after w done).pending ∧ e.state = (g.after w done).state := by
  cases he with
  | passed hp => exact ⟨rows, [], (List.append_nil _).symm, hp.mono, rfl, rfl, rfl⟩
  | stopped done row rest split hp whole strict hard =>
    refine ⟨done ++ [row], rest, by rw [split, List.append_assoc]; rfl, ?_, rfl, rfl, rfl⟩
    exact (passes_append _ _).2 ⟨hp.mono, whole, rfl, trivial⟩
  | failed => cases h

/-! ## A state only goes on -/

theorem precedes_next (w : World) (g : Stage) (row : Row) :
    g.state.Precedes (g.next w row).state :=
  (row.precedes_perform w _ _).trans (State.precedes_pass w _ _ _)

theorem precedes_broken (w : World) (g : Stage) (row : Row) :
    g.state.Precedes (g.broken w row) := by
  rw [broken]
  split
  · exact .refl _
  · exact row.precedes_perform w _ _

theorem precedes_after (w : World) (g : Stage) (rows : List Row) :
    g.state.Precedes (g.after w rows).state := by
  induction rows generalizing g with
  | nil => exact .refl _
  | cons row rest ih => exact (g.precedes_next w row).trans (ih _)

/-- **A run only goes on**, however it ends. -/
theorem precedes_run (w : World) (regardless : Bool) (g : Stage) (rows : List Row) :
    g.state.Precedes (g.run w regardless rows).state := by
  generalize he : g.run w regardless rows = e
  cases he ▸ g.ends w regardless rows with
  | passed => exact g.precedes_after w _
  | stopped => exact g.precedes_after w _
  | failed => exact (g.precedes_after w _).trans (precedes_broken w _ _)

end Stage

/-! ## Scripts -/

namespace Script

/-- The stage before the first row: the script's variables are stored. -/
def start (script : Script) (s : State) : Stage :=
  ⟨1, none, true, (s.note (.runStarted script.name script.rows.length)).seed script.vars⟩

/-- **The stage before a row of the script**, with so many rows in front of it. -/
def stage (w : World) (script : Script) (s : State) (k : Nat) : Stage :=
  (script.start s).after w (script.rows.take k)

/-- Rows are numbered from one. -/
theorem index_stage (w : World) {script : Script} (s : State) {k : Nat}
    (h : k ≤ script.rows.length) : (script.stage w s k).index = k + 1 := by
  rw [stage, Stage.after_index, List.length_take_of_le h]
  exact Nat.add_comm 1 k

/-- Each row leads from its stage to the next one. -/
theorem stage_succ (w : World) {script : Script} (s : State) {k : Nat}
    (h : k < script.rows.length) :
    script.stage w s (k + 1) = (script.stage w s k).next w script.rows[k] := by
  rw [stage, ← List.take_append_getElem h, Stage.after_append]
  rfl

/-- **The run reaches a row**: there is one, and it passes all rows in front of it. -/
def Reaches (w : World) (regardless : Bool) (script : Script) (s : State) (k : Nat) : Prop :=
  k < script.rows.length ∧ (script.start s).Passes w regardless (script.rows.take k)

/-- The row that is reached. -/
def Reaches.row {w : World} {regardless : Bool} {script : Script} {s : State} {k : Nat}
    (h : script.Reaches w regardless s k) : Row := script.rows.get ⟨k, h.1⟩

/-- How the rows of the script end. -/
def ending (w : World) (regardless : Bool) (script : Script) (s : State) : Ending :=
  (script.start s).run w regardless script.rows

variable {w : World} {regardless : Bool} {script : Script} {s : State}

/-- **Every script ends in one of the three ways.** -/
theorem ends (w : World) (regardless : Bool) (script : Script) (s : State) :
    (script.start s).Ends w regardless script.rows (script.ending w regardless s) :=
  Stage.ends w regardless _ _

/-- **The flag of a script says that no row that is reported on has failed.** -/
theorem ending_isCounted (w : World) (regardless : Bool) (script : Script) (s : State) :
    (script.ending w regardless s).IsCounted :=
  Stage.run_passed w regardless (script.start s) script.rows

/-- **From a row that it reaches, the run is the run of the rest.** -/
theorem Reaches.ending_eq {k : Nat} (h : script.Reaches w regardless s k) :
    script.ending w regardless s
      = ((script.stage w s k).run w regardless
          (h.row :: script.rows.drop (k + 1))).behind
          ((script.start s).reports w (script.rows.take k)) := by
  have rest : h.row :: script.rows.drop (k + 1) = script.rows.drop k :=
    (List.drop_eq_getElem_cons h.1).symm
  rw [ending, stage, rest, ← Stage.run_append h.2, List.take_append_drop]

theorem run_eq (w : World) (regardless : Bool) (script : Script) (s : State) :
    script.run w regardless s =
      match (script.ending w regardless s).fault with
      | some fault => (.error fault, (script.ending w regardless s).state)
      | none =>
        (.ok ((script.ending w regardless s).report script),
          (script.ending w regardless s).finish) := rfl

/-- There is a report if no fault stops the run. -/
theorem run_fst_eq_ok_iff {report : Report} :
    (script.run w regardless s).1 = .ok report ↔
      (script.ending w regardless s).fault = none ∧
        (script.ending w regardless s).report script = report := by
  rw [run_eq]
  cases (script.ending w regardless s).fault <;> simp

theorem run_fst_eq_error_iff {fault : Fault} :
    (script.run w regardless s).1 = .error fault ↔
      (script.ending w regardless s).fault = some fault := by
  rw [run_eq]
  cases (script.ending w regardless s).fault <;> simp

/-- **A reported row is a row of the script**, performed to its end at the stage before it. -/
theorem getElem_rows {report : Report} (h : (script.run w regardless s).1 = .ok report) {i : Nat}
    (hi : i < report.rows.length) :
    ∃ hs : i < script.rows.length,
      (script.stage w s i).fault? w script.rows[i] = none ∧
        report.rows[i] = (script.stage w s i).report w script.rows[i] := by
  obtain ⟨hf, rfl⟩ := run_fst_eq_ok_iff.1 h
  obtain ⟨done, rest, split, passes, rows, -, -⟩ :=
    (script.ends w regardless s).executed hf
  have hr : ((script.ending w regardless s).report script).rows = (script.start s).reports w done :=
    rows
  have hd : i < done.length := by rwa [hr, Stage.length_reports] at hi
  have hs : i < script.rows.length := by
    rw [split, List.length_append]
    omega
  have here : script.rows[i] = done[i] :=
    (List.getElem_of_eq split hs).trans (List.getElem_append_left hd)
  have before : script.stage w s i = (script.start s).after w (done.take i) := by
    rw [stage, split, List.take_append_of_le_length (Nat.le_of_lt hd)]
  refine ⟨hs, ?_, ?_⟩
  · rw [before, here]
    exact passes.fault?_getElem hd
  · rw [before, here, ← Stage.getElem_reports w _ done i hd (by rwa [Stage.length_reports])]
    exact List.getElem_of_eq hr hi

end Script

end Rowscript
