import Mathlib.Data.List.Forall2
import Rowscript.Proofs.Decoration
import Rowscript.Proofs.Interruption
import Rowscript.Proofs.Progress
import Rowscript.Proofs.Verdict

/-!
# Proofs/Chronicle — the records of a run tell of its rows

    rows     row 1        row 2        …  row n
    records  … told of 1  … told of 2  …  … told of n  [left over]

Among everything that is on record of a run there is one record for each row that is reported on,
and none for any other: all that a row does beside it is recorded in other words
(`Row.perform_chronicle`).  A run with a report may have one record more, of an inversion that no row
was left for; a run that is cut short has none of the row at which it is (`Script.run_chronicled`).
-/

namespace Rowscript

/-! ## Records of rows, and others -/

/-- The record tells of a row, or of an inversion that no row was left for.  What is on record of the
steps, of the driver or of the sink does not, whatever it says. -/
def Record.isChronicle (r : Record) : Bool :=
  r.target == "selenese::testing::runner" &&
    r.message ∈ ["step failed", "step done",
      "script ended with no command for the last ...OnNext to wrap"]

/-- To whoever asks for the lowest level every record is shown. -/
theorem Record.isWithin_trace (r : Record) : r.isWithin .trace = true := by
  cases h : r.level <;> simp [isWithin, h, Level.rank]

/-- **The records that tell of rows**, in order. -/
def State.chronicle (s : State) : List Record := s.records.filter Record.isChronicle

/-- **The record tells of the row**: a failure is a warning with the verdict in words, and anything
else is noted with the verdict as it is spelled; both have the number and the command of the row. -/
inductive RowReport.Tells : RowReport → Record → Prop
  | failed (index : Nat) (row : Row) (outcome : Outcome) (decorated : Bool)
      (fails : outcome.isFailure = true) :
      Tells ⟨index, row, some outcome, decorated⟩
        ⟨.warn, "selenese::testing::runner", "step failed",
          [("row", toString index), ("command", row.command), ("outcome", outcome.message)]⟩
  | clean (index : Nat) (row : Row) (decorated : Bool) :
      Tells ⟨index, row, some .clean, decorated⟩
        ⟨.debug, "selenese::testing::runner", "step done",
          [("row", toString index), ("command", row.command), ("outcome", "Some(Continue)")]⟩
  | silent (index : Nat) (row : Row) (decorated : Bool) :
      Tells ⟨index, row, none, decorated⟩
        ⟨.debug, "selenese::testing::runner", "step done",
          [("row", toString index), ("command", row.command), ("outcome", "None")]⟩

/-- **What is told behind the rows of a report**: if the last of them is an inverting row that is not
turned around, that no row was left for it, and of what kind it is; and else nothing. -/
inductive Report.LeavesOver (report : Report) : List Record → Prop
  | nothing (spent : ∀ last ∈ report.rows.getLast?,
      isInverting last.row.command = true → last.decorated = true) : LeavesOver report []
  | inversion (last : RowReport) (kind : FailureKind) (h : report.rows.getLast? = some last)
      (free : last.decorated = false) (named : last.row.command ∈ kind.names) :
      LeavesOver report
        [⟨.warn, "selenese::testing::runner",
          "script ended with no command for the last ...OnNext to wrap",
          [("failure", kind.spelling)]⟩]

/-! ## What a row does tells of no row -/

namespace State

theorem note_chronicle (s : State) (r : Record) :
    (s.note r).chronicle = s.chronicle ++ if r.isChronicle then [r] else [] := by
  rw [chronicle, note, List.filter_append, List.filter_cons, List.filter_nil]
  rfl

/-- A record of something else adds nothing. -/
theorem note_chronicle_of_not {r : Record} (h : r.isChronicle = false) (s : State) :
    (s.note r).chronicle = s.chronicle := by
  rw [note_chronicle, h]
  exact List.append_nil _

theorem trigger_chronicle (s : State) : s.trigger.chronicle = s.chronicle := rfl

theorem store_chronicle (s : State) (name value : String) :
    (s.store name value).chronicle = s.chronicle := note_chronicle_of_not rfl s

theorem write_chronicle (w : World) (s : State) (line : String) :
    (s.write w line).chronicle = s.chronicle :=
  (ite_trigger_keeps _ chronicle trigger_chronicle _).trans
    (note_chronicle_of_not (r := .echoed line) rfl s)

theorem called_chronicle (w : World) (s : State) (c : Call) :
    (s.called w c).chronicle = s.chronicle := by
  unfold called
  dsimp only
  split
  · exact note_chronicle_of_not rfl _
  · rfl

theorem call_chronicle (w : World) (s : State) (c : Call) :
    (s.call w c).2.chronicle = s.chronicle :=
  (ite_trigger_keeps _ chronicle trigger_chronicle _).trans (s.called_chronicle w c)

theorem wait_chronicle (w : World) (s : State) (ms : Nat) :
    (s.wait w ms).2.chronicle = s.chronicle :=
  ite_trigger_keeps _ chronicle trigger_chronicle _

theorem pass_chronicle (w : World) (index : Nat) (r : Record) (s : State) :
    (s.pass w index r).chronicle = s.chronicle ++ if r.isChronicle then [r] else [] :=
  (ite_trigger_keeps _ chronicle trigger_chronicle _).trans (s.note_chronicle r)

end State

namespace Step

theorem performPause_chronicle (w : World) (text : String) (s : State) :
    (performPause w text s).2.chronicle = s.chronicle := by
  cases ht : Text.word? text.toList with
  | none => rw [performPause_of_none w ht]
  | some ms =>
    have waited : ((s.note (.pausing ms)).wait w ms).2.chronicle = s.chronicle :=
      (State.wait_chronicle w _ ms).trans (State.note_chronicle_of_not rfl s)
    rw [performPause_of_some w ht]
    split
    · exact (State.note_chronicle_of_not rfl _).trans waited
    · exact waited

theorem performCall_chronicle (w : World) (c : Call) (s : State) :
    (performCall w c s).2.chronicle = s.chronicle := by
  have called : (s.call w c).2.chronicle = s.chronicle := s.call_chronicle w c
  rw [performCall_eq]
  split
  · exact called
  · split
    · exact called
    · exact (State.note_chronicle_of_not rfl _).trans called

end Step

namespace Row

theorem effect_chronicle (w : World) (row : Row) (s : State) :
    (row.effect w s).chronicle = s.chronicle := by
  cases row.kind with
  | invert kind named => rw [effect, perform_step_invert named]
  | echo named =>
    rw [effect, perform_step_echo named]
    exact s.write_chronicle w _
  | pause named =>
    rw [effect, perform_step_pause named]
    exact Step.performPause_chronicle w _ s
  | store named =>
    rw [effect, perform_step_store named]
    exact s.store_chronicle _ _
  | drive unknown =>
    rw [effect, perform_step_drive unknown]
    exact (Step.performCall_chronicle w _ _).trans (State.note_chronicle_of_not rfl s)

/-- **Whatever a row does, and whatever waits for it, is recorded in other words.** -/
theorem perform_chronicle (w : World) (pending : Option Inversion) (row : Row) (s : State) :
    (row.perform w pending s).2.chronicle = s.chronicle := by
  have acted : (row.step.perform w (row.announce s)).2.chronicle = s.chronicle :=
    row.effect_chronicle w s
  unfold perform Inversion.evaluate
  dsimp only
  generalize row.step.perform w (row.announce s) = done at acted ⊢
  obtain ⟨result, t⟩ := done
  cases pending with
  | none => cases result <;> exact acted
  | some inv =>
    cases result with
    | error fault => exact acted
    | ok reply => exact (State.note_chronicle_of_not rfl t).trans acted

end Row

/-! ## Row by row -/

/-- The record of a row tells of it. -/
theorem RowResult.tells (result : RowResult) (index : Nat) (row : Row) (decorated : Bool) :
    RowReport.Tells ⟨index, row, result.outcome, decorated⟩ (result.record index row.command) ∧
      (result.record index row.command).isChronicle = true := by
  obtain ⟨outcome, pending⟩ := result
  cases outcome with
  | none => exact ⟨.silent index row decorated, rfl⟩
  | some outcome =>
    cases outcome with
    | clean => exact ⟨.clean index row decorated, rfl⟩
    | assertionFailed => exact ⟨.failed index row _ decorated rfl, rfl⟩
    | verificationFailed => exact ⟨.failed index row _ decorated rfl, rfl⟩
    | error message => exact ⟨.failed index row _ decorated rfl, rfl⟩

namespace Stage

/-- **One more row is one more record**, and it tells of the row. -/
theorem next_chronicle (w : World) (g : Stage) (row : Row) :
    ∃ r, (g.report w row).Tells r ∧
      (g.next w row).state.chronicle = g.state.chronicle ++ [r] := by
  obtain ⟨tells, chronicle⟩ := (g.result w row).tells g.index row g.pending.isSome
  refine ⟨_, tells, ?_⟩
  change (State.pass w _ _ _).chronicle = _
  rw [State.pass_chronicle, chronicle, Row.perform_chronicle]
  rfl

/-- **So behind rows there is one record for each of them**, in order. -/
theorem after_chronicle (w : World) (g : Stage) (rows : List Row) :
    ∃ told, List.Forall₂ RowReport.Tells (g.reports w rows) told ∧
      (g.after w rows).state.chronicle = g.state.chronicle ++ told := by
  induction rows generalizing g with
  | nil => exact ⟨[], .nil, (List.append_nil _).symm⟩
  | cons row rest ih =>
    obtain ⟨r, tells, here⟩ := g.next_chronicle w row
    obtain ⟨told, tell, behind⟩ := ih (g.next w row)
    refine ⟨r :: told, .cons tells tell, ?_⟩
    rw [after_cons, behind, here, List.append_assoc]
    rfl

theorem broken_chronicle (w : World) (g : Stage) (row : Row) :
    (g.broken w row).chronicle = g.state.chronicle := by
  rw [broken]
  split
  · rfl
  · exact row.perform_chronicle w _ _

/-- The reports on rows are on these rows, which are numbered one by one. -/
theorem reports_rows (w : World) (g : Stage) (rows : List Row) :
    (g.reports w rows).map RowReport.row = rows ∧
      (g.reports w rows).map RowReport.index = List.range' g.index rows.length := by
  induction rows generalizing g with
  | nil => exact ⟨rfl, rfl⟩
  | cons row rest ih =>
    obtain ⟨same, numbers⟩ := ih (g.next w row)
    exact ⟨congrArg (row :: ·) same, congrArg (g.index :: ·) numbers⟩

/-- **An inversion that waits behind rows is the one of the last row**, which is not turned around;
and it is told, behind all rows. -/
theorem finish_chronicle {w : World} {g : Stage} (free : g.pending = none) {rows : List Row}
    {report : Report} (h : report.rows = g.reports w rows) {e : Ending}
    (pending : e.pending = (g.after w rows).pending) :
    ∃ left, report.LeavesOver left ∧ e.finish.chronicle = e.state.chronicle ++ left := by
  rcases List.eq_nil_or_concat rows with rfl | ⟨front, row, rfl⟩
  · refine ⟨[], .nothing (by simp [h, reports]), ?_⟩
    rw [Ending.finish, pending, after_nil, free]
    exact (List.append_nil _).symm
  · rw [List.concat_eq_append, after_append, after_cons, after_nil] at pending
    rw [List.concat_eq_append, reports_append, reports, reports] at h
    have last : report.rows.getLast? = some ((g.after w front).report w row) := by
      rw [h, List.getLast?_concat]
    have waits := next_pending_isSome w (g.after w front) row
    rw [← pending] at waits
    cases hp : e.pending with
    | none =>
      rw [hp] at waits
      refine ⟨[], .nothing fun r hr inverts => ?_, ?_⟩
      · obtain rfl : _ = r := Option.some.inj (last.symm.trans hr)
        change isInverting row.command = true at inverts
        change (g.after w front).pending.isSome = true
        rw [inverts] at waits
        simpa using waits
      · rw [Ending.finish, hp]
        exact (List.append_nil _).symm
    | some inv =>
      rw [hp] at waits pending
      have undecorated : (g.after w front).pending.isSome = false := by
        cases decorated : (g.after w front).pending.isSome with
        | false => rfl
        | true => simp [decorated] at waits
      have named : row.command ∈ inv.failure.names := mem_names_of_next_pending pending.symm
      refine ⟨_, .inversion _ inv.failure last undecorated named, ?_⟩
      rw [Ending.finish, hp]
      exact State.note_chronicle _ _

end Stage

/-! ## Runs -/

namespace Script

/-- Before the first row there is nothing to tell. -/
theorem start_chronicle (script : Script) (s : State) :
    (script.start s).state.chronicle = s.chronicle :=
  (State.seed_keeps State.chronicle State.store_chronicle _ _).trans
    (State.note_chronicle_of_not rfl s)

/-- **The records tell of the rows.**  With a report, there is one record for each row of it, in
order, and behind them one more if the last row is an inverting row that no row was left for.  Without
one, there is one record for each row in front of the row with the fault, in order, and none for that
row, nor of any inversion.  At the lowest level all of them are shown. -/
theorem run_chronicled (w : World) (regardless : Bool) (script : Script) (s : State) :
    let left := (script.run w regardless s).2
    (∀ r ∈ left.records, r.isWithin .trace = true) ∧
    (∀ report, (script.run w regardless s).1 = .ok report →
      ∃ told last, List.Forall₂ RowReport.Tells report.rows told ∧ report.LeavesOver last ∧
        left.chronicle = s.chronicle ++ told ++ last) ∧
    ∀ fault, (script.run w regardless s).1 = .error fault →
      ∃ k, ∃ hk : script.Reaches w regardless s k,
        (script.stage w s k).fault? w hk.row = some fault ∧
        ∃ done told, List.Forall₂ RowReport.Tells done told ∧
          done = (script.start s).reports w (script.rows.take k) ∧
          done.map RowReport.row = script.rows.take k ∧
          done.map RowReport.index = List.range' 1 k ∧
          left.chronicle = s.chronicle ++ told := by
  intro left
  refine ⟨fun r _ => r.isWithin_trace, fun report h => ?_, fun fault h => ?_⟩
  · obtain ⟨whole, rfl⟩ := run_fst_eq_ok_iff.1 h
    obtain ⟨done, unread, -, -, rows, pending, state⟩ := (script.ends w regardless s).executed whole
    obtain ⟨told, tell, behind⟩ := (script.start s).after_chronicle w done
    rw [← rows] at tell
    have listed : ((script.ending w regardless s).report script).rows
        = (script.ending w regardless s).rows := rfl
    obtain ⟨last, leaves, finish⟩ := Stage.finish_chronicle rfl (listed.trans rows) pending
    refine ⟨told, last, tell, leaves, ?_⟩
    have finished : left = (script.ending w regardless s).finish := by
      rw [show left = _ from congrArg Prod.snd (run_eq w regardless script s), whole]
    rw [finished, finish, state, behind, start_chronicle]
  · obtain ⟨k, hk, broke⟩ := exists_reaches_of_fault (run_fst_eq_error_iff.1 h)
    obtain ⟨-, cause⟩ := Stage.fault?_eq_some_iff.1 broke
    obtain ⟨told, tell, behind⟩ := (script.start s).after_chronicle w (script.rows.take k)
    obtain ⟨rows, numbers⟩ := (script.start s).reports_rows w (script.rows.take k)
    rw [List.length_take_of_le (Nat.le_of_lt hk.1)] at numbers
    refine ⟨k, hk, broke, _, told, tell, rfl, rows, numbers, ?_⟩
    rw [show left = _ from congrArg Prod.snd (hk.run_of_interruptedAt cause),
      Stage.broken_chronicle]
    exact behind.trans (congrArg (· ++ told) (start_chronicle script s))

/-- An echo that must not succeed and says what records say, and an inverting row at the end: a
warning between two notes, and a warning of the row that is missing.  With an interrupt in the pause
behind them there are only the three. -/
theorem run_chronicled_echo :
    let rows : List Row := [⟨"verifyErrorOnNext", "", ""⟩, ⟨"echo", "step failed", ""⟩,
      ⟨"assertErrorOnNext", "", ""⟩]
    let script : Script := { name := "chronicle", rows := rows }
    let paused : Script := { name := "chronicle", rows := rows ++ [⟨"pause", "5", ""⟩] }
    let w : World := { arrives := fun _ => true }
    (∃ report told last, (script.run {} false {}).1 = .ok report ∧
      List.Forall₂ RowReport.Tells report.rows told ∧ report.LeavesOver last ∧
      (script.run {} false {}).2.chronicle = told ++ last ∧
      told.map Record.level = [.debug, .warn, .debug] ∧
      last.map Record.fields = [[("failure", "Assertion")]]) ∧
    (paused.run w false {}).1 = .error .interrupted ∧
      (paused.run w false {}).2.chronicle.length = 3 ∧
      ∃ hk : paused.Reaches w false {} 3,
        (paused.stage w {} 3).fault? w hk.row = some .interrupted := by
  intro rows script paused w
  have ok : (script.run {} false {}).1 = .ok ((script.ending {} false {}).report script) :=
    run_fst_eq_ok_iff.2 ⟨by decide +kernel, rfl⟩
  have broke : (paused.run w false {}).1 = .error .interrupted :=
    run_fst_eq_error_iff.2 (by decide +kernel)
  obtain ⟨-, reported, -⟩ := run_chronicled {} false script {}
  obtain ⟨told, last, tell, leaves, chronicle⟩ := reported _ ok
  have length : told.length = 3 := tell.length_eq.symm.trans (by decide +kernel)
  have first : told = (script.run {} false {}).2.chronicle.take 3 := by
    rw [chronicle, ← length]
    exact List.take_left.symm
  have behind : last = (script.run {} false {}).2.chronicle.drop 3 := by
    rw [chronicle, ← length]
    exact List.drop_left.symm
  obtain ⟨-, -, cut⟩ := run_chronicled w false paused {}
  obtain ⟨k, hk, fault, done, told', tell', -, -, numbers, chronicle'⟩ := cut _ broke
  have three : (paused.run w false {}).2.chronicle.length = 3 := by decide +kernel
  obtain rfl : k = 3 := by
    have count := congrArg List.length numbers
    rw [List.length_map, List.length_range', tell'.length_eq] at count
    exact count.symm.trans ((congrArg List.length chronicle').symm.trans three)
  exact ⟨⟨_, told, last, ok, tell, leaves, chronicle, first ▸ by decide +kernel,
    behind ▸ by decide +kernel⟩, broke, three, hk, fault⟩

end Script

end Rowscript
