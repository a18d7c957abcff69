import Rowscript.Proofs.Composition

/-!
# Proofs/Inversion — a row, and the same row turned around

    stage ──────────row──▸ end
    stage ──turn──▸ ──row──▸ end

An inverting row in front of another row changes nothing that the row does, and it does not come
between the row and an interrupt.  What it turns around is the verdict alone: the row fails exactly
if it did not fail by itself, and it fails as the inverting row demands (`Script.run_turned`).
-/

namespace Rowscript

namespace RowResult

variable {inv : Inversion} {reply : Reply}

/-- **A reply that is turned around fails if it does not fail by itself.**  An inversion is no such
reply: it does not fail, and turned around it does not fail either. -/
theorem isFailure_judged_some (inv : Inversion) (plain : ∀ other, reply ≠ .wrap other) :
    (judged (some inv) reply).outcome.any Outcome.isFailure
      = !(judged none reply).outcome.any Outcome.isFailure := by
  have demanded : inv.failure.outcome.isFailure = true := inv.failure.outcome_isFailure
  cases reply with
  | silent => exact demanded
  | wrap other => exact absurd rfl (plain other)
  | done outcome =>
    cases outcome with
    | clean => exact demanded
    | assertionFailed => rfl
    | verificationFailed => rfl
    | error message => rfl

/-- …and then it fails as it was demanded to. -/
theorem outcome_judged_some (h : (judged (some inv) reply).outcome.any Outcome.isFailure = true) :
    (judged (some inv) reply).outcome = some inv.failure.outcome := by
  cases reply with
  | silent => rfl
  | wrap other => cases h
  | done outcome =>
    cases outcome with
    | clean => rfl
    | assertionFailed => cases h
    | verificationFailed => cases h
    | error message => cases h

end RowResult

namespace Stage

variable {w : World} {regardless : Bool} {g k : Stage} {row : Row} {inv : Inversion}

/-- The run of one row, which no verdict can cut short. -/
theorem run_singleton (h : g.fault? w row = none) :
    g.run w regardless [row]
      = ⟨[g.report w row], none, false, (g.next w row).passed, (g.next w row).pending,
          (g.next w row).state⟩ := by
  rw [run_cons h]
  split <;> rfl

/-- It has the fault of the row, or none. -/
theorem run_singleton_fault (w : World) (regardless : Bool) (g : Stage) (row : Row) :
    (g.run w regardless [row]).fault = g.fault? w row := by
  cases hf : g.fault? w row with
  | none => rw [run_singleton hf]
  | some fault => rw [run_cons_of_fault hf]

/-- **What waits for a row makes no difference to the run of it**, but for the verdict. -/
theorem run_singleton_agrees (h : k.state.Agrees g.state) (quiet : w.IsQuiet) (regardless : Bool)
    (row : Row) :
    (k.run w regardless [row]).fault = (g.run w regardless [row]).fault ∧
      (k.run w regardless [row]).state.Agrees (g.run w regardless [row]).state := by
  have same : k.fault? w row = g.fault? w row := fault?_of_agrees h w row
  have performed := Row.perform_agrees h w k.pending g.pending row
  refine ⟨by rw [run_singleton_fault, run_singleton_fault, same], ?_⟩
  cases hf : g.fault? w row with
  | some fault =>
    rw [run_cons_of_fault hf, run_cons_of_fault (same.trans hf), broken, broken, h.isInterrupted]
    dsimp only
    split
    · exact h
    · exact performed
  | none =>
    rw [run_singleton hf, run_singleton (same.trans hf)]
    exact performed.pass ((quiet _).trans (quiet _).symm) _ _

/-- **The verdict on an inverting row is clean**, whether something waits for it or not… -/
theorem outcome_of_isInverting (h : isInverting row.command = true) (w : World) (g : Stage) :
    (g.report w row).outcome = some .clean := by
  obtain ⟨kind, named⟩ := isInverting_iff.1 h
  rw [report, result_of_reply (Row.reply_of_invert named)]
  cases g.pending <;> rfl

/-- **…and it does nothing to the state** but for records, if nobody sets the interrupt there. -/
theorem next_of_isInverting (h : isInverting row.command = true) (quiet : w.IsQuiet) (g : Stage) :
    (g.next w row).state.Agrees g.state := by
  obtain ⟨kind, named⟩ := isInverting_iff.1 h
  have effect : row.effect w g.state = g.state := congrArg Prod.snd (Row.perform_step_invert named)
  have performed := row.perform_agrees_effect w g.pending g.state
  rw [effect] at performed
  exact (State.agrees_pass w (quiet _) _ _).trans performed

/-- So it never fails… -/
theorem isFailure_of_isInverting (h : isInverting row.command = true) (w : World) (g : Stage) :
    (g.report w row).isFailure = false := by
  rw [RowReport.isFailure, outcome_of_isInverting h]
  rfl

/-- …and a run comes to the row behind it, unless it is interrupted before. -/
theorem passes_of_isInverting (h : isInverting row.command = true)
    (calm : g.state.isInterrupted = false) (w : World) (regardless : Bool) :
    g.fault? w row = none ∧ (regardless || !(g.report w row).isHard) = true := by
  obtain ⟨kind, named⟩ := isInverting_iff.1 h
  have soft : (g.report w row).isHard = false := by
    rw [RowReport.isHard, outcome_of_isInverting h]
  refine ⟨fault?_eq_none_iff.2 ⟨calm, _, Row.reply_of_invert named⟩, ?_⟩
  rw [soft, Bool.not_false, Bool.or_true]

theorem run_cons_of_isInverting (h : isInverting row.command = true)
    (calm : g.state.isInterrupted = false) (rest : List Row) :
    g.run w regardless (row :: rest)
      = ((g.next w row).run w regardless rest).cons (g.report w row) := by
  obtain ⟨whole, on⟩ := passes_of_isInverting h calm w regardless
  rw [run_cons whole, if_pos on]

/-- Behind it its inversion waits, if none waited for it. -/
theorem next_pending_of_invert {kind : FailureKind} (named : row.command ∈ kind.names)
    (free : g.pending = none) : (g.next w row).pending = some ⟨kind⟩ := by
  rw [next, result_of_reply (Row.reply_of_invert named), free]
  rfl

/-- **A row that is turned around fails if it does not fail by itself**, and in the way that is
demanded of it. -/
theorem report_turned (h : k.state.Agrees g.state) (free : g.pending = none)
    (waits : k.pending = some inv) (plain : isInverting row.command = false)
    (whole : g.fault? w row = none) :
    ((k.report w row).isFailure = true ↔ (g.report w row).isFailure = false) ∧
      ((k.report w row).isFailure = true →
        (k.report w row).outcome = some inv.failure.outcome) := by
  obtain ⟨-, reply, hr⟩ := fault?_eq_none_iff.1 whole
  have hk : row.reply w k.state = .ok reply := (Row.reply_of_agrees h w row).trans hr
  have unwrapped : ∀ other, reply ≠ .wrap other := by
    rintro other rfl
    have inverts := isInverting_iff.2 ⟨_, Row.reply_eq_wrap_iff.1 hr⟩
    rw [plain] at inverts
    cases inverts
  have turned := RowResult.isFailure_judged_some inv unwrapped
  rw [RowReport.isFailure, RowReport.isFailure, report, report, result_of_reply hr,
    result_of_reply hk, free, waits]
  refine ⟨?_, RowResult.outcome_judged_some⟩
  dsimp only
  rw [turned, Bool.not_eq_true']

end Stage

namespace Script

variable {w : World} {regardless : Bool} {script : Script} {s : State} {report : Report}

/-- **An inverting row in front of the last row of a script turns the verdict on it around, and
nothing else.**  The rows before the two are passed and leave neither an inversion nor an interrupt,
and nobody sets one between two rows.  Then the run with the inverting row does what the run without
it does, and has a report if that one has.  The last row fails in the one report if it does not fail
in the other, and the failure is the one that the inverting row demands. -/
theorem run_turned (ok : (script.run w regardless s).1 = .ok report)
    (on : regardless = true ∨ ∀ r ∈ report.rows, r.isHard = false)
    (free : (script.ending w regardless s).pending = none)
    (calm : (script.run w regardless s).2.isInterrupted = false) (quiet : w.IsQuiet)
    (turn row : Row) {kind : FailureKind} (named : turn.command ∈ kind.names)
    (plain : isInverting row.command = false) :
    let straight := (script.append [row]).run w regardless s
    let turned := (script.append [turn, row]).run w regardless s
    turned.2.Agrees straight.2 ∧
    (∀ fault, turned.1 = .error fault ↔ straight.1 = .error fault) ∧
    ∀ a b, straight.1 = .ok a → turned.1 = .ok b → ∃ last first last',
      a.rows = report.rows ++ [last] ∧ b.rows = report.rows ++ [first, last'] ∧
      last.row = row ∧ first.row = turn ∧ last'.row = row ∧
      (last'.isFailure = true ↔ last.isFailure = false) ∧
      (last'.isFailure = true → last'.outcome = some kind.outcome) := by
  intro straight turned
  obtain ⟨ended, rfl⟩ := run_fst_eq_ok_iff.1 ok
  have passes : (script.start s).Passes w regardless script.rows := Stage.passes_of_run ended on
  have through : script.ending w regardless s = _ := Stage.run_of_passes passes
  generalize hg : (script.start s).after w script.rows = g at through
  have waits : g.pending = none := by rwa [through] at free
  have clear : g.state.isInterrupted = false := by
    rw [(run_snd_agrees w regardless script s).isInterrupted, through] at calm
    exact calm
  have here := ending_append_of_passes passes [row]
  have there := ending_append_of_passes passes [turn, row]
  rw [hg] at here there
  have inverts := isInverting_iff.2 ⟨kind, named⟩
  rw [Stage.run_cons_of_isInverting inverts clear] at there
  have agrees : (g.next w turn).state.Agrees g.state := Stage.next_of_isInverting inverts quiet g
  have pending : (g.next w turn).pending = some ⟨kind⟩ := Stage.next_pending_of_invert named waits
  obtain ⟨fault, state⟩ := Stage.run_singleton_agrees agrees quiet regardless row
  have sameFault : ((script.append [turn, row]).ending w regardless s).fault
      = ((script.append [row]).ending w regardless s).fault :=
    (there.fault.trans fault).trans here.fault.symm
  refine ⟨run_snd_agrees_of ((there.state.trans state).trans here.state.symm), fun cause => ?_,
    fun a b ha hb => ?_⟩
  · rw [run_fst_eq_error_iff, run_fst_eq_error_iff, sameFault]
  · obtain ⟨whole, rfl⟩ := run_fst_eq_ok_iff.1 ha
    obtain ⟨-, rfl⟩ := run_fst_eq_ok_iff.1 hb
    have unbroken : g.fault? w row = none :=
      (Stage.run_singleton_fault w regardless g row).symm.trans (here.fault.symm.trans whole)
    have unbroken' : (g.next w turn).fault? w row = none :=
      (Stage.fault?_of_agrees agrees w row).trans unbroken
    have rows := here.rows_eq
    have rows' := there.rows_eq
    rw [Stage.run_singleton unbroken] at rows
    rw [Stage.run_singleton unbroken'] at rows'
    have first : (script.ending w regardless s).rows = (script.start s).reports w script.rows := by
      rw [through]
    refine ⟨g.report w row, g.report w turn, (g.next w turn).report w row, ?_, ?_, rfl, rfl, rfl,
      Stage.report_turned agrees waits pending plain unbroken⟩
    · exact rows.trans (congrArg (· ++ _) first.symm)
    · exact rows'.trans (congrArg (· ++ _) first.symm)

/-- A store by itself is silent; behind an inverting row it stores the same and is a failure.  The
echo before the two has failed as well, but softly. -/
theorem run_turned_store :
    let script : Script := {
      name := "turned"
      rows := [⟨"verifyErrorOnNext", "", ""⟩, ⟨"echo", "on", ""⟩] }
    let straight := (script.append [⟨"store", "x", "5"⟩]).run {} false {}
    let turned := (script.append [⟨"assertErrorOnNext", "", ""⟩, ⟨"store", "x", "5"⟩]).run {} false {}
    turned.2.Agrees straight.2 ∧ ∃ a b, straight.1 = .ok a ∧ turned.1 = .ok b ∧
      ∃ last first last', a.rows.getLast? = some last ∧ b.rows.drop 2 = [first, last'] ∧
        last.isFailure = false ∧ last'.outcome = some .assertionFailed := by
  intro script straight turned
  have first : (script.run {} false {}).1 = .ok ((script.ending {} false {}).report script) :=
    run_fst_eq_ok_iff.2 ⟨by decide +kernel, rfl⟩
  obtain ⟨agrees, -, verdicts⟩ := run_turned first (.inr (by decide +kernel)) (by decide +kernel)
    (by decide +kernel) (fun _ => rfl) ⟨"assertErrorOnNext", "", ""⟩ ⟨"store", "x", "5"⟩
    (show _ ∈ FailureKind.assertion.names by decide +kernel) (by decide +kernel)
  let plain : Script := script.append [⟨"store", "x", "5"⟩]
  let behind : Script := script.append [⟨"assertErrorOnNext", "", ""⟩, ⟨"store", "x", "5"⟩]
  have ha : straight.1 = .ok ((plain.ending {} false {}).report plain) :=
    run_fst_eq_ok_iff.2 ⟨by decide +kernel, rfl⟩
  have hb : turned.1 = .ok ((behind.ending {} false {}).report behind) :=
    run_fst_eq_ok_iff.2 ⟨by decide +kernel, rfl⟩
  obtain ⟨last, turn, last', rows, rows', -, -, -, fails, demanded⟩ := verdicts _ _ ha hb
  have silent : last.isFailure = false := by
    have decided : ((plain.ending {} false {}).report plain).rows.getLast?.map RowReport.isFailure
        = some false := by decide +kernel
    rw [rows, List.getLast?_concat] at decided
    exact Option.some.inj decided
  refine ⟨agrees, _, _, ha, hb, last, turn, last', ?_, ?_, silent, demanded (fails.2 silent)⟩
  · rw [rows, List.getLast?_concat]
  · rw [rows']
    rfl

end Script

end Rowscript
