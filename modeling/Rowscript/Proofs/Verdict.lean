import Rowscript.Proofs.Stage

/-!
# Proofs/Verdict — where the verdict on a row comes from

A row that nothing turns around speaks for itself: it is silent if it stores, it has an error if its
timeout is none or the driver refuses its call, and else it is clean.  A row that is turned around
fails exactly if it succeeds, and the kind of the failure is the one that the row before it demands
(`Script.outcome_of_row`).
-/

namespace Rowscript

/-- A name demands a failure of one kind only. -/
theorem FailureKind.eq_of_mem_names {kind other : FailureKind} {name : String}
    (h : name ∈ kind.names) (k : name ∈ other.names) : kind = other := by
  obtain ⟨c, hc, rfl⟩ := mem_names_iff.1 h
  obtain ⟨d, hd, named⟩ := mem_names_iff.1 k
  rw [Command.name_injective named, hc] at hd
  exact Option.some.inj hd

/-- A verdict that is neither silent nor an error nor a failure of a kind is clean. -/
theorem Outcome.eq_some_clean_iff {outcome : Option Outcome} :
    outcome = some .clean
      ↔ outcome ≠ none ∧ (∀ message, outcome ≠ some (.error message)) ∧
        ∀ kind : FailureKind, outcome ≠ some kind.outcome := by
  constructor
  · rintro rfl
    exact ⟨by simp, by simp, fun kind => by cases kind <;> simp [FailureKind.outcome]⟩
  · rintro ⟨spoken, errs, fails⟩
    cases outcome with
    | none => exact absurd rfl spoken
    | some outcome =>
      cases outcome with
      | clean => rfl
      | assertionFailed => exact absurd rfl (fails .assertion)
      | verificationFailed => exact absurd rfl (fails .verification)
      | error message => exact absurd rfl (errs message)

/-! ## Judging a reply -/

namespace RowResult

variable {pending : Option Inversion} {reply : Reply}

theorem judged_outcome_eq_none_iff :
    (judged pending reply).outcome = none ↔ reply = .silent ∧ pending = none := by
  cases pending <;> cases reply <;> simp [judged, ofReply]

theorem judged_outcome_eq_error_iff {message : String} :
    (judged pending reply).outcome = some (.error message)
      ↔ pending = none ∧ reply = .done (.error message) := by
  cases pending with
  | none => cases reply <;> simp [judged, ofReply]
  | some inv =>
    obtain ⟨kind⟩ := inv
    rcases reply with ⟨_ | _ | _ | _⟩ | _ | _ <;> cases kind <;>
      simp [judged, Inversion.judge, FailureKind.outcome]

/-- A failure of a kind comes from an inversion of that kind, or from the step itself. -/
theorem judged_outcome_eq_failure_iff {kind : FailureKind} :
    (judged pending reply).outcome = some kind.outcome
      ↔ (∃ inv, pending = some inv ∧ inv.failure = kind ∧ (reply = .silent ∨ reply = .done .clean))
        ∨ (pending = none ∧ reply = .done kind.outcome) := by
  cases pending with
  | none =>
    cases reply with
    | done outcome => simp [judged, ofReply]
    | wrap inv => cases kind <;> simp [judged, ofReply, FailureKind.outcome]
    | silent => simp [judged, ofReply]
  | some inv =>
    obtain ⟨other⟩ := inv
    rcases reply with ⟨_ | _ | _ | _⟩ | _ | _ <;> cases kind <;> cases other <;>
      simp [judged, Inversion.judge, FailureKind.outcome]

theorem reply_of_judged_pending {inv : Inversion} (h : (judged pending reply).pending = some inv) :
    reply = .wrap inv := by
  cases pending <;> cases reply <;> simp_all [judged, ofReply]

end RowResult

/-- What a row that has a reply replies when it succeeds. -/
theorem Row.succeeds_iff {w : World} {row : Row} {s : State} {reply : Reply}
    (h : row.reply w s = .ok reply) :
    row.Succeeds w s ↔ reply = .silent ∨ reply = .done .clean := by
  constructor
  · intro hs
    obtain hr | hr | hr := Row.reply_of_succeeds hs
    · exact .inl (Except.ok.inj (h.symm.trans hr))
    · exact .inr (Except.ok.inj (h.symm.trans hr))
    · cases h.symm.trans hr
  · have hr := row.replies w s
    rw [h] at hr
    rintro (rfl | rfl)
    · cases hr with
      | silent named => exact .inl named
    · cases hr with
      | clean done => exact done

/-! ## The verdict at a stage -/

namespace Stage

variable {w : World} {g : Stage} {row : Row}

theorem outcome_eq_none_iff (h : g.fault? w row = none) :
    (g.report w row).outcome = none ↔ row.command = "store" ∧ g.pending = none := by
  obtain ⟨-, reply, hr⟩ := fault?_eq_none_iff.1 h
  rw [report, result_of_reply hr, RowResult.judged_outcome_eq_none_iff,
    ← Row.reply_eq_silent_iff (w := w) (s := g.state), hr, Except.ok.injEq]

theorem outcome_eq_error_iff (h : g.fault? w row = none) {message : String} :
    (g.report w row).outcome = some (.error message)
      ↔ g.pending = none ∧ row.ErrsWith w g.state message := by
  obtain ⟨-, reply, hr⟩ := fault?_eq_none_iff.1 h
  have errs : row.ErrsWith w g.state message ↔ reply = .done (.error message) := by
    rw [← Except.ok.injEq (ε := Fault), ← hr, Row.reply_eq_done_iff (by simp)]
    simp
  rw [report, result_of_reply hr, RowResult.judged_outcome_eq_error_iff, errs]

theorem outcome_eq_failure_iff (h : g.fault? w row = none) {kind : FailureKind} :
    (g.report w row).outcome = some kind.outcome
      ↔ (∃ inv, g.pending = some inv ∧ inv.failure = kind) ∧ row.Succeeds w g.state := by
  obtain ⟨-, reply, hr⟩ := fault?_eq_none_iff.1 h
  have own : ¬(g.pending = none ∧ reply = .done kind.outcome) := by
    rintro ⟨-, rfl⟩
    have soiled : kind.outcome ≠ .clean := by cases kind <;> simp [FailureKind.outcome]
    obtain ⟨message, he, -⟩ := (Row.reply_eq_done_iff soiled).1 hr
    cases kind <;> cases he
  rw [report, result_of_reply hr, RowResult.judged_outcome_eq_failure_iff, or_iff_left own,
    Row.succeeds_iff hr]
  simp only [← and_assoc, exists_and_right]

/-- **The inversion behind a row is of the kind that the row demands.** -/
theorem mem_names_of_next_pending {inv : Inversion} (h : (g.next w row).pending = some inv) :
    row.command ∈ inv.failure.names := by
  rw [next, result] at h
  cases hr : row.reply w g.state with
  | error fault =>
    rw [hr] at h
    cases h
  | ok reply =>
    rw [hr] at h
    rw [RowResult.reply_of_judged_pending h] at hr
    exact Row.reply_eq_wrap_iff.1 hr

end Stage

/-! ## The verdict in a run -/

namespace Script

variable {w : World} {regardless : Bool} {script : Script} {s : State} {report : Report}

/-- **What waits for a row comes from the row before it.** -/
theorem pending_stage {i : Nat} (hs : i < script.rows.length) {inv : Inversion}
    (h : (script.stage w s i).pending = some inv) :
    ∃ j, ∃ hj : j < script.rows.length, i = j + 1 ∧
      script.rows[j].command ∈ inv.failure.names := by
  cases i with
  | zero => cases h
  | succ j =>
    have hj : j < script.rows.length := Nat.lt_of_succ_lt hs
    rw [stage_succ w s hj] at h
    exact ⟨j, hj, rfl, Stage.mem_names_of_next_pending h⟩

/-- So an inversion of a kind waits if one waits and the row before demands this kind. -/
theorem pending_stage_iff {i : Nat} (hs : i < script.rows.length) (kind : FailureKind) :
    (∃ inv, (script.stage w s i).pending = some inv ∧ inv.failure = kind)
      ↔ (script.stage w s i).pending.isSome = true ∧
        ∃ j, ∃ hj : j < script.rows.length, i = j + 1 ∧ script.rows[j].command ∈ kind.names := by
  constructor
  · rintro ⟨inv, hp, rfl⟩
    exact ⟨by rw [hp]; rfl, pending_stage hs hp⟩
  · rintro ⟨hp, j, hj, rfl, named⟩
    obtain ⟨inv, hp⟩ := Option.isSome_iff_exists.1 hp
    obtain ⟨k, _, hk, demanded⟩ := pending_stage hs hp
    obtain rfl : k = j := Nat.succ.inj hk.symm
    exact ⟨inv, hp, FailureKind.eq_of_mem_names demanded named⟩

/-- **The verdict on a row**, in full.  It is silent, an error, a failure of a kind, or clean; each
of them is told by the command of the row, by its cells and the driver's answer in the state before
it, and by whether and by what the row is turned around. -/
theorem outcome_of_row (h : (script.run w regardless s).1 = .ok report) {i : Nat}
    (hi : i < report.rows.length) :
    ∃ hs : i < script.rows.length,
      let row := script.rows[i]
      let before := (script.stage w s i).state
      let r := report.rows[i]
      let demanded := fun kind : FailureKind =>
        ∃ j, ∃ hj : j < script.rows.length, i = j + 1 ∧ script.rows[j].command ∈ kind.names
      r.row = row ∧
      (r.outcome = none ↔ row.command = "store" ∧ r.decorated = false) ∧
      (∀ message, r.outcome = some (.error message)
        ↔ r.decorated = false ∧ row.ErrsWith w before message) ∧
      (∀ kind : FailureKind, r.outcome = some kind.outcome
        ↔ r.decorated = true ∧ demanded kind ∧ row.Succeeds w before) ∧
      (r.outcome = some .clean
        ↔ ¬(row.command = "store" ∧ r.decorated = false) ∧
          (∀ message, ¬(r.decorated = false ∧ row.ErrsWith w before message)) ∧
          ∀ kind, ¬(r.decorated = true ∧ demanded kind ∧ row.Succeeds w before)) := by
  obtain ⟨hs, whole, here⟩ := getElem_rows h hi
  refine ⟨hs, ?_⟩
  intro row before r demanded
  have reported : r = (script.stage w s i).report w row := here
  have decorated : r.decorated = (script.stage w s i).pending.isSome := by
    rw [reported]
    rfl
  have waits : r.decorated = false ↔ (script.stage w s i).pending = none := by
    rw [decorated, Option.isSome_eq_false_iff, Option.isNone_iff_eq_none]
  have silent : r.outcome = none ↔ row.command = "store" ∧ r.decorated = false := by
    rw [waits, reported]
    exact Stage.outcome_eq_none_iff whole
  have errs (message : String) : r.outcome = some (.error message)
      ↔ r.decorated = false ∧ row.ErrsWith w before message := by
    rw [waits, reported]
    exact Stage.outcome_eq_error_iff whole
  have fails (kind : FailureKind) : r.outcome = some kind.outcome
      ↔ r.decorated = true ∧ demanded kind ∧ row.Succeeds w before := by
    rw [← and_assoc, decorated, ← pending_stage_iff hs, reported]
    exact Stage.outcome_eq_failure_iff whole
  refine ⟨congrArg RowReport.row reported, silent, errs, fails, ?_⟩
  simp only [← silent, ← errs, ← fails]
  exact Outcome.eq_some_clean_iff

/-- A click that the driver performs, behind a row that wants it to fail. -/
theorem outcome_of_unwanted_click :
    let script : Script := {
      name := "unwanted"
      rows := [⟨"verifyErrorOnNext", "", ""⟩, ⟨"click", "id=save", ""⟩, ⟨"echo", "on", ""⟩] }
    let report := (script.ending {} false {}).report script
    (script.run {} false {}).1 = .ok report ∧ ∃ hi : 1 < report.rows.length,
      report.rows[1].outcome = some .verificationFailed := by
  intro script report
  have h : (script.run {} false {}).1 = .ok report :=
    run_fst_eq_ok_iff.2 ⟨by decide +kernel, rfl⟩
  have unknown : "click" ∉ Command.names := by decide +kernel
  obtain ⟨_, -, -, -, fails, -⟩ :=
    outcome_of_row h (show 1 < report.rows.length by decide +kernel)
  exact ⟨h, by decide +kernel, (fails .verification).2
    ⟨by decide +kernel, ⟨0, by decide, rfl, by decide +kernel⟩,
      .inr (.inr (.inr ⟨unknown, "", rfl⟩))⟩⟩

end Script

end Rowscript
