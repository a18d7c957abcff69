import Rowscript.Proofs.Lockstep
import Rowscript.Proofs.Verdict

/-!
# Proofs/Severity — how hard an unexpected success counts, and how that is spelled

An inverting row says which kind of failure an unexpected success is, and nothing else: not even how
it is spelled.  So in place of some inverting rows of a script there may stand others.  If they are
of the same kind, the run is the same but for the rows' own commands.  If they are of the softer
kind, a run that goes on regardless does the same, and on its report a failure is softer if the row
before it is one of them (`Script.run_recast`).
-/

namespace Rowscript

attribute [ext] RowReport

/-! ## One kind in the place of another

A relation `R` on kinds says which kind may stand in the place of which. -/

/-- The same on both sides, or what belongs to a kind beside what belongs to the one in its place. -/
inductive Recast (R : FailureKind → FailureKind → Prop) {α : Type} (of : FailureKind → α) :
    α → α → Prop
  | same (a : α) : Recast R of a a
  | other {kind kind' : FailureKind} (h : R kind kind') : Recast R of (of kind) (of kind')

/-- **A row, or an inverting row in its place** with the same cells. -/
inductive Row.Recast (R : FailureKind → FailureKind → Prop) : Row → Row → Prop
  | same (row : Row) : Recast R row row
  | other {kind kind' : FailureKind} (h : R kind kind') {name name' : String}
      (named : name ∈ kind.names) (named' : name' ∈ kind'.names) (locator value : String) :
      Recast R ⟨name, locator, value⟩ ⟨name', locator, value⟩

/-- A row and the one in its place are reported on alike, but for a failure of a kind. -/
structure RowReport.Recast (R : FailureKind → FailureKind → Prop) (r r' : RowReport) : Prop where
  index : r.index = r'.index
  outcome : Rowscript.Recast R (fun kind => some kind.outcome) r.outcome r'.outcome
  decorated : r.decorated = r'.decorated

section Recast

variable {R : FailureKind → FailureKind → Prop}

theorem Recast.eq_or {α : Type} {of : FailureKind → α} {a b : α} (h : Recast R of a b) :
    a = b ∨ ∃ kind kind', R kind kind' ∧ a = of kind ∧ b = of kind' := by
  cases h with
  | same => exact .inl rfl
  | other hk => exact .inr ⟨_, _, hk, rfl, rfl⟩

theorem Recast.eq {α : Type} {of : FailureKind → α} {a b : α} (h : Recast R of a b)
    (only : ∀ kind kind', R kind kind' → kind = kind') : a = b := by
  obtain rfl | ⟨kind, kind', hk, rfl, rfl⟩ := h.eq_or
  · rfl
  · rw [only _ _ hk]

theorem Row.Recast.eq_or {row row' : Row} (h : row.Recast R row') :
    row = row' ∨
      ∃ kind kind', R kind kind' ∧ row.command ∈ kind.names ∧ row'.command ∈ kind'.names := by
  cases h with
  | same => exact .inl rfl
  | other hk named named' => exact .inr ⟨_, _, hk, named, named'⟩

/-- Whatever waits for a row, one waits if one waits in its place. -/
theorem Recast.isSome_eq {pending pending' : Option Inversion}
    (h : Recast R (fun kind => some (Inversion.mk kind)) pending pending') :
    pending.isSome = pending'.isSome := by
  cases h <;> rfl

/-- **Failures of either kind count.** -/
theorem RowReport.Recast.isFailure_eq {r r' : RowReport} (h : r.Recast R r') :
    r.isFailure = r'.isFailure := by
  rw [isFailure, isFailure]
  obtain same | ⟨kind, kind', -, here, there⟩ := h.outcome.eq_or
  · rw [same]
  · rw [here, there]
    exact kind.outcome_isFailure.trans kind'.outcome_isFailure.symm

/-- Turned around by one kind or by the other, a reply passes both or fails both. -/
theorem Inversion.judge_recast {kind kind' : FailureKind} (h : R kind kind') (reply : Reply) :
    Recast R (fun kind => some kind.outcome) (some (Inversion.judge ⟨kind⟩ reply))
      (some (Inversion.judge ⟨kind'⟩ reply)) := by
  cases reply with
  | silent => exact .other h
  | wrap inv => exact .same _
  | done outcome =>
    cases outcome with
    | clean => exact .other h
    | assertionFailed => exact .same _
    | verificationFailed => exact .same _
    | error message => exact .same _

/-- **Runs of rows and of those in their place go in step**, if no verdict stops them or the kinds
are the same. -/
theorem Row.Recast.lockstep (w : World) {regardless : Bool}
    (on : regardless = true ∨ ∀ kind kind', R kind kind' → kind = kind') :
    Lockstep w w regardless 0 (Rowscript.Recast R fun kind => some (Inversion.mk kind))
      (Row.Recast R) (RowReport.Recast R) where
  idle := .same none
  behind _ := rfl
  effect := by
    intro row row' s t hm agrees
    cases hm with
    | same => exact effect_agrees agrees w row
    | other _ named named' =>
      rw [effect, effect, perform_step_invert named, perform_step_invert named']
      exact agrees
  error_iff := by
    intro row row' s t fault hm agrees
    cases hm with
    | same => rw [reply_of_agrees agrees]
    | other _ named named' =>
      rw [reply_of_invert named, reply_of_invert named']
      exact ⟨fun h => (by cases h), fun h => (by cases h)⟩
  judged := by
    intro row row' s t pending pending' reply reply' hm agrees waits one other
    cases hm with
    | same =>
      rw [reply_of_agrees agrees] at one
      obtain rfl : reply = reply' := Except.ok.inj (one.symm.trans other)
      cases waits with
      | same => exact ⟨.same _, fun i => ⟨rfl, .same _, rfl⟩⟩
      | other h => exact ⟨.same _, fun i => ⟨rfl, Inversion.judge_recast h reply, rfl⟩⟩
    | @other kind kind' h _ _ named named' =>
      obtain rfl : .wrap ⟨kind⟩ = reply := Except.ok.inj ((reply_of_invert named).symm.trans one)
      obtain rfl : .wrap ⟨kind'⟩ = reply' :=
        Except.ok.inj ((reply_of_invert named').symm.trans other)
      have decorated := waits.isSome_eq
      cases waits with
      | same pending =>
        cases pending with
        | none => exact ⟨.other h, fun i => ⟨rfl, .same _, rfl⟩⟩
        | some inv => exact ⟨.same _, fun i => ⟨rfl, .same _, rfl⟩⟩
      | other => exact ⟨.same _, fun i => ⟨rfl, .same _, rfl⟩⟩
  isHard := by
    intro r r' similar
    refine on.imp_right fun only => ?_
    rw [RowReport.isHard, RowReport.isHard, similar.outcome.eq only]

end Recast

/-- An assertion has a verification in its place. -/
def FailureKind.SoftensTo (kind kind' : FailureKind) : Prop :=
  kind = .assertion ∧ kind' = .verification

/-- An assertion is kept, or has a verification in its place. -/
theorem Row.Recast.kept_or {row row' : Row} (h : row.Recast FailureKind.SoftensTo row')
    (named : row.command ∈ FailureKind.assertion.names) :
    (row = row' ∧ row'.command ∈ FailureKind.assertion.names) ∨
      (row ≠ row' ∧ row'.command ∈ FailureKind.verification.names) := by
  obtain rfl | ⟨_, _, ⟨rfl, rfl⟩, -, named'⟩ := h.eq_or
  · exact .inl ⟨rfl, named⟩
  · refine .inr ⟨fun kept => ?_, named'⟩
    rw [← kept] at named'
    cases FailureKind.eq_of_mem_names named named'

/-! ## The report told from the other one -/

/-- A failure of the harder kind is one of the softer kind; any other verdict stays. -/
def RowReport.soften (r : RowReport) : RowReport :=
  { r with
    outcome := if r.outcome = some .assertionFailed then some .verificationFailed else r.outcome }

/-- **The report with softer failures**, where the row that turns a row around has another one in its
place. -/
def Report.soften (rows rows' : List Row) (report : Report) : Report :=
  { report with
    rows := report.rows.mapIdx fun i r =>
      if r.decorated = true ∧ rows[i - 1]? ≠ rows'[i - 1]? then r.soften else r }

/-- **The report with other rows in it.** -/
def Report.withRows (rows : List Row) (report : Report) : Report :=
  { report with rows := List.zipWith (fun r row => { r with row := row }) report.rows rows }

/-- A report with other rows in it is known by what it says of each of them. -/
theorem Report.eq_withRows {a b : Report} {rows : List Row} (same : b = { a with rows := b.rows })
    (length : a.rows.length = b.rows.length)
    (rowwise : ∀ i, ∀ ha : i < a.rows.length, ∃ hb : i < b.rows.length, ∃ hr : i < rows.length,
      b.rows[i] = { a.rows[i] with row := rows[i] }) : b = a.withRows rows := by
  have enough : a.rows.length ≤ rows.length := by
    by_contra short
    obtain ⟨_, missing, _⟩ := rowwise rows.length (Nat.lt_of_not_le short)
    exact Nat.lt_irrefl _ missing
  have zipped : b.rows = List.zipWith (fun r row => { r with row := row }) a.rows rows := by
    refine List.ext_getElem ?_ fun i hb hz => ?_
    · rw [List.length_zipWith, Nat.min_eq_left enough, length]
    · obtain ⟨_, _, here⟩ := rowwise i (length.symm ▸ hb)
      rw [List.getElem_zipWith]
      exact here
  rw [same, withRows, zipped]

/-- **The reports say the same but for the rows**, and each row in its place is reported on as the
one that it stands for. -/
structure Report.Recast (R : FailureKind → FailureKind → Prop) (rows : List Row) (a b : Report) :
    Prop where
  same : b = { a with rows := b.rows }
  length : a.rows.length = b.rows.length
  rowwise : ∀ i, ∀ ha : i < a.rows.length, ∃ hb : i < b.rows.length, ∃ hr : i < rows.length,
    b.rows[i].row = rows[i] ∧ a.rows[i].Recast R b.rows[i]

namespace Report.Recast

variable {R : FailureKind → FailureKind → Prop} {rows : List Row} {a b : Report}

/-- Of each row they say whether it is turned around… -/
theorem map_decorated (h : a.Recast R rows b) :
    b.rows.map RowReport.decorated = a.rows.map RowReport.decorated := by
  refine List.ext_getElem ?_ fun i hb ha => ?_
  · rw [List.length_map, List.length_map, h.length]
  · rw [List.length_map] at ha
    obtain ⟨_, _, _, similar⟩ := h.rowwise i ha
    rw [List.getElem_map, List.getElem_map, similar.decorated]

/-- …and they differ in the rows alone, if the kinds do not differ. -/
theorem eq_withRows (h : a.Recast R rows b) (only : ∀ kind kind', R kind kind' → kind = kind') :
    b = a.withRows rows := by
  refine Report.eq_withRows h.same h.length fun i hi => ?_
  obtain ⟨hb, hr, row, similar⟩ := h.rowwise i hi
  refine ⟨hb, hr, RowReport.ext ?_ row ?_ ?_⟩
  · exact similar.index.symm
  · exact (similar.outcome.eq only).symm
  · exact similar.decorated.symm

end Report.Recast

namespace Script

/-- The script with other rows. -/
def withRows (script : Script) (rows : List Row) : Script := { script with rows := rows }

variable {w : World} {regardless : Bool} {script : Script} {s : State}

/-- **A failure of a kind is demanded by the row before.** -/
theorem demanded_of_outcome {report : Report} (h : (script.run w regardless s).1 = .ok report)
    {i : Nat} (hi : i < report.rows.length) {kind : FailureKind}
    (failed : report.rows[i].outcome = some kind.outcome) :
    report.rows[i].decorated = true ∧
      ∃ j, ∃ hj : j < script.rows.length, i = j + 1 ∧ script.rows[j].command ∈ kind.names := by
  obtain ⟨hs, whole, here⟩ := getElem_rows h hi
  rw [here] at failed ⊢
  obtain ⟨waits, -⟩ := (Stage.outcome_eq_failure_iff whole).1 failed
  exact (pending_stage_iff hs kind).1 waits

/-- So the kind of the failure is the kind of the row before. -/
theorem kind_eq_of_outcome {report : Report} (h : (script.run w regardless s).1 = .ok report)
    {j : Nat} (hi : j + 1 < report.rows.length) (hj : j < script.rows.length)
    {kind other : FailureKind} (failed : report.rows[j + 1].outcome = some kind.outcome)
    (named : script.rows[j].command ∈ other.names) : kind = other := by
  obtain ⟨-, k, hk, next, demanded⟩ := demanded_of_outcome h hi failed
  obtain rfl : k = j := (Nat.succ.inj next).symm
  exact FailureKind.eq_of_mem_names demanded named

/-- **The runs leave the same and end alike**, and each row in its place is reported on as the one
that it stands for. -/
theorem run_withRows {R : FailureKind → FailureKind → Prop} {rows : List Row}
    (on : regardless = true ∨ ∀ kind kind', R kind kind' → kind = kind')
    (recast : List.Forall₂ (Row.Recast R) script.rows rows) :
    let one := script.run w regardless s
    let other := (script.withRows rows).run w regardless s
    other.2.Agrees one.2 ∧ (∀ fault, other.1 = .error fault ↔ one.1 = .error fault) ∧
      ∀ a b, one.1 = .ok a → other.1 = .ok b → a.Recast R rows b := by
  intro one other
  have start : (script.start s).InStep 0 (Recast R fun kind => some (Inversion.mk kind))
      ((script.withRows rows).start s) :=
    ⟨rfl, .same none, ((State.Agrees.refl s).notes _ _).seed _⟩
  have ends : (script.ending w regardless s).InStep (Recast R fun kind => some (Inversion.mk kind))
      (RowReport.Recast R) ((script.withRows rows).ending w regardless s) :=
    (Row.Recast.lockstep w on).run start recast
  refine ⟨run_snd_agrees_of ends.state.symm, fun fault => ?_, fun a b ha hb => ?_⟩
  · rw [run_fst_eq_error_iff, run_fst_eq_error_iff, ends.fault]
  · obtain ⟨-, rfl⟩ := run_fst_eq_ok_iff.1 ha
    obtain ⟨-, told⟩ := run_fst_eq_ok_iff.1 hb
    have report := ends.report_eq RowReport.Recast.isFailure_eq (ending_isCounted ..)
      (ending_isCounted ..) script (script.withRows rows) rfl recast.length_eq
    obtain ⟨length, similar⟩ := List.forall₂_iff_get.1 ends.rows
    subst told
    refine ⟨report, length, fun i hi => ?_⟩
    obtain ⟨hr, -, here⟩ := getElem_rows hb (length ▸ hi)
    exact ⟨length ▸ hi, hr, congrArg RowReport.row here, similar i hi (length ▸ hi)⟩

/-- **A failure becomes softer where the row before has another one in its place.** -/
theorem outcome_softened {rows : List Row} {a b : Report}
    (recast : List.Forall₂ (Row.Recast FailureKind.SoftensTo) script.rows rows)
    (ha : (script.run w regardless s).1 = .ok a)
    (hb : ((script.withRows rows).run w regardless s).1 = .ok b) {i : Nat}
    (hi : i < a.rows.length) (hi' : i < b.rows.length)
    (similar : a.rows[i].Recast FailureKind.SoftensTo b.rows[i]) :
    b.rows[i].outcome =
      if a.rows[i].decorated = true ∧ script.rows[i - 1]? ≠ rows[i - 1]? then
        a.rows[i].soften.outcome
      else a.rows[i].outcome := by
  have becomes : a.rows[i].outcome = b.rows[i].outcome ∨
      (a.rows[i].outcome = some FailureKind.assertion.outcome ∧
        b.rows[i].outcome = some FailureKind.verification.outcome) := by
    obtain same | ⟨_, _, ⟨rfl, rfl⟩, here, there⟩ := similar.outcome.eq_or
    · exact .inl same
    · exact .inr ⟨here, there⟩
  by_cases hard : a.rows[i].outcome = some FailureKind.assertion.outcome
  · obtain ⟨decorated, j, hj, rfl, named⟩ := demanded_of_outcome ha hi hard
    obtain ⟨length, pairs⟩ := List.forall₂_iff_get.1 recast
    have hj' : j < rows.length := length ▸ hj
    have pair : script.rows[j].Recast FailureKind.SoftensTo rows[j] := pairs j hj hj'
    rw [Nat.add_sub_cancel, List.getElem?_eq_getElem hj, List.getElem?_eq_getElem hj']
    obtain ⟨kept, known⟩ | ⟨replaced, known⟩ := pair.kept_or named
    · rw [if_neg fun both => both.2 (congrArg some kept)]
      refine (becomes.resolve_right fun soft => ?_).symm
      cases kind_eq_of_outcome hb hi' hj' soft.2 known
    · have softened : a.rows[j + 1].soften.outcome = some FailureKind.verification.outcome :=
        if_pos hard
      rw [if_pos ⟨decorated, fun same => replaced (Option.some.inj same)⟩, softened]
      refine (becomes.resolve_left fun same => ?_).2
      cases kind_eq_of_outcome hb hi' hj' (same.symm.trans hard) known
  · have kept : a.rows[i].soften.outcome = a.rows[i].outcome := if_neg hard
    rw [kept, ite_self]
    exact (becomes.resolve_right fun soft => hard soft.1).symm

/-- …and so the report is told from the other one. -/
theorem eq_soften {rows : List Row} {a b : Report}
    (recast : List.Forall₂ (Row.Recast FailureKind.SoftensTo) script.rows rows)
    (ha : (script.run w regardless s).1 = .ok a)
    (hb : ((script.withRows rows).run w regardless s).1 = .ok b)
    (told : a.Recast FailureKind.SoftensTo rows b) :
    b = (a.soften script.rows rows).withRows rows := by
  have length : (a.soften script.rows rows).rows.length = a.rows.length := List.length_mapIdx
  refine Report.eq_withRows told.same (length.trans told.length) fun i hi => ?_
  rw [length] at hi
  obtain ⟨hi', hr, row, similar⟩ := told.rowwise i hi
  have softened := outcome_softened recast ha hb hi hi' similar
  refine ⟨hi', hr, ?_⟩
  simp only [Report.soften, List.getElem_mapIdx]
  split at softened
  case isTrue replaced =>
    rw [if_pos replaced]
    exact RowReport.ext similar.index.symm row softened similar.decorated.symm
  case isFalse kept =>
    rw [if_neg kept]
    exact RowReport.ext similar.index.symm row softened similar.decorated.symm

/-- **Assertions and verifications differ in how hard they are, and spellings in nothing.**  Where
other rows of the same kinds stand in place of inverting rows, the runs leave the same, end alike and
are reported on alike but for the rows' own commands.  Where verifications stand in place of
assertions, so do runs that go on regardless, but that on the report a failure behind such a row is
softer. -/
theorem run_recast (w : World) (script : Script) (s : State) (rows : List Row) :
    (List.Forall₂ (Row.Recast Eq) script.rows rows → ∀ regardless,
      let one := script.run w regardless s
      let other := (script.withRows rows).run w regardless s
      other.2.Agrees one.2 ∧ (∀ fault, other.1 = .error fault ↔ one.1 = .error fault) ∧
      ∀ a b, one.1 = .ok a → other.1 = .ok b → b = a.withRows rows) ∧
    (List.Forall₂ (Row.Recast FailureKind.SoftensTo) script.rows rows →
      let one := script.run w true s
      let other := (script.withRows rows).run w true s
      other.2.Agrees one.2 ∧ (∀ fault, other.1 = .error fault ↔ one.1 = .error fault) ∧
      ∀ a b, one.1 = .ok a → other.1 = .ok b →
        b = (a.soften script.rows rows).withRows rows ∧ b.passed = a.passed ∧
          b.halted = a.halted ∧ b.stepsRun = a.stepsRun ∧
          b.rows.map RowReport.decorated = a.rows.map RowReport.decorated) := by
  constructor
  · intro recast regardless one other
    have only : ∀ kind kind' : FailureKind, kind = kind' → kind = kind' := fun _ _ same => same
    obtain ⟨agrees, faults, told⟩ := run_withRows (w := w) (s := s) (.inr only) recast
    exact ⟨agrees, faults, fun a b ha hb => (told a b ha hb).eq_withRows only⟩
  · intro recast one other
    obtain ⟨agrees, faults, told⟩ :=
      run_withRows (w := w) (s := s) (.inl (rfl : true = true)) recast
    refine ⟨agrees, faults, fun a b ha hb => ?_⟩
    have recast' := told a b ha hb
    refine ⟨eq_soften recast ha hb recast', ?_, ?_, ?_, recast'.map_decorated⟩
    all_goals rw [recast'.same]

/-- Four rows demand failures, one of them in vain and one of nothing.  Spelled otherwise they stop
the run at the same echo; turned into verifications they make its failure softer. -/
theorem run_recast_echo :
    let script : Script := {
      name := "severity"
      rows := [⟨"assertErrorOnNext", "", ""⟩, ⟨"assertErrorOnNext", "", ""⟩,
        ⟨"assertFailureOnNext", "", ""⟩, ⟨"echo", "on", ""⟩, ⟨"assertErrorOnNext", "", ""⟩] }
    let spelled : List Row := [⟨"assertErrorOnNext", "", ""⟩, ⟨"assertFailureOnNext", "", ""⟩,
      ⟨"assertErrorOnNext", "", ""⟩, ⟨"echo", "on", ""⟩, ⟨"assertErrorOnNext", "", ""⟩]
    let softer : List Row := [⟨"assertErrorOnNext", "", ""⟩, ⟨"verifyErrorOnNext", "", ""⟩,
      ⟨"verifyErrorOnNext", "", ""⟩, ⟨"echo", "on", ""⟩, ⟨"verifyFailureOnNext", "", ""⟩]
    let report := fun rows : List Row => fun regardless =>
      ((script.withRows rows).ending {} regardless {}).report (script.withRows rows)
    report spelled false = (report script.rows false).withRows spelled ∧
      report softer true
        = ((report script.rows true).soften script.rows softer).withRows softer ∧
      (report script.rows true).rows.map RowReport.outcome
        = [some .clean, some .clean, some .clean, some .assertionFailed, some .clean] ∧
      (report softer true).rows.map RowReport.outcome
        = [some .clean, some .clean, some .clean, some .verificationFailed, some .clean] := by
  intro script spelled softer report
  have respelled : List.Forall₂ (Row.Recast Eq) script.rows spelled := by
    have named : ∀ name, name ∈ FailureKind.assertion.names → ∀ name',
        name' ∈ FailureKind.assertion.names → Row.Recast Eq ⟨name, "", ""⟩ ⟨name', "", ""⟩ :=
      fun name h name' h' => .other rfl h h' "" ""
    refine .cons (.same _) (.cons (named _ ?_ _ ?_) (.cons (named _ ?_ _ ?_)
      (.cons (.same _) (.cons (.same _) .nil))))
    all_goals decide +kernel
  have softened : List.Forall₂ (Row.Recast FailureKind.SoftensTo) script.rows softer := by
    have named : ∀ name, name ∈ FailureKind.assertion.names → ∀ name',
        name' ∈ FailureKind.verification.names →
          Row.Recast FailureKind.SoftensTo ⟨name, "", ""⟩ ⟨name', "", ""⟩ :=
      fun name h name' h' => .other ⟨rfl, rfl⟩ h h' "" ""
    refine .cons (.same _) (.cons (named _ ?_ _ ?_) (.cons (named _ ?_ _ ?_)
      (.cons (.same _) (.cons (named _ ?_ _ ?_) .nil))))
    all_goals decide +kernel
  obtain ⟨-, -, one⟩ := (run_recast {} script {} spelled).1 respelled false
  obtain ⟨-, -, other⟩ := (run_recast {} script {} softer).2 softened
  have ends : ∀ rows regardless,
      ((script.withRows rows).ending {} regardless {}).fault = none →
        ((script.withRows rows).run {} regardless {}).1 = .ok (report rows regardless) :=
    fun rows regardless whole => run_fst_eq_ok_iff.2 ⟨whole, rfl⟩
  refine ⟨one _ _ (ends script.rows false ?_) (ends spelled false ?_),
    (other _ _ (ends script.rows true ?_) (ends softer true ?_)).1, ?_, ?_⟩
  all_goals decide +kernel

end Script

end Rowscript
