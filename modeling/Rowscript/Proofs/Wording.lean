import Rowscript.Proofs.Lockstep

/-!
# Proofs/Wording — what a driver says reaches no further than a message

A driver that grants a call says something, and so does one that refuses it.  A run listens to no
more than which of the two it is: in worlds whose drivers differ in their words alone it makes the
same calls, writes the same lines, leaves the same variables and ends alike.  The words of a refusal
stand in the report on the row that is refused, unless the row is turned around, and nowhere else
(`Script.run_of_alike`).
-/

namespace Rowscript

/-- **The answers differ in their words alone**: the call is granted by both, refused by both, or
answered with an interrupt by both, and both set the interrupt or neither does. -/
inductive Answer.Alike : Answer → Answer → Prop
  | granted (text text' : String) (triggers noted noted' : Bool) :
      Alike ⟨.ok text, triggers, noted⟩ ⟨.ok text', triggers, noted'⟩
  | refused (fault fault' : Fault) (triggers noted noted' : Bool) (mild : fault.isFatal = false)
      (mild' : fault'.isFatal = false) :
      Alike ⟨.error fault, triggers, noted⟩ ⟨.error fault', triggers, noted'⟩
  | interrupted (triggers noted noted' : Bool) :
      Alike ⟨.error .interrupted, triggers, noted⟩ ⟨.error .interrupted, triggers, noted'⟩

/-- **The drivers of the worlds differ in their words alone**, whatever they have been called with
so far, and in all else the worlds are one. -/
structure World.Alike (w w' : World) : Prop where
  outside : w.toOutside = w'.toOutside
  sink : w.sink = w'.sink
  driver : ∀ calls, (w.driver calls).Alike (w'.driver calls)

/-! ## Striking out the words -/

/-- An error without its message. -/
def Outcome.redact : Outcome → Outcome
  | error _ => error ""
  | outcome => outcome

/-- The report on a row without the words of a driver: they can only stand where the driver has
refused a row that nothing turns around. -/
def RowReport.redact (r : RowReport) : RowReport :=
  if r.decorated = false ∧ r.row.command ∉ Command.names then
    { r with outcome := r.outcome.map Outcome.redact }
  else r

/-- **A report without the words of a driver.** -/
def Report.redact (r : Report) : Report := { r with rows := r.rows.map RowReport.redact }

namespace RowReport

@[simp] theorem redact_decorated (r : RowReport) : r.redact.decorated = r.decorated := by
  rw [redact]
  split <;> rfl

/-- A message says nothing about how hard the verdict is… -/
@[simp] theorem redact_isHard (r : RowReport) : r.redact.isHard = r.isHard := by
  rw [redact]
  split
  · obtain ⟨index, row, _ | outcome, decorated⟩ := r
    · rfl
    · cases outcome <;> rfl
  · rfl

/-- …nor whether it is a failure. -/
@[simp] theorem redact_isFailure (r : RowReport) : r.redact.isFailure = r.isFailure := by
  rw [redact]
  split
  · obtain ⟨index, row, _ | outcome, decorated⟩ := r
    · rfl
    · cases outcome <;> rfl
  · rfl

end RowReport

/-! ## One row in two worlds -/

section Worlds

variable {w w' : World} (h : w.Alike w')

include h

theorem State.write_of_alike (s : State) (line : String) : s.write w line = s.write w' line := by
  rw [write, write, h.sink]

theorem State.wait_of_alike (s : State) (ms : Nat) : s.wait w ms = s.wait w' ms := by
  rw [wait, wait, h.outside]

theorem Step.performPause_of_alike (text : String) (s : State) :
    performPause w text s = performPause w' text s := by
  simp only [performPause, State.wait_of_alike h]

/-- The driver is asked the same, and sets the interrupt or not. -/
theorem State.call_of_alike (s : State) (c : Call) :
    (s.call w c).2.Agrees (s.call w' c).2 := by
  have triggers : ∀ calls, (w.driver calls).triggers = (w'.driver calls).triggers := fun calls => by
    have alike := h.driver calls
    generalize w.driver calls = answer at alike ⊢
    generalize w'.driver calls = answer' at alike ⊢
    cases alike <;> rfl
  rw [call_snd, call_snd, triggers]
  exact ((agrees_called w s c).trans (agrees_called w' s c).symm).ite_trigger _

namespace Row

/-- **A row does the same in both worlds**… -/
theorem effect_of_alike (row : Row) (s : State) : (row.effect w s).Agrees (row.effect w' s) := by
  cases row.kind with
  | invert kind named =>
    rw [effect, effect, perform_step_invert named, perform_step_invert named]
    exact .refl _
  | echo named =>
    rw [effect, effect, perform_step_echo named, perform_step_echo named,
      State.write_of_alike h]
    exact .refl _
  | pause named =>
    rw [effect, effect, perform_step_pause named, perform_step_pause named,
      Step.performPause_of_alike h]
    exact .refl _
  | store named =>
    rw [effect, effect, perform_step_store named, perform_step_store named]
    exact .refl _
  | drive unknown =>
    rw [effect, effect, perform_step_drive unknown, perform_step_drive unknown]
    have one := Step.performCall_agrees_call w (row.call s) (s.note (.forwarded row.command))
    have other := Step.performCall_agrees_call w' (row.call s) (s.note (.forwarded row.command))
    exact (one.trans (State.call_of_alike h _ _)).trans other.symm

/-- …and gets the same reply, unless both drivers refuse it. -/
theorem reply_of_alike (row : Row) (s : State) :
    row.reply w s = row.reply w' s ∨
      (row.command ∉ Command.names ∧ ∃ message message',
        row.reply w s = .ok (.done (.error message)) ∧
          row.reply w' s = .ok (.done (.error message'))) := by
  cases row.kind with
  | invert kind named => exact .inl ((reply_of_invert named).trans (reply_of_invert named).symm)
  | echo named => exact .inl ((reply_of_echo named).trans (reply_of_echo named).symm)
  | pause named =>
    rw [reply, reply, perform_step_pause named, perform_step_pause named,
      Step.performPause_of_alike h]
    exact .inl rfl
  | store named => exact .inl ((reply_of_store named).trans (reply_of_store named).symm)
  | drive unknown =>
    have alike : (row.answer w s).Alike (row.answer w' s) := h.driver _
    rw [reply_of_drive unknown, reply_of_drive unknown]
    generalize row.answer w s = answer at alike ⊢
    generalize row.answer w' s = answer' at alike ⊢
    cases alike with
    | granted text text' => exact .inl rfl
    | refused fault fault' triggers noted noted' mild mild' =>
      refine .inr ⟨unknown, fault.message, fault'.message, ?_, ?_⟩
      · exact if_neg (by simp [mild])
      · exact if_neg (by simp [mild'])
    | interrupted => exact .inl rfl

end Row

/-- **Runs in the two worlds go in step**, the words struck out. -/
theorem World.Alike.lockstep (regardless : Bool) :
    Lockstep w w' regardless 0 Eq Eq (fun r r' => r.redact = r'.redact) where
  idle := rfl
  behind i := by rw [h.outside]; rfl
  effect := by
    rintro row _ s t rfl agrees
    exact (row.effect_of_alike h s).trans (Row.effect_agrees agrees w' row)
  error_iff := by
    rintro row _ s t fault rfl agrees
    rw [← Row.reply_of_agrees agrees]
    obtain same | ⟨-, message, message', one, other⟩ := row.reply_of_alike h s
    · rw [same]
    · rw [one, other]
      exact ⟨fun h => (by cases h), fun h => (by cases h)⟩
  judged := by
    rintro row _ s t pending _ reply reply' rfl agrees rfl one other
    rw [← Row.reply_of_agrees agrees] at other
    obtain same | ⟨unknown, message, message', refused, refused'⟩ := row.reply_of_alike h s
    · obtain rfl : reply = reply' := Except.ok.inj ((one.symm.trans same).trans other)
      exact ⟨rfl, fun i => rfl⟩
    · obtain rfl : reply = .done (.error message) := Except.ok.inj (one.symm.trans refused)
      obtain rfl : reply' = .done (.error message') := Except.ok.inj (other.symm.trans refused')
      cases pending with
      | none =>
        refine ⟨rfl, fun i => ?_⟩
        rw [RowReport.redact, RowReport.redact, if_pos ⟨rfl, unknown⟩, if_pos ⟨rfl, unknown⟩]
        rfl
      | some inv => exact ⟨rfl, fun i => rfl⟩
  isHard := by
    intro r r' same
    exact .inr (by rw [← r.redact_isHard, same, r'.redact_isHard])

end Worlds

namespace Script

/-- **What the driver says makes no difference to a run.**  In worlds whose drivers differ in their
words alone the run ends with a report in both or with the same fault in both; it leaves the same
variables, calls, lines and waits; and the reports are the same but for the messages of rows that the
driver has refused and nothing turns around. -/
theorem run_of_alike {w w' : World} (h : w.Alike w') (regardless : Bool) (script : Script)
    (s : State) :
    let one := script.run w regardless s
    let other := script.run w' regardless s
    one.2.Agrees other.2 ∧
    (∀ fault, one.1 = .error fault ↔ other.1 = .error fault) ∧
    ∀ a b, one.1 = .ok a → other.1 = .ok b →
      a.redact = b.redact ∧ a.passed = b.passed ∧ a.halted = b.halted ∧ a.stepsRun = b.stepsRun ∧
        a.rows.map RowReport.decorated = b.rows.map RowReport.decorated := by
  intro one other
  have start : (script.start s).InStep 0 Eq (script.start s) := ⟨rfl, rfl, .refl _⟩
  have same : List.Forall₂ Eq script.rows script.rows := List.forall₂_same.2 fun _ _ => rfl
  have ends : (script.ending w regardless s).InStep Eq (fun r r' => r.redact = r'.redact)
      (script.ending w' regardless s) := (h.lockstep regardless).run start same
  refine ⟨run_snd_agrees_of ends.state, fun fault => ?_, fun a b ha hb => ?_⟩
  · rw [run_fst_eq_error_iff, run_fst_eq_error_iff, ends.fault]
  · obtain ⟨-, rfl⟩ := run_fst_eq_ok_iff.1 ha
    obtain ⟨-, rfl⟩ := run_fst_eq_ok_iff.1 hb
    have fails : ∀ {r r' : RowReport}, r.redact = r'.redact → r.isFailure = r'.isFailure := by
      intro r r' same
      rw [← r.redact_isFailure, same, r'.redact_isFailure]
    have flags : ∀ {r r' : RowReport}, r.redact = r'.redact → r.decorated = r'.decorated := by
      intro r r' same
      rw [← r.redact_decorated, same, r'.redact_decorated]
    have report :=
      ends.report_eq fails (ending_isCounted ..) (ending_isCounted ..) script script rfl rfl
    refine ⟨?_, ?_, ?_, ?_, ends.map_rows RowReport.decorated flags⟩
    · rw [report, Report.redact, Report.redact]
      congr 1
      exact ends.map_rows RowReport.redact id
    all_goals rw [report]

/-- Two drivers refuse every other click, each in its own words: a click that must fail hides them,
and one that must not does not. -/
theorem run_of_alike_refused :
    let w : World := { driver := fun calls =>
      if calls.length = 2 then { result := .ok "page" }
      else { result := .error (.driverCommand "click" "element not found") } }
    let w' : World := { driver := fun calls =>
      if calls.length = 2 then { result := .ok "", isNoted := true }
      else { result := .error (.io "broken pipe"), isNoted := true } }
    let script : Script := {
      name := "words"
      rows := [⟨"click", "id=save", ""⟩, ⟨"open", "/login", ""⟩, ⟨"verifyErrorOnNext", "", ""⟩,
        ⟨"click", "id=off", ""⟩] }
    let a := (script.ending w true {}).report script
    let b := (script.ending w' true {}).report script
    w.Alike w' ∧ (script.run w true {}).1 = .ok a ∧ (script.run w' true {}).1 = .ok b ∧
      a ≠ b ∧ a.redact = b.redact := by
  intro w w' script a b
  have alike : w.Alike w' := by
    refine ⟨rfl, rfl, fun calls => ?_⟩
    dsimp only [w, w']
    split
    · exact .granted "page" "" false false true
    · exact .refused _ _ false false true rfl rfl
  have ha : (script.run w true {}).1 = .ok a := run_fst_eq_ok_iff.2 ⟨by decide +kernel, rfl⟩
  have hb : (script.run w' true {}).1 = .ok b := run_fst_eq_ok_iff.2 ⟨by decide +kernel, rfl⟩
  obtain ⟨-, -, same⟩ := run_of_alike alike true script {}
  exact ⟨alike, ha, hb, by decide +kernel, (same a b ha hb).1⟩

end Script

end Rowscript
