import Rowscript.Proofs.Effect

/-!
# Proofs/Reply — what a row answers, and what that says about it

`Row.replies` goes through all replies of a row and says of each what it comes from: the command,
the cells as they are now, and the driver's answer.  The inversion that waits for the row judges the
reply (`Row.perform_fst`), and never whether there is one.
-/

namespace Rowscript

namespace Row

variable {w : World} {row : Row} {s : State}

/-! ## The reply, kind by kind -/

theorem reply_of_invert {kind : FailureKind} (h : row.command ∈ kind.names) :
    row.reply w s = .ok (.wrap ⟨kind⟩) := congrArg Prod.fst (perform_step_invert h)

theorem reply_of_echo (h : row.command = "echo") : row.reply w s = .ok (.done .clean) :=
  congrArg Prod.fst (perform_step_echo h)

theorem reply_of_store (h : row.command = "store") : row.reply w s = .ok .silent :=
  congrArg Prod.fst (perform_step_store h)

theorem reply_of_pause (h : row.command = "pause") :
    row.reply w s =
      match row.timeout? s with
      | none => .ok (.done (.error ("Unable to parse timeout: " ++ s.expand row.locator)))
      | some ms => if (s.wait w ms).1 then .error .interrupted else .ok (.done .clean) := by
  rw [reply, perform_step_pause h]
  cases ht : row.timeout? s with
  | none => rw [Step.performPause_of_none w ht]
  | some ms =>
    rw [Step.performPause_of_some w ht]
    dsimp only
    split <;> rfl

theorem reply_of_drive (h : row.command ∉ Command.names) :
    row.reply w s =
      match (row.answer w s).result with
      | .ok _ => .ok (.done .clean)
      | .error fault =>
        if fault.isFatal then .error fault else .ok (.done (.error fault.message)) := by
  rw [reply, perform_step_drive h, Step.performCall_eq]
  change Prod.fst (match (row.answer w s).result with | .ok _ => _ | .error fault => _) = _
  cases (row.answer w s).result with
  | ok text => rfl
  | error fault =>
    dsimp only
    split <;> rfl

/-! ## What a reply means

A row either succeeds, or has an error of its own, or is cut short, or turns the next row around;
which of them is a matter of its command, its cells and the driver's answer. -/

/-- The row does what it is there for: it stores, echoes, waits as long as its cell says, or has its
call answered without a fault. -/
def Succeeds (w : World) (row : Row) (s : State) : Prop :=
  row.command = "store" ∨ row.command = "echo" ∨
    (row.command = "pause" ∧ (row.timeout? s).isSome) ∨
    (row.command ∉ Command.names ∧ ∃ text, (row.answer w s).result = .ok text)

/-- The row has an error of its own, with this message: its timeout is none, or the driver refuses
the call. -/
def ErrsWith (w : World) (row : Row) (s : State) (message : String) : Prop :=
  (row.command = "pause" ∧ row.timeout? s = none ∧
      message = "Unable to parse timeout: " ++ s.expand row.locator) ∨
    (row.command ∉ Command.names ∧ ∃ fault, (row.answer w s).result = .error fault ∧
      fault.isFatal = false ∧ message = fault.message)

/-- The row is cut short: the interrupt is set by the end of its wait, or the driver answers its
call with an interrupt. -/
def IsCutShort (w : World) (row : Row) (s : State) : Prop :=
  (row.command = "pause" ∧ ∃ ms, row.timeout? s = some ms ∧ (s.wait w ms).1 = true) ∨
    (row.command ∉ Command.names ∧ (row.answer w s).result = .error .interrupted)

/-- **Every reply of a row, and what it says about the row.** -/
inductive Replies (w : World) (row : Row) (s : State) : Except Fault Reply → Prop
  | wrap (kind : FailureKind) (named : row.command ∈ kind.names) :
      Replies w row s (.ok (.wrap ⟨kind⟩))
  | silent (named : row.command = "store") : Replies w row s (.ok .silent)
  | clean (done : row.Succeeds w s) (spoken : row.command ≠ "store") :
      Replies w row s (.ok (.done .clean))
  | error (message : String) (errs : row.ErrsWith w s message) :
      Replies w row s (.ok (.done (.error message)))
  | cutShort (cut : row.IsCutShort w s) : Replies w row s (.error .interrupted)

theorem replies (w : World) (row : Row) (s : State) : row.Replies w s (row.reply w s) := by
  cases row.kind with
  | invert kind named =>
    rw [reply_of_invert named]
    exact .wrap kind named
  | echo named =>
    rw [reply_of_echo named]
    exact .clean (.inr (.inl named)) (by simp [named])
  | pause named =>
    rw [reply_of_pause named]
    cases ht : row.timeout? s with
    | none => exact .error _ (.inl ⟨named, ht, rfl⟩)
    | some ms =>
      dsimp only
      split
      case isTrue hw => exact .cutShort (.inl ⟨named, ms, ht, hw⟩)
      case isFalse hw => exact .clean (.inr (.inr (.inl ⟨named, by simp [ht]⟩))) (by simp [named])
  | store named =>
    rw [reply_of_store named]
    exact .silent named
  | drive unknown =>
    rw [reply_of_drive unknown]
    cases ha : (row.answer w s).result with
    | ok text =>
      exact .clean (.inr (.inr (.inr ⟨unknown, text, ha⟩))) (ne_of_unknown unknown).2.2
    | error fault =>
      dsimp only
      split
      case isTrue hf =>
        obtain rfl := Fault.isFatal_iff.1 hf
        exact .cutShort (.inr ⟨unknown, ha⟩)
      case isFalse hf =>
        exact .error _ (.inr ⟨unknown, fault, ha, by simpa using hf, rfl⟩)

theorem reply_of_errsWith {message : String} (h : row.ErrsWith w s message) :
    row.reply w s = .ok (.done (.error message)) := by
  obtain ⟨named, ht, rfl⟩ | ⟨unknown, fault, ha, hf, rfl⟩ := h
  · rw [reply_of_pause named, ht]
  · rw [reply_of_drive unknown, ha]
    exact if_neg (by simp [hf])

theorem reply_of_isCutShort (h : row.IsCutShort w s) : row.reply w s = .error .interrupted := by
  obtain ⟨named, ms, ht, hw⟩ | ⟨unknown, ha⟩ := h
  · rw [reply_of_pause named, ht]
    exact if_pos hw
  · rw [reply_of_drive unknown, ha]
    rfl

/-- A row that does what it is there for has nothing to report, unless it is cut short. -/
theorem reply_of_succeeds (h : row.Succeeds w s) :
    row.reply w s = .ok .silent ∨ row.reply w s = .ok (.done .clean) ∨
      row.reply w s = .error .interrupted := by
  obtain named | named | ⟨named, ht⟩ | ⟨unknown, text, ha⟩ := h
  · exact .inl (reply_of_store named)
  · exact .inr (.inl (reply_of_echo named))
  · obtain ⟨ms, ht⟩ := Option.isSome_iff_exists.1 ht
    rw [reply_of_pause named, ht]
    dsimp only
    split
    · exact .inr (.inr rfl)
    · exact .inr (.inl rfl)
  · rw [reply_of_drive unknown, ha]
    exact .inr (.inl rfl)

/-- **A row is stopped by an interrupt, and only by an interrupt.** -/
theorem reply_eq_error_iff {fault : Fault} :
    row.reply w s = .error fault ↔ fault = .interrupted ∧ row.IsCutShort w s := by
  constructor
  · intro h
    have hr := row.replies w s
    rw [h] at hr
    cases hr with
    | cutShort cut => exact ⟨rfl, cut⟩
  · rintro ⟨rfl, cut⟩
    exact reply_of_isCutShort cut

theorem reply_eq_silent_iff : row.reply w s = .ok .silent ↔ row.command = "store" := by
  refine ⟨fun h => ?_, reply_of_store⟩
  have hr := row.replies w s
  rw [h] at hr
  cases hr with
  | silent named => exact named

theorem reply_eq_wrap_iff {inv : Inversion} :
    row.reply w s = .ok (.wrap inv) ↔ row.command ∈ inv.failure.names := by
  refine ⟨fun h => ?_, reply_of_invert⟩
  have hr := row.replies w s
  rw [h] at hr
  cases hr with
  | wrap kind named => exact named

/-- The only outcomes that a step reports by itself are a clean one and an error. -/
theorem reply_eq_done_iff {outcome : Outcome} (h : outcome ≠ .clean) :
    row.reply w s = .ok (.done outcome) ↔
      ∃ message, outcome = .error message ∧ row.ErrsWith w s message := by
  constructor
  · intro hd
    have hr := row.replies w s
    rw [hd] at hr
    cases hr with
    | clean => exact absurd rfl h
    | error message errs => exact ⟨message, rfl, errs⟩
  · rintro ⟨message, rfl, errs⟩
    exact reply_of_errsWith errs

end Row

/-! ## Turned around or not -/

/-- What a row comes to, by its reply and the inversion that waits for it. -/
def RowResult.judged (pending : Option Inversion) (reply : Reply) : RowResult :=
  match pending with
  | some inv => ⟨some (inv.judge reply), none⟩
  | none => .ofReply reply

/-- **The inversion that waits for a row changes the verdict alone**: there is a reply, or there is
none, whatever waits. -/
theorem Row.perform_fst (w : World) (pending : Option Inversion) (row : Row) (s : State) :
    (row.perform w pending s).1 = (row.reply w s).map (RowResult.judged pending) := by
  rw [reply]
  unfold perform
  cases pending with
  | none =>
    dsimp only
    obtain ⟨_ | _, t⟩ := row.step.perform w (row.announce s) <;> rfl
  | some inv =>
    dsimp only [Inversion.evaluate]
    obtain ⟨_ | _, t⟩ := row.step.perform w (row.announce s) <;> rfl

end Rowscript
