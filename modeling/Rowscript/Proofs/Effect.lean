import Rowscript.Proofs.Kind
import Rowscript.Proofs.State
import Rowscript.Run

/-!
# Proofs/Effect — what a row does to the state

`Row.effect` is the state behind the step of a row.  A row touches at most one of the variables, the
calls and the lines, and its command says which; it takes nothing back (`Row.precedes_effect`).  An
inversion that waits for the row adds a record to all this, and nothing else (`Row.perform_snd`).
-/

namespace Rowscript

/-! ## Pauses and calls -/

namespace Step

theorem performPause_of_none (w : World) {text : String} (h : Text.word? text.toList = none)
    (s : State) :
    performPause w text s =
      (.ok (.done (.error ("Unable to parse timeout: " ++ text))), s) := by
  unfold performPause
  rw [h]
  rfl

theorem performPause_of_some (w : World) {text : String} {ms : Nat}
    (h : Text.word? text.toList = some ms) (s : State) :
    performPause w text s =
      if (s.wait w ms).1 then
        (.error .interrupted, ((s.note (.pausing ms)).wait w ms).2.note (.pauseInterrupted ms))
      else (.ok (.done .clean), ((s.note (.pausing ms)).wait w ms).2) := by
  unfold performPause
  rw [h, ← State.note_wait_fst w s (.pausing ms)]
  dsimp only
  split <;> rename_i hw <;> rw [hw] <;> rfl

/-- A call, told by the driver's answer. -/
theorem performCall_eq (w : World) (c : Call) (s : State) :
    performCall w c s =
      match (w.driver (s.calls ++ [c])).result with
      | .ok _ => (.ok (.done .clean), (s.call w c).2)
      | .error fault =>
        if fault.isFatal then (.error fault, (s.call w c).2)
        else
          (.ok (.done (.error fault.message)),
            (s.call w c).2.note (.driverFailed c.command fault.message)) := by
  unfold performCall
  rw [← State.call_result w s c]
  obtain ⟨result, t⟩ := s.call w c
  cases result <;> rfl

/-- **A pause keeps every field that waits and records keep.** -/
theorem performPause_keeps {α : Type} (field : State → α)
    (note : ∀ s r, field (s.note r) = field s) (w : World)
    (wait : ∀ s ms, field (s.wait w ms).2 = field s) (text : String) (s : State) :
    field (performPause w text s).2 = field s := by
  cases ht : Text.word? text.toList with
  | none => rw [performPause_of_none w ht]
  | some ms =>
    rw [performPause_of_some w ht]
    split
    · rw [note, wait, note]
    · rw [wait, note]

/-- A call leaves what the driver leaves, in every field that records keep. -/
theorem performCall_keeps {α : Type} (field : State → α)
    (note : ∀ s r, field (s.note r) = field s) (w : World) (c : Call) (s : State) :
    field (performCall w c s).2 = field (s.call w c).2 := by
  rw [performCall_eq]
  split
  · rfl
  · split
    · rfl
    · exact note _ _

theorem precedes_performPause (w : World) (text : String) (s : State) :
    s.Precedes (performPause w text s).2 := by
  cases ht : Text.word? text.toList with
  | none =>
    rw [performPause_of_none w ht]
    exact .refl s
  | some ms =>
    have waited : s.Precedes ((s.note (.pausing ms)).wait w ms).2 :=
      (s.precedes_note _).trans (State.precedes_wait w _ _)
    rw [performPause_of_some w ht]
    split
    · exact waited.trans (State.precedes_note _ _)
    · exact waited

theorem precedes_performCall (w : World) (c : Call) (s : State) :
    s.Precedes (performCall w c s).2 := by
  have called : s.Precedes (s.call w c).2 := s.precedes_call w c
  rw [performCall_eq]
  split
  · exact called
  · split
    · exact called
    · exact called.trans (State.precedes_note _ _)

end Step

namespace Row

variable {w : World} {row : Row} {s : State}

/-! ## The step of a row -/

/-- The call of a row that goes to the driver. -/
def call (row : Row) (s : State) : Call :=
  ⟨row.command, [s.expand row.locator, s.expand row.value]⟩

/-- What the driver does with that call. -/
def answer (w : World) (row : Row) (s : State) : Answer := w.driver (s.calls ++ [row.call s])

/-- The timeout of a row that pauses, if its cell is one. -/
def timeout? (row : Row) (s : State) : Option Nat := Text.word? (s.expand row.locator).toList

/-- What the step of a row answers. -/
def reply (w : World) (row : Row) (s : State) : Except Fault Reply :=
  (row.step.perform w (row.announce s)).1

/-- The state behind the step of a row. -/
def effect (w : World) (row : Row) (s : State) : State :=
  (row.step.perform w (row.announce s)).2

theorem announce_of_known (h : row.command ∈ Command.names) : row.announce s = s := by
  rw [announce]
  split
  · rfl
  · exact absurd h (Command.ofName?_eq_none_iff.1 (by assumption))

theorem announce_of_unknown (h : row.command ∉ Command.names) :
    row.announce s = s.note (.forwarded row.command) := by
  rw [announce, Command.ofName?_eq_none_iff.2 h]

theorem perform_step_invert {kind : FailureKind} (h : row.command ∈ kind.names) :
    row.step.perform w (row.announce s) = (.ok (.wrap ⟨kind⟩), s) := by
  obtain ⟨c, -, named⟩ := FailureKind.mem_names_iff.1 h
  rw [step_of_invert h, announce_of_known (named ▸ c.name_mem_names)]
  rfl

theorem perform_step_echo (h : row.command = "echo") :
    row.step.perform w (row.announce s)
      = (.ok (.done .clean), s.write w (s.expand row.locator)) := by
  rw [step_of_echo h, announce_of_known (h ▸ Command.echo.name_mem_names)]
  rfl

theorem perform_step_store (h : row.command = "store") :
    row.step.perform w (row.announce s)
      = (.ok .silent, s.store (s.expand row.locator) (s.expand row.value)) := by
  rw [step_of_store h, announce_of_known (h ▸ Command.store.name_mem_names)]
  rfl

theorem perform_step_pause (h : row.command = "pause") :
    row.step.perform w (row.announce s) = Step.performPause w (s.expand row.locator) s := by
  rw [step_of_pause h, announce_of_known (h ▸ Command.pause.name_mem_names)]
  rfl

theorem perform_step_drive (h : row.command ∉ Command.names) :
    row.step.perform w (row.announce s)
      = Step.performCall w (row.call s) (s.note (.forwarded row.command)) := by
  rw [step_of_drive h, announce_of_unknown h]
  rfl

/-! ## The fields behind a row

A row touches at most one of the variables, the calls and the lines. -/

theorem effect_vars (w : World) (row : Row) (s : State) :
    (row.effect w s).vars =
      if row.command = "store" then s.vars.insert (s.expand row.locator) (s.expand row.value)
      else s.vars := by
  cases row.kind with
  | invert kind named =>
    rw [effect, perform_step_invert named, if_neg (known_of_invert named).2.2.2]
  | echo named => simp [effect, perform_step_echo named, named]
  | pause named =>
    rw [effect, perform_step_pause named, if_neg (by simp [named])]
    exact Step.performPause_keeps State.vars State.note_vars w (State.wait_vars w) _ _
  | store named => simp [effect, perform_step_store named, named]
  | drive unknown =>
    rw [effect, perform_step_drive unknown, if_neg (ne_of_unknown unknown).2.2,
      Step.performCall_keeps State.vars State.note_vars, State.call_vars, State.note_vars]

theorem effect_calls (w : World) (row : Row) (s : State) :
    (row.effect w s).calls =
      if row.command ∈ Command.names then s.calls else s.calls ++ [row.call s] := by
  cases row.kind with
  | invert kind named =>
    rw [effect, perform_step_invert named, if_pos (known_of_invert named).1]
  | echo named =>
    rw [effect, perform_step_echo named, if_pos (named ▸ Command.echo.name_mem_names),
      State.write_calls]
  | pause named =>
    rw [effect, perform_step_pause named, if_pos (named ▸ Command.pause.name_mem_names)]
    exact Step.performPause_keeps State.calls State.note_calls w (State.wait_calls w) _ _
  | store named =>
    rw [effect, perform_step_store named, if_pos (named ▸ Command.store.name_mem_names),
      State.store_calls]
  | drive unknown =>
    rw [effect, perform_step_drive unknown, if_neg unknown,
      Step.performCall_keeps State.calls State.note_calls, State.call_calls, State.note_calls]

theorem effect_lines (w : World) (row : Row) (s : State) :
    (row.effect w s).lines =
      if row.command = "echo" then s.lines ++ [s.expand row.locator] else s.lines := by
  cases row.kind with
  | invert kind named =>
    rw [effect, perform_step_invert named, if_neg (known_of_invert named).2.1]
  | echo named => simp [effect, perform_step_echo named, named]
  | pause named =>
    rw [effect, perform_step_pause named, if_neg (by simp [named])]
    exact Step.performPause_keeps State.lines State.note_lines w (State.wait_lines w) _ _
  | store named => simp [effect, perform_step_store named, named]
  | drive unknown =>
    rw [effect, perform_step_drive unknown, if_neg (ne_of_unknown unknown).1,
      Step.performCall_keeps State.lines State.note_lines, State.call_lines, State.note_lines]

/-- **A row only goes on.** -/
theorem precedes_effect (w : World) (row : Row) (s : State) : s.Precedes (row.effect w s) := by
  cases row.kind with
  | invert kind named =>
    rw [effect, perform_step_invert named]
    exact .refl s
  | echo named =>
    rw [effect, perform_step_echo named]
    exact s.precedes_write w _
  | pause named =>
    rw [effect, perform_step_pause named]
    exact Step.precedes_performPause w _ s
  | store named =>
    rw [effect, perform_step_store named]
    exact s.precedes_store _ _
  | drive unknown =>
    rw [effect, perform_step_drive unknown]
    exact (s.precedes_note _).trans (Step.precedes_performCall w _ _)

/-! ## Turned around or not -/

/-- **An inversion that waits for a row changes nothing that the row does**: it adds a record. -/
theorem perform_snd (w : World) (pending : Option Inversion) (row : Row) (s : State) :
    (row.perform w pending s).2 = row.effect w s ∨
      ∃ r, (row.perform w pending s).2 = (row.effect w s).note r := by
  rw [effect]
  unfold perform
  cases pending with
  | none =>
    dsimp only
    obtain ⟨_ | _, t⟩ := row.step.perform w (row.announce s) <;> exact .inl rfl
  | some inv =>
    dsimp only [Inversion.evaluate]
    obtain ⟨_ | reply, t⟩ := row.step.perform w (row.announce s)
    · exact .inl rfl
    · exact .inr ⟨_, rfl⟩

/-- So whatever records keep is as the step leaves it. -/
theorem perform_keeps {α : Type} (field : State → α)
    (note : ∀ s r, field (s.note r) = field s) (w : World) (pending : Option Inversion)
    (row : Row) (s : State) : field (row.perform w pending s).2 = field (row.effect w s) := by
  obtain h | ⟨r, h⟩ := row.perform_snd w pending s
  · rw [h]
  · rw [h, note]

theorem precedes_perform (w : World) (pending : Option Inversion) (row : Row) (s : State) :
    s.Precedes (row.perform w pending s).2 := by
  obtain h | ⟨r, h⟩ := row.perform_snd w pending s
  · rw [h]
    exact row.precedes_effect w s
  · rw [h]
    exact (row.precedes_effect w s).trans (State.precedes_note _ r)

end Row

end Rowscript
