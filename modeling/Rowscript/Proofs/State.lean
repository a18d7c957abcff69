import Rowscript.World

/-!
# Proofs/State — what each operation of a state leaves as it was

A state is looked at field by field: each operation changes one field, and adds a record.  Taken
together the fields say that a state only ever goes on (`State.Precedes`): calls, lines, waits and
records are added at the end, and an interrupt that is set stays set.
-/

namespace Rowscript

namespace State

/-! ## Field by field -/

section Fields

variable (w : World) (s : State) (r : Record) (name value line : String) (c : Call) (ms : Nat)
  (index : Nat)

@[simp] theorem note_vars : (s.note r).vars = s.vars := rfl
@[simp] theorem note_interrupt : (s.note r).interrupt = s.interrupt := rfl
@[simp] theorem note_calls : (s.note r).calls = s.calls := rfl
@[simp] theorem note_lines : (s.note r).lines = s.lines := rfl
@[simp] theorem note_isInterrupted : (s.note r).isInterrupted = s.isInterrupted := rfl

@[simp] theorem trigger_vars : s.trigger.vars = s.vars := rfl
@[simp] theorem trigger_calls : s.trigger.calls = s.calls := rfl
@[simp] theorem trigger_lines : s.trigger.lines = s.lines := rfl

@[simp] theorem store_vars : (s.store name value).vars = s.vars.insert name value := rfl
@[simp] theorem store_calls : (s.store name value).calls = s.calls := rfl
@[simp] theorem store_lines : (s.store name value).lines = s.lines := rfl

/-- Setting the interrupt, or not, is looked at where it makes no difference. -/
theorem ite_trigger_keeps {α : Type} (field : State → α) (trigger : ∀ s, field s.trigger = field s)
    (b : Bool) : field (if b then s.trigger else s) = field s := by
  cases b
  · rfl
  · exact trigger s

theorem ite_trigger_isInterrupted (b : Bool) :
    (if b then s.trigger else s).isInterrupted = (b || s.isInterrupted) := by
  cases b <;> rfl

@[simp] theorem write_vars : (s.write w line).vars = s.vars :=
  ite_trigger_keeps _ vars trigger_vars _

@[simp] theorem write_calls : (s.write w line).calls = s.calls :=
  ite_trigger_keeps _ calls trigger_calls _

@[simp] theorem write_lines : (s.write w line).lines = s.lines ++ [line] :=
  ite_trigger_keeps _ lines trigger_lines _

/-- The state behind a call, before the interrupt is set. -/
def called : State :=
  let s := { s with calls := s.calls ++ [c] }
  if (w.driver s.calls).isNoted then s.note (.dryRun c.command (Text.quotedList c.args)) else s

/-- A call is looked at where the record of it makes no difference. -/
theorem called_keeps {α : Type} (field : State → α) (note : ∀ s r, field (s.note r) = field s) :
    field (s.called w c) = field { s with calls := s.calls ++ [c] } := by
  unfold called
  dsimp only
  split
  · exact note _ _
  · rfl

@[simp] theorem call_result : (s.call w c).1 = (w.driver (s.calls ++ [c])).result := rfl

theorem call_snd :
    (s.call w c).2 =
      if (w.driver (s.calls ++ [c])).triggers then (s.called w c).trigger else s.called w c := rfl

@[simp] theorem call_vars : (s.call w c).2.vars = s.vars :=
  (ite_trigger_keeps _ vars trigger_vars _).trans (called_keeps w s c vars note_vars)

@[simp] theorem call_calls : (s.call w c).2.calls = s.calls ++ [c] :=
  (ite_trigger_keeps _ calls trigger_calls _).trans (called_keeps w s c calls note_calls)

@[simp] theorem call_lines : (s.call w c).2.lines = s.lines :=
  (ite_trigger_keeps _ lines trigger_lines _).trans (called_keeps w s c lines note_lines)

@[simp] theorem wait_vars : (s.wait w ms).2.vars = s.vars :=
  ite_trigger_keeps _ vars trigger_vars _

@[simp] theorem wait_calls : (s.wait w ms).2.calls = s.calls :=
  ite_trigger_keeps _ calls trigger_calls _

@[simp] theorem wait_lines : (s.wait w ms).2.lines = s.lines :=
  ite_trigger_keeps _ lines trigger_lines _

theorem wait_fst : (s.wait w ms).1 = (s.isInterrupted || w.arrives (s.waits ++ [ms])) := rfl

theorem wait_snd :
    (s.wait w ms).2 =
      let s' := { s with waits := s.waits ++ [ms] }
      if (s.wait w ms).1 then s'.trigger else s' := rfl

/-- A wait is asked for as long as it is… -/
theorem wait_waits : (s.wait w ms).2.waits = s.waits ++ [ms] :=
  ite_trigger_keeps _ waits (fun _ => rfl) _

/-- …and is cut short exactly if the interrupt is set, or arrives in it… -/
theorem wait_fst_iff :
    (s.wait w ms).1 = true ↔
      s.isInterrupted = true ∨ w.arrives (s.waits ++ [ms]) = true := by
  rw [wait_fst, Bool.or_eq_true]

/-- …and then the interrupt is set. -/
theorem wait_isInterrupted : (s.wait w ms).2.isInterrupted = (s.wait w ms).1 := by
  refine (ite_trigger_isInterrupted ..).trans ?_
  change ((s.isInterrupted || _) || s.isInterrupted) = (s.isInterrupted || _)
  cases s.isInterrupted <;> simp

/-- A wait does not look at the records. -/
@[simp] theorem note_wait_fst : ((s.note r).wait w ms).1 = (s.wait w ms).1 := rfl

/-- Behind a row a state is as before, but for records and the interrupt. -/
theorem pass_keeps {α : Type} (field : State → α) (note : ∀ s r, field (s.note r) = field s)
    (trigger : ∀ s, field s.trigger = field s) : field (s.pass w index r) = field s :=
  (ite_trigger_keeps _ field trigger _).trans (note s r)

end Fields

/-- **Seeding lays the map over the variables**, and touches no variable else. -/
theorem seed_vars (s : State) (v : Variables) : (s.seed v).vars = s.vars.overlay v := by
  unfold seed Variables.overlay
  induction v.entries generalizing s with
  | nil => rfl
  | cons entry entries ih => exact ih (s.store entry.1 entry.2)

/-! ## A state only goes on -/

/-- **What was done stays done**: nothing is taken back, and a set interrupt stays set. -/
structure Precedes (s t : State) : Prop where
  calls : s.calls <+: t.calls
  lines : s.lines <+: t.lines
  waits : s.waits <+: t.waits
  records : s.records <+: t.records
  interrupted : s.isInterrupted = true → t.isInterrupted = true

namespace Precedes

theorem refl (s : State) : s.Precedes s :=
  ⟨List.prefix_rfl, List.prefix_rfl, List.prefix_rfl, List.prefix_rfl, id⟩

theorem trans {s t u : State} (h : s.Precedes t) (k : t.Precedes u) : s.Precedes u :=
  ⟨h.calls.trans k.calls, h.lines.trans k.lines, h.waits.trans k.waits,
    h.records.trans k.records, k.interrupted ∘ h.interrupted⟩

end Precedes

theorem precedes_note (s : State) (r : Record) : s.Precedes (s.note r) :=
  { Precedes.refl s with records := List.prefix_append _ _, interrupted := id }

theorem precedes_trigger (s : State) : s.Precedes s.trigger :=
  { Precedes.refl s with interrupted := fun _ => rfl }

theorem precedes_store (s : State) (name value : String) : s.Precedes (s.store name value) :=
  { Precedes.refl s with records := List.prefix_append _ _, interrupted := id }

theorem precedes_ite_trigger (s : State) (b : Bool) :
    s.Precedes (if b then s.trigger else s) := by
  cases b
  · exact Precedes.refl s
  · exact precedes_trigger s

theorem precedes_write (w : World) (s : State) (line : String) :
    s.Precedes (s.write w line) := by
  have added : s.Precedes { s.note (.echoed line) with lines := s.lines ++ [line] } :=
    { Precedes.refl s with
      lines := List.prefix_append _ _, records := List.prefix_append _ _, interrupted := id }
  exact added.trans (precedes_ite_trigger _ _)

theorem precedes_called (w : World) (s : State) (c : Call) : s.Precedes (s.called w c) := by
  have added : s.Precedes { s with calls := s.calls ++ [c] } :=
    { Precedes.refl s with calls := List.prefix_append _ _, interrupted := id }
  unfold called
  dsimp only
  split
  · exact added.trans (precedes_note _ _)
  · exact added

theorem precedes_call (w : World) (s : State) (c : Call) : s.Precedes (s.call w c).2 :=
  (precedes_called w s c).trans (precedes_ite_trigger _ _)

theorem precedes_wait (w : World) (s : State) (ms : Nat) : s.Precedes (s.wait w ms).2 := by
  have added : s.Precedes { s with waits := s.waits ++ [ms] } :=
    { Precedes.refl s with waits := List.prefix_append _ _, interrupted := id }
  exact added.trans (precedes_ite_trigger _ _)

theorem precedes_pass (w : World) (index : Nat) (r : Record) (s : State) :
    s.Precedes (s.pass w index r) :=
  (precedes_note s r).trans (precedes_ite_trigger _ _)

end State

end Rowscript
