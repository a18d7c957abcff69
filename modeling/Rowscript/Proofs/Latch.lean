import Rowscript.Proofs.Seeding

/-!
# Proofs/Latch — the interrupt is never taken back

    operation ──▸ operation that sets it ──▸ operation ──▸ …
                                          └── interrupted ever after

All that can be done with a state is an `Operation`, and a history is a row of them.  Each one only
goes on (`Operation.precedes_leave`), so whoever sets the interrupt, and however deep in an operation
that is (`Operation.Sets`), it is set for the rest of the history: nothing waits any more, and no
script gets to its first row (`Operation.interrupt_is_latched`).
-/

namespace Rowscript

/-! ## Single steps -/

namespace State

theorem precedes_seed (s : State) (v : Variables) : s.Precedes (s.seed v) := by
  unfold seed
  induction v.entries generalizing s with
  | nil => exact .refl s
  | cons entry entries ih => exact (s.precedes_store _ _).trans (ih _)

theorem isInterrupted_start (script : Script) (s : State) :
    (script.start s).state.isInterrupted = s.isInterrupted := by
  rw [isInterrupted, (Script.start_resembles script s).interrupt]
  rfl

theorem isInterrupted_ite_trigger {b : Bool} (h : b = true) (s : State) :
    (if b then s.trigger else s).isInterrupted = true := by
  rw [if_pos h]
  rfl

/-- **An interrupt that is set, or arrives in it, ends a wait**… -/
theorem wait_of_cut {w : World} {s : State} {ms : Nat}
    (h : s.isInterrupted = true ∨ w.arrives (s.waits ++ [ms]) = true) :
    (s.wait w ms).1 = true ∧ (s.wait w ms).2.isInterrupted = true := by
  have cut : (s.wait w ms).1 = true := (wait_fst_iff w s ms).2 h
  exact ⟨cut, (wait_isInterrupted w s ms).trans cut⟩

end State

namespace Step

variable {w : World} {s : State}

/-- …so it ends a pause, however long. -/
theorem performPause_of_cut {text : String} {ms : Nat}
    (accepted : Text.word? text.toList = some ms)
    (h : s.isInterrupted = true ∨ w.arrives (s.waits ++ [ms]) = true) :
    (performPause w text s).1 = .error .interrupted ∧
      (performPause w text s).2.isInterrupted = true := by
  rw [performPause_of_some w accepted, if_pos (State.wait_of_cut h).1]
  exact ⟨rfl, (State.wait_of_cut (s := s.note (.pausing ms)) h).2⟩

theorem precedes_perform (w : World) (step : Step) (s : State) :
    s.Precedes (step.perform w s).2 := by
  cases step with
  | invert => exact .refl s
  | echo => exact s.precedes_write w _
  | pause => exact precedes_performPause w _ s
  | store => exact s.precedes_store _ _
  | drive => exact precedes_performCall w _ s

/-- **A step sets the interrupt**: the sink does so on its line, the driver during its call, or it
arrives in its pause. -/
inductive Sets (w : World) (s : State) : Step → Prop
  | line {locator : String} (sink : w.sink (s.lines ++ [s.expand locator]) = true) :
      Sets w s (.echo locator)
  | call {command locator value : String}
      (driver : (w.driver
        (s.calls ++ [⟨command, [s.expand locator, s.expand value]⟩])).triggers = true) :
      Sets w s (.drive command locator value)
  | pause {locator : String} {ms : Nat}
      (accepted : Text.word? (s.expand locator).toList = some ms)
      (arrives : w.arrives (s.waits ++ [ms]) = true) : Sets w s (.pause locator)

theorem isInterrupted_of_sets {step : Step} (h : step.Sets w s) :
    (step.perform w s).2.isInterrupted = true := by
  cases h with
  | line sink => exact State.isInterrupted_ite_trigger sink _
  | call driver =>
    rw [perform, performCall_keeps State.isInterrupted State.note_isInterrupted]
    exact State.isInterrupted_ite_trigger driver _
  | pause accepted arrives => exact (performPause_of_cut accepted (.inr arrives)).2

end Step

/-! ## Rows and runs -/

theorem Row.precedes_announce (row : Row) (s : State) : s.Precedes (row.announce s) := by
  rw [announce]
  split
  · exact .refl s
  · exact s.precedes_note _

/-- An inversion adds a record to what the action leaves, or nothing. -/
theorem Inversion.precedes_evaluate (inv : Inversion) (act : Action) (s : State) :
    (act s).2.Precedes (inv.evaluate act s).2 := by
  rw [evaluate]
  obtain ⟨_ | _, t⟩ := act s
  · exact .refl t
  · exact t.precedes_note _

/-- A fault passes through an inversion of either kind. -/
theorem Inversion.evaluate_of_fault {act : Action} {s : State} {fault : Fault}
    (h : (act s).1 = .error fault) (inv : Inversion) :
    (inv.evaluate act s).1 = .error fault := by
  obtain ⟨t, performed⟩ : ∃ t, act s = (.error fault, t) := ⟨(act s).2, Prod.ext h rfl⟩
  rw [evaluate, performed]

namespace Stage

variable {w : World} {g : Stage} {row : Row}

/-- An interrupt that is set behind a row is there at the end. -/
theorem isInterrupted_run_of_next (whole : g.fault? w row = none)
    (set : (g.next w row).state.isInterrupted = true) (regardless : Bool) (rest : List Row) :
    (g.run w regardless (row :: rest)).state.isInterrupted = true := by
  rw [run_cons whole]
  split
  · exact (precedes_run w regardless _ rest).interrupted set
  · exact set

/-- What a row sets off is there behind it, whether a fault ends the run or not. -/
theorem isInterrupted_run_of_sets (h : row.step.Sets w (row.announce g.state))
    (regardless : Bool) (rest : List Row) :
    (g.run w regardless (row :: rest)).state.isInterrupted = true := by
  have performed : (row.perform w g.pending g.state).2.isInterrupted = true := by
    rw [row.perform_keeps State.isInterrupted State.note_isInterrupted]
    exact Step.isInterrupted_of_sets h
  cases hf : g.fault? w row with
  | some fault =>
    rw [run_cons_of_fault hf]
    dsimp only
    rw [broken]
    split
    · assumption
    · exact performed
  | none =>
    have behind : (g.next w row).state.isInterrupted = true :=
      (State.precedes_pass w _ _ _).interrupted performed
    exact isInterrupted_run_of_next hf behind regardless rest

/-- What somebody else sets behind a row is there as well. -/
theorem isInterrupted_run_of_behind (whole : g.fault? w row = none)
    (arrives : w.behind g.index = true) (regardless : Bool) (rest : List Row) :
    (g.run w regardless (row :: rest)).state.isInterrupted = true :=
  isInterrupted_run_of_next whole (State.isInterrupted_ite_trigger arrives _) regardless rest

end Stage

namespace Script

theorem precedes_run (w : World) (regardless : Bool) (script : Script) (s : State) :
    s.Precedes (script.run w regardless s).2 := by
  have started : s.Precedes (script.start s).state :=
    (s.precedes_note _).trans (State.precedes_seed _ _)
  have ended : s.Precedes (script.ending w regardless s).state :=
    started.trans (Stage.precedes_run w regardless _ _)
  rw [run_eq]
  split
  · exact ended
  · rw [Ending.finish]
    split
    · exact ended.trans (State.precedes_note _ _)
    · exact ended

/-- What a row that is reached sets off is there at the end, and so is what is set behind it. -/
theorem Reaches.isInterrupted_run {w : World} {regardless : Bool} {script : Script} {s : State}
    {k : Nat} (h : script.Reaches w regardless s k)
    (sets : h.row.step.Sets w (h.row.announce (script.stage w s k).state) ∨
      (script.stage w s k).fault? w h.row = none ∧ w.behind (k + 1) = true) :
    (script.run w regardless s).2.isInterrupted = true := by
  rw [(run_snd_agrees w regardless script s).isInterrupted, h.ending_eq]
  obtain sets | ⟨whole, arrives⟩ := sets
  · exact Stage.isInterrupted_run_of_sets sets regardless _
  · rw [← index_stage w s (Nat.le_of_lt h.1)] at arrives
    exact Stage.isInterrupted_run_of_behind whole arrives regardless _

/-- In the middle of a run, too, the interrupt stays. -/
theorem isInterrupted_stage {w : World} {script : Script} {s : State} {i j : Nat} (h : i ≤ j)
    (set : (script.stage w s i).state.isInterrupted = true) :
    (script.stage w s j).state.isInterrupted = true := by
  rw [stage, ← Nat.add_sub_of_le h, List.take_add, Stage.after_append]
  exact (Stage.precedes_after w _ _).interrupted set

/-- **A script that finds the interrupt set does not get to its first row**: its variables are
stored, and that is all. -/
theorem run_of_isInterrupted (w : World) (regardless : Bool) {script : Script} {s : State}
    (set : s.isInterrupted = true) (rows : script.rows ≠ []) :
    (script.run w regardless s).1 = .error .interrupted ∧ script.started w regardless s = 0 ∧
      (script.run w regardless s).2.Resembles (s.withVars (s.vars.overlay script.vars)) := by
  obtain ⟨fault, state⟩ := ending_of_interrupted w regardless set rows
  have left := (run_snd_agrees w regardless script s).resembles
  rw [state] at left
  refine ⟨run_fst_eq_error_iff.2 fault, Nat.eq_zero_of_not_pos fun starts => ?_,
    left.trans (start_resembles script s)⟩
  have start : (script.start s).state.isInterrupted = false := (lt_started_iff.1 starts).2
  rw [State.isInterrupted_start, set] at start
  cases start

end Script

/-! ## Histories -/

/-- **What can be done with a state**, its driver and its sink. -/
inductive Operation where
  | store (name value : String)
  | get (name : String)
  | expand (text : String)
  | log (line : String)
  /-- The caller sets the interrupt. -/
  | trigger
  | isTriggered
  | wait (ms : Nat)
  /-- The step of a row is made. -/
  | make (row : Row)
  | perform (step : Step)
  | evaluate (inv : Inversion) (step : Step)
  /-- A script is run, and somebody else sets the interrupt behind these rows of it. -/
  | run (behind : Nat → Bool) (regardless : Bool) (script : Script)

namespace Operation

variable {w : World} {s : State}

/-- The state that an operation leaves. -/
def leave (w : World) : Operation → State → State
  | store name value, s => s.store name value
  | get _, s | expand _, s | isTriggered, s => s
  | log line, s => s.write w line
  | trigger, s => s.trigger
  | wait ms, s => (s.wait w ms).2
  | make row, s => row.announce s
  | perform step, s => (step.perform w s).2
  | evaluate inv step, s => (inv.evaluate (step.perform w) s).2
  | run behind regardless script, s => (script.run { w with behind } regardless s).2

/-- The state that a history leaves. -/
def history (w : World) (s : State) (ops : List Operation) : State :=
  ops.foldl (fun s op => op.leave w s) s

/-- **The interrupt becomes set in an operation**: the caller sets it, the sink on a line, the driver
during a call, or it arrives in a wait; in a run this happens at a row that is reached, or somebody
sets it behind one. -/
inductive Sets (w : World) (s : State) : Operation → Prop
  | trigger : Sets w s trigger
  | log {line : String} (sink : w.sink (s.lines ++ [line]) = true) : Sets w s (log line)
  | wait {ms : Nat} (arrives : w.arrives (s.waits ++ [ms]) = true) : Sets w s (wait ms)
  | perform {step : Step} (sets : step.Sets w s) : Sets w s (perform step)
  | evaluate (inv : Inversion) {step : Step} (sets : step.Sets w s) : Sets w s (evaluate inv step)
  | run {behind : Nat → Bool} {regardless : Bool} {script : Script} (k : Nat)
      (reached : script.Reaches { w with behind } regardless s k)
      (sets : reached.row.step.Sets { w with behind }
          (reached.row.announce (script.stage { w with behind } s k).state) ∨
        (script.stage { w with behind } s k).fault? { w with behind } reached.row = none ∧
          behind (k + 1) = true) :
      Sets w s (run behind regardless script)

/-- **Every operation only goes on.** -/
theorem precedes_leave (w : World) (op : Operation) (s : State) : s.Precedes (op.leave w s) := by
  cases op with
  | store => exact s.precedes_store _ _
  | get | expand | isTriggered => exact .refl s
  | log => exact s.precedes_write w _
  | trigger => exact s.precedes_trigger
  | wait => exact s.precedes_wait w _
  | make row => exact row.precedes_announce s
  | perform step => exact step.precedes_perform w s
  | evaluate inv step =>
    exact (step.precedes_perform w s).trans (inv.precedes_evaluate _ s)
  | run behind regardless script => exact script.precedes_run { w with behind } regardless s

/-- …and so does every history. -/
theorem precedes_history (w : World) (ops : List Operation) (s : State) :
    s.Precedes (history w s ops) := by
  induction ops generalizing s with
  | nil => exact .refl s
  | cons op ops ih => exact (op.precedes_leave w s).trans (ih _)

/-- An operation in which the interrupt becomes set leaves it set, whatever comes behind that. -/
theorem Sets.isInterrupted {op : Operation} (h : op.Sets w s) :
    (op.leave w s).isInterrupted = true := by
  cases h with
  | trigger => rfl
  | log sink => exact State.isInterrupted_ite_trigger sink _
  | wait arrives => exact (State.wait_of_cut (.inr arrives)).2
  | perform sets => exact Step.isInterrupted_of_sets sets
  | evaluate inv sets =>
    exact (inv.precedes_evaluate _ s).interrupted (Step.isInterrupted_of_sets sets)
  | run k reached sets => exact reached.isInterrupted_run sets

/-- **The interrupt is a latch.**  Once it is set, by whomever and however deep in an operation, it is
set at every later point of the history, in the middle of a run too.  Every wait is then cut short,
every pause with a timeout is an interrupt, turned around or not, and every script with a row ends
with the interrupt before its first row: nothing is called, logged or waited for, and its variables
lie over those that were there. -/
theorem interrupt_is_latched (w : World) (s : State) (before : List Operation) (op : Operation)
    (after : List Operation)
    (set : (history w s before).isInterrupted = true ∨ op.Sets w (history w s before)) :
    let t := history w s (before ++ op :: after)
    t.isInterrupted = true ∧
    (∀ (behind : Nat → Bool) (script : Script) (i j : Nat), i ≤ j →
      (script.stage { w with behind } (history w s before) i).state.isInterrupted = true →
        (script.stage { w with behind } (history w s before) j).state.isInterrupted = true) ∧
    (∀ ms, (t.wait w ms).1 = true) ∧
    (∀ locator ms, Text.word? (t.expand locator).toList = some ms →
      ((Step.pause locator).perform w t).1 = .error .interrupted ∧
        ∀ inv : Inversion,
          (inv.evaluate ((Step.pause locator).perform w) t).1 = .error .interrupted) ∧
    ∀ (behind : Nat → Bool) (regardless : Bool) (script : Script), script.rows ≠ [] →
      let left := (script.run { w with behind } regardless t).2
      (script.run { w with behind } regardless t).1 = .error .interrupted ∧
        script.started { w with behind } regardless t = 0 ∧
        left.calls = t.calls ∧ left.lines = t.lines ∧ left.waits = t.waits ∧
        ∀ name, left.vars.get? name = (script.vars.get? name).or (t.vars.get? name) := by
  intro t
  have latched : t.isInterrupted = true := by
    have split : t = history w (op.leave w (history w s before)) after := List.foldl_append
    rw [split]
    refine (precedes_history w after _).interrupted ?_
    obtain set | sets := set
    · exact (op.precedes_leave w _).interrupted set
    · exact sets.isInterrupted
  refine ⟨latched, fun behind script i j => Script.isInterrupted_stage,
    fun ms => (State.wait_of_cut (.inl latched)).1, fun locator ms accepted => ?_,
    fun behind regardless script rows => ?_⟩
  · have cut : ((Step.pause locator).perform w t).1 = .error .interrupted :=
      (Step.performPause_of_cut accepted (.inl latched)).1
    exact ⟨cut, Inversion.evaluate_of_fault cut⟩
  · obtain ⟨fault, started, same⟩ :=
      script.run_of_isInterrupted { w with behind } regardless latched rows
    exact ⟨fault, started, same.calls, same.lines, same.waits,
      fun name => (same.vars name).trans (t.vars.get?_overlay script.vars name)⟩

/-- The driver sets the interrupt in the middle of a script, during a call that must not succeed.  A
store behind it still stores, but no pause pauses any more, and the next script does nothing but store
its variable.  The same comes of an interrupt that arrives in the second of two waits, or behind the
call. -/
theorem interrupt_is_latched_click :
    let w : World := { driver := fun calls => { triggers := calls.length == 1 } }
    let script : Script := {
      name := "click"
      rows := [⟨"verifyErrorOnNext", "", ""⟩, ⟨"click", "id=save", ""⟩, ⟨"echo", "never", ""⟩] }
    let next : Script := {
      name := "next"
      vars := Variables.ofList [("late", "yes")]
      rows := [⟨"click", "id=next", ""⟩] }
    let t := history w {} [.run (fun _ => false) true script, .store "n" "+5"]
    let late : World := { arrives := fun waits => waits.length == 2 }
    t.isInterrupted = true ∧ (t.wait w 0).1 = true ∧
      ((Step.pause "${n}").perform w t).1 = .error .interrupted ∧
      (Inversion.evaluate ⟨.assertion⟩ ((Step.pause "${n}").perform w) t).1
        = .error .interrupted ∧
      (next.run w true t).1 = .error .interrupted ∧
      (next.run w true t).2.calls = [⟨"click", ["id=save", ""]⟩] ∧
      (next.run w true t).2.vars.get? "late" = some "yes" ∧
      (history late {} [.wait 5, .wait 5, .get "n"]).isInterrupted = true ∧
      (history {} {} [.run (· == 2) true script, .get "n"]).isInterrupted = true := by
  intro w script next t late
  have reached : script.Reaches w true {} 1 := ⟨by decide, by decide +kernel, rfl, trivial⟩
  have sets : (run (fun _ => false) true script).Sets w {} := .run 1 reached (.inl (.call rfl))
  obtain ⟨latched, -, waits, pauses, runs⟩ :=
    interrupt_is_latched w {} [] (.run (fun _ => false) true script) [.store "n" "+5"] (.inr sets)
  obtain ⟨paused, turned⟩ := pauses "${n}" 5 (by decide +kernel)
  obtain ⟨fault, -, calls, -, -, vars⟩ := runs (fun _ => false) true next (by decide)
  obtain ⟨waited, -⟩ :=
    interrupt_is_latched late {} [.wait 5] (.wait 5) [.get "n"] (.inr (.wait rfl))
  have clicked : script.Reaches { behind := (· == 2) } true {} 1 :=
    ⟨by decide, by decide +kernel, rfl, trivial⟩
  have whole : (script.stage { behind := (· == 2) } {} 1).fault? { behind := (· == 2) }
      ⟨"click", "id=save", ""⟩ = none := by decide +kernel
  obtain ⟨stopped, -⟩ :=
    interrupt_is_latched {} {} [] (.run (· == 2) true script) [.get "n"]
      (.inr (.run 1 clicked (.inr ⟨whole, rfl⟩)))
  exact ⟨latched, waits 0, paused, turned ⟨.assertion⟩, fault, calls.trans (by decide +kernel),
    (vars "late").trans (by decide +kernel), waited, stopped⟩

end Operation

end Rowscript
