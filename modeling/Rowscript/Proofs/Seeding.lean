import Rowscript.Proofs.Progress
import Rowscript.Proofs.Resemblance

/-!
# Proofs/Seeding — the variables of a script, and the variables it is started with

    state         ──variables──▸ first row ──rows──▸ end
    state + variables ─────────▸ first row ──rows──▸ end

A script stores its variables and then runs its rows.  So it does what it does without them on a state
in which they are laid over what is there already: whether a value comes from the one or from the
other, and in which order values are stored, no row can tell (`Script.run_seeded`).
-/

namespace Rowscript

namespace State

/-- **Seeding touches the variables alone**, but for records. -/
theorem seed_resembles (s : State) (v : Variables) :
    (s.seed v).Resembles (s.withVars (s.vars.overlay v)) where
  vars := seed_vars s v ▸ .refl _
  interrupt := seed_keeps State.interrupt (fun _ _ _ => rfl) s v
  calls := seed_keeps State.calls store_calls s v
  lines := seed_keeps State.lines store_lines s v
  waits := seed_keeps State.waits (fun _ _ _ => rfl) s v

/-- Maps that say the same, laid over states that resemble each other, make no difference. -/
theorem Resembles.overlay {s t : State} {v w : Variables} (h : s.Resembles t)
    (same : v.Resembles w) :
    (s.withVars (s.vars.overlay v)).Resembles (t.withVars (t.vars.overlay w)) :=
  ⟨h.vars.overlay same, h.interrupt, h.calls, h.lines, h.waits⟩

end State

namespace Script

/-- The script with other variables. -/
def withVars (script : Script) (v : Variables) : Script := { script with vars := v }

variable {script : Script} {s : State}

/-- **Before the first row the script's variables lie over those of the state**, as they stand. -/
theorem start_resembles (script : Script) (s : State) :
    (script.start s).state.Resembles (s.withVars (s.vars.overlay script.vars)) :=
  (State.seed_resembles _ _).trans ((s.agrees_note _).resembles.overlay (.refl _))

/-- **Where values come from makes no difference to a run**, as long as the two maps, laid over each
other, say the same. -/
theorem run_withVars_resembles (script : Script) {u v : Variables} {s t : State}
    (h : (s.withVars (s.vars.overlay u)).Resembles (t.withVars (t.vars.overlay v))) (w : World)
    (regardless : Bool) :
    ((script.withVars u).run w regardless s).1 = ((script.withVars v).run w regardless t).1 ∧
      ((script.withVars u).run w regardless s).2.Resembles
        ((script.withVars v).run w regardless t).2 := by
  have start : ((script.withVars u).start s).state.Resembles ((script.withVars v).start t).state :=
    ((start_resembles (script.withVars u) s).trans h).trans
      (start_resembles (script.withVars v) t).symm
  exact run_resembles (script.withVars u) (script.withVars v) rfl rfl start w regardless

/-- An interrupt that is there at the start is the end, behind the variables and before the rows. -/
theorem ending_of_interrupted (w : World) (regardless : Bool) (h : s.isInterrupted = true)
    (rows : script.rows ≠ []) :
    (script.ending w regardless s).fault = some .interrupted ∧
      (script.ending w regardless s).state = (script.start s).state := by
  obtain ⟨row, rest, split⟩ := List.exists_cons_of_ne_nil rows
  have still : (script.start s).state.isInterrupted = true := by
    rw [State.isInterrupted, (start_resembles script s).interrupt]
    exact h
  have broke : (script.start s).fault? w row = some .interrupted :=
    Stage.fault?_eq_some_iff.2 ⟨rfl, .inl still⟩
  rw [ending, split, Stage.run_cons_of_fault broke]
  exact ⟨rfl, if_pos still⟩

/-- **Variables of the script are as good as variables of the state.**  The script, whatever order
its variables are gone through in, does what it does without them on the state that has them laid over
its own: it ends alike, with the same report or the same fault, and leaves the same.  They are stored
as they stand.  States that resemble each other are started from alike; and if the interrupt is there
from the start, no row is run, but the variables are stored. -/
theorem run_seeded (w : World) (regardless : Bool) (script : Script) (s : State) :
    let overlaid := s.withVars (s.vars.overlay script.vars)
    let bare := (script.withVars {}).run w regardless overlaid
    (∀ name, overlaid.vars.get? name = (script.vars.get? name).or (s.vars.get? name)) ∧
    (∀ v : Variables, v.entries.Perm script.vars.entries →
      let seeded := (script.withVars v).run w regardless s
      seeded.1 = bare.1 ∧ seeded.2.Resembles bare.2 ∧
        ∀ name, ((script.withVars v).stage w s 0).state.vars.get? name
          = (script.vars.get? name).or (s.vars.get? name)) ∧
    (∀ t, s.Resembles t →
      (script.run w regardless s).1 = (script.run w regardless t).1 ∧
        (script.run w regardless s).2.Resembles (script.run w regardless t).2) ∧
    (s.isInterrupted = true → script.rows ≠ [] →
      (script.run w regardless s).1 = .error .interrupted ∧
        (script.run w regardless s).2.Resembles overlaid) := by
  intro overlaid bare
  have laid : ∀ name, overlaid.vars.get? name = (script.vars.get? name).or (s.vars.get? name) :=
    s.vars.get?_overlay script.vars
  refine ⟨laid, fun v perm => ?_, fun t same => ?_, fun interrupted rows => ?_⟩
  · have under : (s.withVars (s.vars.overlay v)).Resembles overlaid :=
      (State.Resembles.refl s).overlay (Variables.resembles_of_perm perm)
    obtain ⟨report, left⟩ :=
      script.run_withVars_resembles (t := overlaid) (v := {}) under w regardless
    have start := (start_resembles (script.withVars v) s).trans under
    exact ⟨report, left, fun name => (start.vars name).trans (laid name)⟩
  · exact script.run_withVars_resembles (same.overlay (.refl script.vars)) w regardless
  · obtain ⟨fault, state⟩ := ending_of_interrupted w regardless interrupted rows
    refine ⟨run_fst_eq_error_iff.2 fault, ?_⟩
    have left := (run_snd_agrees w regardless script s).resembles
    rw [state] at left
    exact left.trans (start_resembles script s)

/-- Two variables of the script, of which one holds the other's placeholder, stored the other way
round: the one value hides what the state has, and the other is not expanded before it is stored. -/
theorem run_seeded_echo :
    let vars := Variables.ofList [("x", "over"), ("y", "${x}")]
    let turned := Variables.ofList [("y", "${x}"), ("x", "over")]
    let script : Script := {
      name := "seeded"
      vars := vars
      rows := [⟨"echo", "${y}", ""⟩, ⟨"click", "${x}", "${z}"⟩] }
    let s : State := { vars := Variables.ofList [("x", "under"), ("z", "left")] }
    let seeded := (script.withVars turned).run {} false s
    let bare := (script.withVars {}).run {} false (s.withVars (s.vars.overlay vars))
    turned.entries ≠ vars.entries ∧ seeded.1 = bare.1 ∧ seeded.2.Resembles bare.2 ∧
      bare.2.lines = ["${x}"] ∧ bare.2.calls = [⟨"click", ["over", "left"]⟩] ∧
      (script.run {} false s.trigger).1 = .error .interrupted ∧
      (script.run {} false s.trigger).2.vars.get? "x" = some "over" := by
  intro vars turned script s seeded bare
  obtain ⟨-, same, -, -⟩ := run_seeded {} false script s
  obtain ⟨report, left, -⟩ := same turned (by decide +kernel)
  obtain ⟨laid, -, -, stopped⟩ := run_seeded {} false script s.trigger
  obtain ⟨fault, stored⟩ := stopped rfl (by decide)
  exact ⟨by decide +kernel, report, left, by decide +kernel, by decide +kernel, fault,
    (stored.vars "x").trans ((laid "x").trans (by decide +kernel))⟩

end Script

end Rowscript
