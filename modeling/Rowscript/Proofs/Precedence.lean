import Rowscript.Proofs.Isolation
import Rowscript.Proofs.Seeding

/-!
# Proofs/Precedence — what a name stands for when a script starts

    settings ◂ script ◂ assignment ◂ … ◂ assignment

Three parties give values to names: the settings, the script, and the assignments of the command line.
Each of them is laid over those before it, and of many assignments the last one counts.  `Precedence`
says so without a map and without an order in it, and that is how every script of a command line
starts (`Plan.starts_by_precedence`).
-/

namespace Rowscript

namespace Assignment

/-- None of the texts gives the name a value. -/
def Omits (texts : List String) (name : String) : Prop :=
  ∀ text ∈ texts, ∀ value, ¬Assigns text name value

/-- The name and the value. -/
def entry (a : Assignment) : String × String := (a.name, a.value)

/-- The entries are what the texts give, one by one. -/
def Give (texts : List String) (entries : List (String × String)) : Prop :=
  List.Forall₂ (fun text entry => Assigns text entry.1 entry.2) texts entries

theorem give_of_parse {texts : List String} {assignments : List Assignment}
    (h : texts.mapM parse = .ok assignments) : Give texts (assignments.map entry) := by
  rw [Give, List.forall₂_map_right_iff]
  exact (mapM_eq_ok_iff.1 h).imp fun _ _ parsed => (parse_eq_ok_iff.1 parsed).1

section Give

variable {texts : List String} {entries : List (String × String)} {name value : String}

/-- Where the texts omit a name, no entry has it. -/
theorem omits_iff (h : Give texts entries) :
    Omits texts name ↔ ∀ entry ∈ entries, entry.1 ≠ name := by
  induction h with
  | nil => simp [Omits]
  | @cons text entry texts entries here rest ih =>
    have spared : (∀ value, ¬Assigns text name value) ↔ entry.1 ≠ name := by
      constructor
      · rintro none rfl
        exact none _ here
      · intro other value given
        exact other (here.unique given).1
    rw [Omits, List.forall_mem_cons, List.forall_mem_cons, spared, ← ih, Omits]

theorem lookup_reverse_eq_none_iff (h : Give texts entries) :
    entries.reverse.lookup name = none ↔ Omits texts name := by
  rw [omits_iff h, List.lookup_eq_none_iff]
  simp only [List.mem_reverse, bne_iff_ne, ne_comm]

/-- **The last entry of a name is what the last text for it gives.** -/
theorem lookup_reverse_eq_some_iff (h : Give texts entries) :
    entries.reverse.lookup name = some value ↔ ∃ before text behind,
      texts = before ++ text :: behind ∧ Assigns text name value ∧ Omits behind name := by
  rw [Variables.lookup_reverse_eq_some_iff]
  constructor
  · rintro ⟨before, behind, rfl, last⟩
    obtain ⟨_, text, texts, rfl, here, rest⟩ := forall₂_append_cons h
    exact ⟨_, text, texts, rfl, here, (omits_iff rest).2 last⟩
  · rintro ⟨before, text, behind, rfl, here, last⟩
    obtain ⟨_, ⟨name', value'⟩, entries, rfl, given, rest⟩ := forall₂_append_cons h.flip
    obtain ⟨rfl, rfl⟩ := here.unique given
    exact ⟨_, entries, rfl, (omits_iff rest.flip).1 last⟩

end Give

end Assignment

namespace CommandLine

open Assignment (Assigns Omits)

/-- **What a name stands for when a script starts**: the value that the last assignment to it gives,
or else the script's own, or else that of the settings, or else nothing. -/
inductive Precedence (given : List String) (own settings : Variables) (name : String) :
    Option String → Prop
  | assigned (before : List String) (text : String) (behind : List String) (value : String)
      (split : given = before ++ text :: behind) (here : Assigns text name value)
      (last : Omits behind name) : Precedence given own settings name (some value)
  | own (value : String) (unassigned : Omits given name) (h : own.get? name = some value) :
      Precedence given own settings name (some value)
  | setting (value : String) (unassigned : Omits given name) (disowned : own.get? name = none)
      (h : settings.get? name = some value) : Precedence given own settings name (some value)
  | unset (unassigned : Omits given name) (disowned : own.get? name = none)
      (h : settings.get? name = none) : Precedence given own settings name none

/-- Precedence is what maps laid over each other come to. -/
theorem precedence_iff {given : List String} {entries : List (String × String)}
    (h : Assignment.Give given entries) {own settings : Variables} {name : String}
    {value : Option String} :
    Precedence given own settings name value ↔
      (entries.reverse.lookup name).or ((own.get? name).or (settings.get? name)) = value := by
  constructor
  · intro precedes
    cases precedes with
    | assigned before text behind value split here last =>
      rw [(Assignment.lookup_reverse_eq_some_iff h).2 ⟨before, text, behind, split, here, last⟩]
      rfl
    | own value unassigned owned =>
      rw [(Assignment.lookup_reverse_eq_none_iff h).2 unassigned, owned]
      rfl
    | setting value unassigned disowned set =>
      rw [(Assignment.lookup_reverse_eq_none_iff h).2 unassigned, disowned, set]
      rfl
    | unset unassigned disowned unset =>
      rw [(Assignment.lookup_reverse_eq_none_iff h).2 unassigned, disowned, unset]
      rfl
  · rintro rfl
    cases last : entries.reverse.lookup name with
    | some value =>
      obtain ⟨before, text, behind, split, here, last⟩ :=
        (Assignment.lookup_reverse_eq_some_iff h).1 last
      exact .assigned before text behind value split here last
    | none =>
      have unassigned := (Assignment.lookup_reverse_eq_none_iff h).1 last
      cases owned : own.get? name with
      | some value => exact .own value unassigned owned
      | none =>
        cases set : settings.get? name with
        | some value => exact .setting value unassigned owned set
        | none => exact .unset unassigned owned set

namespace Plan

/-- The assignments lie over the script's own variables, and those over the settings. -/
theorem get?_startVars (p : Plan) (script : Script) (name : String) :
    (p.startVars script).get? name
      = ((p.assignments.map Assignment.entry).reverse.lookup name).or
          ((script.vars.get? name).or (p.settings.get? name)) := by
  have laid : p.startVars script = (p.assignments.map Assignment.entry).foldl
      (fun v entry => v.insert entry.1 entry.2) (p.settings.overlay script.vars) := by
    rw [startVars, List.foldl_map]
    rfl
  rw [laid, Variables.get?_foldl_insert, Variables.get?_overlay]

/-- A script with these variables starts with them and with no others. -/
theorem get?_stage_zero (w : World) (script : Script) (interrupt : Interrupt) (name : String) :
    (script.stage w { interrupt := interrupt } 0).state.vars.get? name = script.vars.get? name := by
  refine ((Script.start_resembles script { interrupt := interrupt }).vars name).trans ?_
  change (Variables.overlay {} script.vars).get? name = _
  rw [Variables.get?_overlay, Variables.get?_empty, Option.or_none]

/-- **Whatever is reported, it is reported on a script that was run for itself**, with the variables
that it starts with and no others. -/
theorem runScripts_reports (p : Plan) (coloured json : Bool) {outside : Nat → Outside}
    {interrupt : Interrupt} {scripts : List Script} {reports : List Report}
    (h : (p.runScripts coloured json outside interrupt scripts).2 = .ok reports) :
    List.Forall₂ (fun script report => ∃ outside interrupt,
      ((p.prepare script).run (dryWorld outside) p.continueOnFailure
        { interrupt := interrupt }).1 = .ok report) scripts reports := by
  induction scripts generalizing outside interrupt reports with
  | nil =>
    cases h
    exact .nil
  | cons script rest ih =>
    rw [runScripts] at h
    dsimp only at h
    split at h
    case h_1 => cases h
    case h_2 report reported =>
      obtain ⟨others, all, rfl⟩ := map_eq_ok_iff.1 h
      exact .cons ⟨outside 0, interrupt, reported⟩ (ih all)

end Plan

end CommandLine

end Rowscript
