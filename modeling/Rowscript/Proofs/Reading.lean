import Mathlib.Data.List.Forall2
import Rowscript.CommandLine.Invocation
import Rowscript.Proofs.Assignment

/-!
# Proofs/Reading — what is read before any script is run

    settings ──▸ assignment ──▸ … ──▸ assignment ──▸ script ──▸ … ──▸ script ──▸ plan

Everything that a command line names is read in one order, and whatever cannot be read has a fault of
its own.  `RunRequest.faults` lists them all.  There is a plan if there are none, and then it holds
what was read (`RunRequest.plan_eq_ok_iff`); else the first of them is what is left of the command
line (`RunRequest.of?_plan`).
-/

namespace Rowscript

namespace Fault

variable {α β : Type}

/-- The fault of something that may have failed. -/
def of? : Except Fault α → Option Fault
  | .ok _ => none
  | .error fault => some fault

theorem of?_eq_none_iff {x : Except Fault α} : of? x = none ↔ ∃ a, x = .ok a := by
  cases x <;> simp [of?]

theorem of?_eq_some_iff {x : Except Fault α} {fault : Fault} :
    of? x = some fault ↔ x = .error fault := by
  cases x <;> simp [of?]

/-- What comes second fails only if what comes first does not. -/
theorem of?_bind {x : Except Fault α} {f : α → Except Fault β} {second : Option Fault}
    (h : ∀ a, of? (f a) = second) : of? (x.bind f) = (of? x).or second := by
  cases x with
  | error fault => rfl
  | ok a => exact h a

@[simp] theorem of?_map (x : Except Fault α) (f : α → β) : of? (x.map f) = of? x := by
  cases x <;> rfl

/-- **Of many steps the first that fails is the fault of all of them.** -/
theorem of?_mapM (f : α → Except Fault β) (l : List α) :
    of? (l.mapM f) = (l.filterMap fun a => of? (f a)).head? := by
  induction l with
  | nil => rfl
  | cons a l ih =>
    rw [List.mapM_cons, List.filterMap_cons]
    cases f a with
    | error fault => rfl
    | ok b =>
      refine Eq.trans ?_ ih
      cases l.mapM f <;> rfl

end Fault

/-! ## Steps that may fail -/

section Steps

variable {α β ε ε' : Type}

/-- Two steps come to something if the second one does with what the first one comes to. -/
theorem bind_eq_ok_iff {x : Except ε α} {f : α → Except ε β} {b : β} :
    x.bind f = .ok b ↔ ∃ a, x = .ok a ∧ f a = .ok b := by
  cases x <;> simp [Except.bind]

theorem map_eq_ok_iff {x : Except ε α} {f : α → β} {b : β} :
    x.map f = .ok b ↔ ∃ a, x = .ok a ∧ f a = b := by
  cases x <;> simp [Except.map]

theorem mapError_eq_ok_iff {x : Except ε α} {f : ε → ε'} {a : α} :
    x.mapError f = .ok a ↔ x = .ok a := by
  cases x <;> simp [Except.mapError]

theorem mapError_eq_error_iff {x : Except ε α} {f : ε → ε'} {fault : ε'} :
    x.mapError f = .error fault ↔ ∃ cause, x = .error cause ∧ f cause = fault := by
  cases x <;> simp [Except.mapError]

/-- A step that is seen to succeed comes to something… -/
theorem exists_eq_ok_of_toBool {x : Except ε α} (h : x.toBool = true) : ∃ a, x = .ok a := by
  cases x with
  | ok a => exact ⟨a, rfl⟩
  | error e => cases h

/-- …and to what it is seen to come to. -/
theorem eq_ok_of_toOption {x : Except ε α} {a : α} (h : x.toOption = some a) : x = .ok a := by
  cases x with
  | ok b => exact congrArg Except.ok (Option.some.inj h)
  | error e => cases h

/-- **Many steps come to something if each of them does**, one to each. -/
theorem mapM_eq_ok_iff {f : α → Except ε β} {l : List α} {l' : List β} :
    l.mapM f = .ok l' ↔ List.Forall₂ (fun a b => f a = .ok b) l l' := by
  induction l generalizing l' with
  | nil =>
    rw [List.mapM_nil, List.forall₂_nil_left_iff]
    exact ⟨fun h => (Except.ok.inj h).symm, fun h => h ▸ rfl⟩
  | cons a l ih =>
    rw [List.mapM_cons, List.forall₂_cons_left_iff]
    change ((f a).bind fun b => (l.mapM f).bind fun bs => .ok (b :: bs)) = .ok l' ↔ _
    simp only [bind_eq_ok_iff, Except.ok.injEq, ih, exists_and_left, eq_comm (b := l')]

/-- Lists that are related element by element are split alike. -/
theorem forall₂_append_cons {R : α → β → Prop} {l : List α} {before behind : List β} {b : β}
    (h : List.Forall₂ R l (before ++ b :: behind)) :
    ∃ before' a behind', l = before' ++ a :: behind' ∧ R a b ∧ List.Forall₂ R behind' behind := by
  obtain ⟨a, behind', here, rest, split⟩ :=
    List.forall₂_cons_right_iff.1 (List.forall₂_drop_append l before _ h)
  exact ⟨l.take before.length, a, behind', by rw [← split, List.take_append_drop], here, rest⟩

end Steps

/-! ## What is read -/

/-- **A script is loaded if there is a file, its text is that of a script, and the script has a
row.** -/
theorem Script.load_eq_ok_iff {files : Files} {path : String} {script : Script} :
    load files path = .ok script ↔
      (∃ text, files path = .ok text ∧ ofText text = .ok script) ∧ script.rows ≠ [] := by
  unfold load
  cases files path with
  | error fault => simp
  | ok text =>
    cases read : ofText text with
    | error refusal => simp [read]
    | ok found =>
      cases rows : found.rows <;> simp +contextual [read, rows, eq_comm]

/-- So what is loaded has a row. -/
theorem Script.rows_ne_nil_of_loads {files : Files} {paths : List String} {scripts : List Script}
    (h : List.Forall₂ (fun path script => load files path = .ok script) paths scripts)
    {script : Script} (hs : script ∈ scripts) : script.rows ≠ [] := by
  obtain ⟨_, _, rfl⟩ := List.append_of_mem hs
  obtain ⟨_, path, _, -, loaded, -⟩ := forall₂_append_cons h
  exact (load_eq_ok_iff.1 loaded).2

namespace CommandLine.RunRequest

variable {r : RunRequest} {s : Surroundings}

/-- The plan of the request, once everything is read. -/
def planOf (r : RunRequest) (settings : Settings) (assignments : List Assignment)
    (scripts : List Script) : Plan :=
  ⟨r.continueOnFailure || settings.continueOnFailure, settings.vars, assignments, scripts⟩

/-- **The faults of what is read**, in the order in which it is read. -/
def faults (r : RunRequest) (s : Surroundings) : List Fault :=
  (Fault.of? (r.settings s)).toList ++
    r.assignments.filterMap (fun text => Fault.of? (Assignment.parse text)) ++
    r.scripts.filterMap fun path =>
      Fault.of? ((Script.load s.files path).mapError Script.LoadFault.toFault)

/-- There are none if the settings can be loaded, each assignment gives a name a value, and each
script can be loaded. -/
theorem faults_eq_nil_iff :
    r.faults s = [] ↔ (∃ settings, r.settings s = .ok settings) ∧
      (∀ text ∈ r.assignments, ∃ name value, Assignment.Assigns text name value ∧ name ≠ "") ∧
      ∀ path ∈ r.scripts, ∃ script, Script.load s.files path = .ok script := by
  have assigned : ∀ text, (∃ a, Assignment.parse text = .ok a) ↔
      ∃ name value, Assignment.Assigns text name value ∧ name ≠ "" := by
    intro text
    simp only [Assignment.parse_eq_ok_iff]
    exact ⟨fun ⟨a, h⟩ => ⟨a.name, a.value, h⟩, fun ⟨name, value, h⟩ => ⟨⟨name, value⟩, h⟩⟩
  simp only [faults, List.append_eq_nil_iff, Option.toList_eq_nil_iff, List.filterMap_eq_nil_iff,
    Fault.of?_eq_none_iff, mapError_eq_ok_iff, assigned, and_assoc]

/-- **What is left of a command line that cannot be read is the first fault.** -/
theorem of?_plan (r : RunRequest) (s : Surroundings) :
    Fault.of? (r.plan s) = (r.faults s).head? := by
  rw [plan, Fault.of?_bind fun _ => Fault.of?_bind fun _ => Fault.of?_map _ _, Fault.of?_mapM,
    Fault.of?_mapM, faults, List.head?_append, List.head?_append, Option.or_assoc]
  cases Fault.of? (r.settings s) <;> rfl

/-- **There is a plan if everything can be read**, and it holds what was read. -/
theorem plan_eq_ok_iff {p : Plan} :
    r.plan s = .ok p ↔ ∃ settings assignments scripts, r.settings s = .ok settings ∧
      r.assignments.mapM Assignment.parse = .ok assignments ∧
      List.Forall₂ (fun path script => Script.load s.files path = .ok script) r.scripts scripts ∧
      r.planOf settings assignments scripts = p := by
  have loads : ∀ scripts,
      (r.scripts.mapM fun path =>
        (Script.load s.files path).mapError Script.LoadFault.toFault) = .ok scripts ↔
      List.Forall₂ (fun path script => Script.load s.files path = .ok script) r.scripts
        scripts := by
    intro scripts
    rw [mapM_eq_ok_iff]
    simp only [mapError_eq_ok_iff]
  simp only [plan, bind_eq_ok_iff, map_eq_ok_iff, loads, planOf, exists_and_left]

/-- No fault of reading is an interrupt. -/
theorem exitCode_of_mem_faults {fault : Fault} (h : fault ∈ r.faults s) : fault.exitCode = 1 := by
  simp only [faults, List.mem_append, Option.mem_toList, List.mem_filterMap,
    Fault.of?_eq_some_iff] at h
  obtain (settings | ⟨text, -, refused⟩) | ⟨path, -, script⟩ := h
  · obtain ⟨cause, -, rfl⟩ := mapError_eq_error_iff.1 settings
    cases cause <;> rfl
  · obtain rfl := Assignment.eq_invalidVariable_of_parse refused
    rfl
  · obtain ⟨cause, -, rfl⟩ := mapError_eq_error_iff.1 script
    cases cause <;> rfl

/-- A command line that cannot be read does nothing and has the fault of it… -/
theorem perform_of_fault {fault : Fault} (h : r.plan s = .error fault) :
    r.perform s = .ofFault fault := by
  rw [perform, h]

/-- …and one that can be read is carried out. -/
theorem perform_of_plan {p : Plan} (h : r.plan s = .ok p) : r.perform s = p.run s r.json := by
  rw [perform, h]

end CommandLine.RunRequest

end Rowscript
