import Rowscript.Step

/-!
# Proofs/Kind — the command of a row says what the row is

The command alone says which of five kinds of step a row is (`Row.kind`): it turns the next row
around, it is one of the three other commands in the table, or it goes to the driver.
-/

namespace Rowscript

/-! ## Names of commands -/

/-- The names of the commands that demand a failure of this kind of the next row. -/
def FailureKind.names : FailureKind → List String
  | assertion => ["assertErrorOnNext", "assertFailureOnNext"]
  | verification => ["verifyErrorOnNext", "verifyFailureOnNext"]

/-- They are the names of the commands of this kind. -/
theorem FailureKind.mem_names_iff {kind : FailureKind} {name : String} :
    name ∈ kind.names ↔ ∃ c : Command, c.inverts? = some kind ∧ c.name = name := by
  constructor
  · intro h
    cases kind with
    | assertion =>
      obtain rfl | rfl : name = "assertErrorOnNext" ∨ name = "assertFailureOnNext" := by
        simpa [names] using h
      · exact ⟨.assertErrorOnNext, rfl, rfl⟩
      · exact ⟨.assertFailureOnNext, rfl, rfl⟩
    | verification =>
      obtain rfl | rfl : name = "verifyErrorOnNext" ∨ name = "verifyFailureOnNext" := by
        simpa [names] using h
      · exact ⟨.verifyErrorOnNext, rfl, rfl⟩
      · exact ⟨.verifyFailureOnNext, rfl, rfl⟩
  · rintro ⟨c, hc, rfl⟩
    cases c <;> cases hc <;> simp [names, Command.name]

/-- …and so of no command that is not. -/
theorem FailureKind.ne_name_of_mem {kind : FailureKind} {name : String} (h : name ∈ kind.names)
    {c : Command} (hc : c.inverts? = none) : name ≠ c.name := by
  rintro rfl
  obtain ⟨d, hd, named⟩ := FailureKind.mem_names_iff.1 h
  rw [Command.name_injective named, hc] at hd
  cases hd

/-- The command turns the next row around. -/
def isInverting (name : String) : Bool :=
  name ∈ FailureKind.assertion.names ++ FailureKind.verification.names

theorem isInverting_iff {name : String} :
    isInverting name = true ↔ ∃ kind : FailureKind, name ∈ kind.names := by
  rw [isInverting, decide_eq_true_iff, List.mem_append]
  exact ⟨fun h => h.elim (⟨_, ·⟩) (⟨_, ·⟩), fun ⟨kind, h⟩ => by cases kind <;> simp [h]⟩

namespace Command

/-- A name outside the table is no command's name. -/
theorem ofName?_eq_none_iff {name : String} : ofName? name = none ↔ name ∉ names := by
  simp only [ofName?, List.find?_eq_none, names, List.mem_map, beq_iff_eq, not_exists, not_and]

theorem name_mem_names (c : Command) : c.name ∈ names := List.mem_map_of_mem (mem_all c)

theorem ne_name_of_notMem {name : String} (h : name ∉ names) (c : Command) : name ≠ c.name :=
  fun e => h (e ▸ name_mem_names c)

theorem step_of_inverts? {c : Command} {kind : FailureKind} (h : c.inverts? = some kind)
    (locator value : String) : c.step locator value = .invert kind := by
  cases c <;> cases h <;> rfl

end Command

/-! ## The five kinds -/

namespace Row

/-- **The five kinds of rows.** -/
inductive Kind (row : Row) : Prop
  | invert (kind : FailureKind) (named : row.command ∈ kind.names)
  | echo (named : row.command = "echo")
  | pause (named : row.command = "pause")
  | store (named : row.command = "store")
  | drive (unknown : row.command ∉ Command.names)

/-- Every row is of one of the five kinds. -/
theorem kind (row : Row) : row.Kind := by
  cases hc : Command.ofName? row.command with
  | none => exact .drive (Command.ofName?_eq_none_iff.1 hc)
  | some c =>
    have named : c.name = row.command := Command.ofName?_eq_some_iff.1 hc
    cases hk : c.inverts? with
    | some kind => exact .invert kind (FailureKind.mem_names_iff.2 ⟨c, hk, named⟩)
    | none =>
      cases c with
      | echo => exact .echo named.symm
      | pause => exact .pause named.symm
      | store => exact .store named.symm
      | _ => cases hk

variable {w : World} {row : Row} {s : State}

theorem step_of_invert {kind : FailureKind} (h : row.command ∈ kind.names) :
    row.step = .invert kind := by
  obtain ⟨c, hc, named⟩ := FailureKind.mem_names_iff.1 h
  rw [step, Command.ofName?_eq_some_iff.2 named]
  exact Command.step_of_inverts? hc _ _

theorem step_of_echo (h : row.command = "echo") : row.step = .echo row.locator := by
  rw [step, h]
  rfl

theorem step_of_pause (h : row.command = "pause") : row.step = .pause row.locator := by
  rw [step, h]
  rfl

theorem step_of_store (h : row.command = "store") :
    row.step = .store row.locator row.value := by
  rw [step, h]
  rfl

theorem step_of_drive (h : row.command ∉ Command.names) :
    row.step = .drive row.command row.locator row.value := by
  rw [step, Command.ofName?_eq_none_iff.2 h]

/-- An inverting command is known, and it is none of the other three. -/
theorem known_of_invert {kind : FailureKind} (h : row.command ∈ kind.names) :
    row.command ∈ Command.names ∧ row.command ≠ "echo" ∧ row.command ≠ "pause" ∧
      row.command ≠ "store" := by
  obtain ⟨c, -, named⟩ := FailureKind.mem_names_iff.1 h
  exact ⟨named ▸ c.name_mem_names, FailureKind.ne_name_of_mem h (c := .echo) rfl,
    FailureKind.ne_name_of_mem h (c := .pause) rfl, FailureKind.ne_name_of_mem h (c := .store) rfl⟩

theorem ne_of_unknown (h : row.command ∉ Command.names) :
    row.command ≠ "echo" ∧ row.command ≠ "pause" ∧ row.command ≠ "store" :=
  ⟨Command.ne_name_of_notMem h .echo, Command.ne_name_of_notMem h .pause,
    Command.ne_name_of_notMem h .store⟩

end Row

end Rowscript
