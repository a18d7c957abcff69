import Rowscript.Outcome

/-!
# Command — the commands performed without a driver

`Command.ofName?` is the table of their names; a name it does not know goes to the driver.
-/

namespace Rowscript

/-- The built-in commands, in the order of their names. -/
inductive Command where
  | assertErrorOnNext
  | assertFailureOnNext
  | echo
  | pause
  | store
  | verifyErrorOnNext
  | verifyFailureOnNext
  deriving DecidableEq, Repr

namespace Command

def name : Command → String
  | assertErrorOnNext => "assertErrorOnNext"
  | assertFailureOnNext => "assertFailureOnNext"
  | echo => "echo"
  | pause => "pause"
  | store => "store"
  | verifyErrorOnNext => "verifyErrorOnNext"
  | verifyFailureOnNext => "verifyFailureOnNext"

/-- All commands, in the order of their names. -/
def all : List Command :=
  [assertErrorOnNext, assertFailureOnNext, echo, pause, store, verifyErrorOnNext,
    verifyFailureOnNext]

/-- All names, in order. -/
def names : List String := all.map name

/-- The table as it stands in a record. -/
def tableSpelling : String := s!"Registry \x7b commands: {Text.quotedList names} \x7d"

/-- The command of a name. -/
def ofName? (name : String) : Option Command := all.find? fun c => c.name == name

/-- **The kind of failure a command demands of the next row**, for the four that demand one. -/
def inverts? : Command → Option FailureKind
  | assertErrorOnNext | assertFailureOnNext => some .assertion
  | verifyErrorOnNext | verifyFailureOnNext => some .verification
  | echo | pause | store => none

theorem mem_all (c : Command) : c ∈ all := by cases c <;> decide

/-- **A name belongs to the command it names**, and to no other. -/
theorem ofName?_eq_some_iff {n : String} {c : Command} : ofName? n = some c ↔ c.name = n := by
  constructor
  · intro h
    simpa using List.find?_some h
  · rintro rfl
    cases c <;> rfl

theorem name_injective {c d : Command} (h : c.name = d.name) : c = d :=
  Option.some.inj ((ofName?_eq_some_iff.2 h).symm.trans (ofName?_eq_some_iff.2 rfl))

end Command

end Rowscript
