import Rowscript.Refusal
import Rowscript.Settings
import Rowscript.Toml.Reader

/-!
# Settings/Reader — the settings that a file holds

Two entries of the file count: `runner`, with what a run is to do, and `variables`.  They are read in
the order in which they stand, so the first mismatch is the one that is told.  Everything else is
left out.
-/

namespace Rowscript.Settings

open Toml (Value Entries)

/-- Something else is wanted than a value. -/
def refuse {α : Type} (v : Value) (wanted : Wanted) : Except Refusal α :=
  .error (.mismatch .root (.wrongType v.found wanted))

/-- A truth value; false where there is none. -/
def flag : Option Value → Except Refusal Bool
  | none => .ok false
  | some (.boolean b) => .ok b
  | some v => refuse v .boolean

/-- Whether to go on after a verdict that would stop the run: an entry of a table, or the first item
of a list.  A date is a table without that entry. -/
def runner : Value → Except Refusal Bool
  | .table _ entries => flag (entries.lookup "continue_on_failure")
  | .array items => flag items.head?
  | .tables items => flag (items.head?.map (.table .header))
  | .date _ => .ok false
  | v => refuse v (.record "RunnerConfig")

/-- A date taken as a table has this entry. -/
def dateEntry : String := "$__toml_private_datetime"

/-- Gives every name of a table its text. -/
def texts : Entries → Variables → Except Refusal Variables
  | [], v => .ok v
  | (name, .text s) :: entries, v => texts entries (v.insert name s)
  | (_, value) :: _, _ => refuse value .text

/-- The variables of a table. -/
def variablesOf : Value → Except Refusal Variables
  | .table _ entries => texts entries {}
  | .date s => .ok (({} : Variables).insert dateEntry s)
  | v => refuse v .map

/-- Reads an entry of the file. -/
def addEntry (settings : Settings) : String × Value → Except Refusal Settings
  | ("runner", v) => (runner v).map ({ settings with continueOnFailure := · })
  | ("variables", v) => (variablesOf v).map ({ settings with vars := · })
  | _ => .ok settings

/-- **The settings of a text.** -/
def ofText (text : String) : Except Refusal Settings :=
  match Entries.ofText text with
  | none => .error .malformed
  | some entries => entries.foldlM addEntry {}

end Rowscript.Settings
