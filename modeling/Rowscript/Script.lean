import Rowscript.Variables

/-!
# Script — a table of rows to perform
-/

namespace Rowscript

/-- A row: a command and its two cells. -/
structure Row where
  command : String
  locator : String := ""
  value : String := ""
  deriving DecidableEq, Repr

/-- A script: its name, the variables it starts with, and its rows. -/
structure Script where
  name : String
  description : Option String := none
  vars : Variables := {}
  rows : List Row

end Rowscript
