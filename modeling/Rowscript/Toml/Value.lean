import Rowscript.Mismatch

/-!
# Toml/Value — the values of a settings file
-/

namespace Rowscript.Toml

/-- How a table came about.  It decides what may still be added to it. -/
inductive Origin where
  /-- Written between braces; it is complete. -/
  | braces
  /-- Named by a header of its own. -/
  | header
  /-- On the way to the table that a header names. -/
  | passing
  /-- On the way to the value of a dotted key. -/
  | dotted
  deriving DecidableEq, Repr

/-- A value. -/
inductive Value where
  | text (s : String)
  | integer (n : Int)
  | float (x : Binary64)
  | boolean (b : Bool)
  /-- A date, a time or both, in their usual form. -/
  | date (s : String)
  | array (items : List Value)
  | table (origin : Origin) (entries : List (String × Value))
  /-- The tables that share a header in double brackets. -/
  | tables (items : List (List (String × Value)))

/-- The entries of a table, in the order in which they were made. -/
abbrev Entries := List (String × Value)

/-- What is told of a value where something else is wanted. -/
def Value.found : Value → Found
  | text s => .text s
  | integer n => .integer n
  | float x => .float x
  | boolean b => .boolean b
  | date _ => .map
  | array _ => .sequence
  | table .. => .map
  | tables _ => .sequence

end Rowscript.Toml
