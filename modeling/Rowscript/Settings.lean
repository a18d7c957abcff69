import Rowscript.Variables

/-!
# Settings — what the configuration file sets
-/

namespace Rowscript

/-- The settings of a command line; without a file they are the defaults. -/
structure Settings where
  /-- Go on after a verdict that would stop the run. -/
  continueOnFailure : Bool := false
  /-- Values that every script starts with. -/
  vars : Variables := {}

end Rowscript
