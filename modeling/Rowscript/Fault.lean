/-!
# Fault — what can go wrong outside the verdict on a row

A row that fails is an `Outcome`.  A `Fault` is everything else: a file that cannot be read, a text
that is not what it should be, a driver that refuses, and the one cause that stops a run at once.
`Fault.message` holds all wordings.
-/

namespace Rowscript

/-- The causes. -/
inductive Fault where
  /-- The interrupt was set during a wait or between two rows. -/
  | interrupted
  | scriptRead (path detail : String)
  | scriptParse (path detail : String)
  | emptyScript (name : String)
  | testsFailed (failed total : Nat)
  | driverCommand (command detail : String)
  | configParse (detail : String)
  | invalidVariable (text : String)
  | io (detail : String)
  | fileRead (path detail : String)
  | json (detail : String)
  | internal (detail : String)
  deriving DecidableEq, Repr

namespace Fault

/-- What the user reads. -/
def message : Fault → String
  | interrupted => "Run interrupted while waiting; the session cannot continue safely"
  | scriptRead path detail => s!"Failed to read test script '{path}': {detail}"
  | scriptParse path detail => s!"Failed to parse test script '{path}': {detail}"
  | emptyScript name => s!"Test script '{name}' contains no commands"
  | testsFailed failed total => s!"{failed} of {total} test script(s) failed"
  | driverCommand command detail => s!"Driver command '{command}' failed: {detail}"
  | configParse detail => s!"Invalid configuration file: {detail}"
  | invalidVariable text => s!"Invalid variable assignment '{text}'. Expected NAME=VALUE"
  | io detail => s!"IO error: {detail}"
  | fileRead path detail => s!"Failed to read file '{path}': {detail}"
  | json detail => s!"JSON error: {detail}"
  | internal detail => s!"Internal error: {detail}"

/-- **Only an interrupt stops a run**; every other fault of a driver is a row's error. -/
def isFatal : Fault → Bool
  | interrupted => true
  | _ => false

/-- The exit status of a command line that ends with this fault. -/
def exitCode : Fault → Nat
  | interrupted => 255
  | _ => 1

theorem isFatal_iff {f : Fault} : f.isFatal = true ↔ f = .interrupted := by
  cases f <;> simp [isFatal]

end Fault

end Rowscript
