/-!
# Trace — records of what happens, for those who look on

A record has a level, the place it comes from, a message and named fields.  Records change nothing:
they are kept in order and shown to whoever asks for their level.
-/

namespace Rowscript

/-- How urgent a record is, the most urgent first. -/
inductive Level where
  | error
  | warn
  | info
  | debug
  | trace
  deriving DecidableEq, Repr

namespace Level

/-- Zero for the most urgent. -/
def rank : Level → Nat
  | error => 0
  | warn => 1
  | info => 2
  | debug => 3
  | trace => 4

def name : Level → String
  | error => "ERROR"
  | warn => "WARN"
  | info => "INFO"
  | debug => "DEBUG"
  | trace => "TRACE"

/-- All levels, the most urgent first. -/
def all : List Level := [error, warn, info, debug, trace]

end Level

/-- One thing that happened. -/
structure Record where
  level : Level
  /-- The place it comes from. -/
  target : String
  message : String
  fields : List (String × String) := []
  deriving DecidableEq, Repr

namespace Record

/-- The record is at the level asked for, or more urgent. -/
def isWithin (r : Record) (level : Level) : Bool := r.level.rank ≤ level.rank

/-- A record as a line of text, without its level: the target, the message and the fields. -/
def text (r : Record) : String :=
  s!"{r.target}: {r.message}" ++ String.join (r.fields.map fun (name, value) => s!" {name}={value}")

/-! ## The records of a run -/

def runStarted (name : String) (rows : Nat) : Record :=
  ⟨.info, "selenese::testing::runner", "running test", [("name", name), ("steps", toString rows)]⟩

def forwarded (command : String) : Record :=
  ⟨.trace, "selenese::testing::runner", "forwarding to driver", [("command", command)]⟩

def rowFailed (row : Nat) (command outcome : String) : Record :=
  ⟨.warn, "selenese::testing::runner", "step failed",
    [("row", toString row), ("command", command), ("outcome", outcome)]⟩

def rowDone (row : Nat) (command outcome : String) : Record :=
  ⟨.debug, "selenese::testing::runner", "step done",
    [("row", toString row), ("command", command), ("outcome", outcome)]⟩

def nothingToWrap (failure : String) : Record :=
  ⟨.warn, "selenese::testing::runner",
    "script ended with no command for the last ...OnNext to wrap", [("failure", failure)]⟩

def stored (name value : String) : Record :=
  ⟨.debug, "selenese::steps::state", "store", [("name", name), ("value", value)]⟩

def echoed (line : String) : Record := ⟨.info, "selenese::echo", line, []⟩

def pausing (ms : Nat) : Record :=
  ⟨.debug, "selenese::steps::builtin", "pausing", [("millis", toString ms)]⟩

def pauseInterrupted (ms : Nat) : Record :=
  ⟨.error, "selenese::steps::builtin", "pause interrupted", [("millis", toString ms)]⟩

def dryRun (command args : String) : Record :=
  ⟨.info, "selenese::steps::driver", "dry run", [("command", command), ("args", args)]⟩

def driverFailed (command error : String) : Record :=
  ⟨.debug, "selenese::steps::driver", "driver command failed",
    [("command", command), ("error", error)]⟩

def judging (actual failure : String) : Record :=
  ⟨.debug, "selenese::steps::outcome", "evaluating wrapped step",
    [("actual", actual), ("failure", failure)]⟩

def commandsListed (count : Nat) : Record :=
  ⟨.debug, "selenese::steps::registry", "built command registry", [("commands", toString count)]⟩

/-- The first record of a run. -/
def opensRun (r : Record) : Bool :=
  r.target == "selenese::testing::runner" && r.message == "running test"

/-! ## The record of a signal -/

def signalled : Record := ⟨.warn, "selenese::cli", "interrupt received", []⟩

end Record

end Rowscript
