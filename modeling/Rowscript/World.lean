import Rowscript.Fault
import Rowscript.Template
import Rowscript.Text.Quoted
import Rowscript.Trace

/-!
# World — what a run acts on, and what it has done so far

The world outside is a driver, which answers calls, a sink, which receives lines, and whoever may set
the interrupt meanwhile.  Driver and sink see all they have received so far and nothing else.
`State` is what a run holds: its variables, the interrupt, and everything it has done to the world,
in order.
-/

namespace Rowscript

/-- A command for the driver. -/
structure Call where
  command : String
  args : List String
  deriving DecidableEq, Repr

/-- What the driver does with a call. -/
structure Answer where
  result : Except Fault String := .ok ""
  /-- The interrupt is set during the call. -/
  triggers : Bool := false
  /-- The driver leaves a record of the call, as one does that only pretends. -/
  isNoted : Bool := false

/-- **When somebody else sets the interrupt.**  It is looked at before each row and by the end of
each wait, so nothing more has to be known. -/
structure Outside where
  /-- In the newest of the waits so far. -/
  arrives : List Nat → Bool := fun _ => false
  /-- Behind the row with this number, before the next one starts. -/
  behind : Nat → Bool := fun _ => false

/-- **The world**: driver and sink are functions of what they have received so far, the newest
last. -/
structure World extends Outside where
  driver : List Call → Answer := fun _ => {}
  /-- Whether the interrupt is set by the newest line. -/
  sink : List String → Bool := fun _ => false

/-- The interrupt.  Once set it stays set. -/
inductive Interrupt where
  | clear
  | set
  deriving DecidableEq, Repr

/-- What a run holds, and what it has done. -/
structure State where
  vars : Variables := {}
  interrupt : Interrupt := .clear
  calls : List Call := []
  lines : List String := []
  /-- The waits, in milliseconds. -/
  waits : List Nat := []
  records : List Record := []

namespace State

/-- The state as it stands in a record: its variables and the interrupt. -/
def spelling (s : State) : String :=
  let entry := fun (name, value) => s!"{Text.quoted name}: {Text.quoted value}"
  let vars := ", ".intercalate (s.vars.entries.map entry)
  s!"TestState \x7b variables: \x7b{vars}\x7d, interrupted: {s.interrupt == .set}, .. \x7d"

/-- The interrupt is set. -/
def isInterrupted (s : State) : Bool := s.interrupt == .set

def note (s : State) (r : Record) : State := { s with records := s.records ++ [r] }

def trigger (s : State) : State := { s with interrupt := .set }

/-- Gives a name a value. -/
def store (s : State) (name value : String) : State :=
  { s.note (.stored name value) with vars := s.vars.insert name value }

/-- Gives every name of a map its value. -/
def seed (s : State) (v : Variables) : State :=
  v.entries.foldl (fun s entry => s.store entry.1 entry.2) s

def expand (s : State) (text : String) : String := s.vars.expand text

/-- Sends a line to the sink, which may set the interrupt. -/
def write (w : World) (s : State) (line : String) : State :=
  let s := { s.note (.echoed line) with lines := s.lines ++ [line] }
  if w.sink s.lines then s.trigger else s

/-- Sends a call to the driver, which may leave a record, and may set the interrupt before it
answers. -/
def call (w : World) (s : State) (c : Call) : Except Fault String × State :=
  let s := { s with calls := s.calls ++ [c] }
  let answer := w.driver s.calls
  let s := if answer.isNoted then s.note (.dryRun c.command (Text.quotedList c.args)) else s
  (answer.result, if answer.triggers then s.trigger else s)

/-- **Waits**, and tells whether the interrupt is set in the end; a wait that finds it set, or in
which it arrives, is cut short. -/
def wait (w : World) (s : State) (ms : Nat) : Bool × State :=
  let s := { s with waits := s.waits ++ [ms] }
  let cut := s.isInterrupted || w.arrives s.waits
  (cut, if cut then s.trigger else s)

/-- Behind a row: it has left its record, and the interrupt may be set before the next one. -/
def pass (w : World) (index : Nat) (r : Record) (s : State) : State :=
  if w.behind index then (s.note r).trigger else s.note r

end State

end Rowscript
