import Rowscript.CommandLine.LogFilter
import Rowscript.Fault

/-!
# CommandLine/Transcript — what a command line does, seen from outside

Effects in order, and at the end a fault or none.
-/

namespace Rowscript.CommandLine

/-- Something seen from outside. -/
inductive Effect where
  /-- A text on the standard output. -/
  | print (text : String)
  | record (r : Record)
  /-- A wait, in milliseconds. -/
  | wait (ms : Nat)
  deriving DecidableEq, Repr

/-- What a command line does. -/
structure Transcript where
  effects : List Effect := []
  fault : Option Fault := none
  deriving DecidableEq, Repr

/-- Records with the waits that some of them announce, each right behind its record. -/
def Effect.ofRecords : (waits : List Nat) → List Record → List Effect
  | _, [] => []
  | [], r :: rs => record r :: ofRecords [] rs
  | ms :: waits, r :: rs =>
    if r == .pausing ms then record r :: wait ms :: ofRecords waits rs
    else record r :: ofRecords (ms :: waits) rs

namespace Transcript

/-- A fault before anything was done. -/
def ofFault (fault : Fault) : Transcript := { fault := some fault }

/-- **The standard output.** -/
def output (t : Transcript) : String :=
  String.join (t.effects.map fun
    | .print text => text
    | _ => "")

/-- A record as it is shown. -/
def recordLine (r : Record) : String := s!"{r.level.name} {r.text}"

/-- The line of the fault. -/
def faultLine (fault : Fault) : String := s!"Error: {fault.message}"

/-- **What is written beside the standard output**: the records that are shown, and the fault. -/
def messages (t : Transcript) (filter : LogFilter) : List String :=
  t.effects.flatMap (fun
    | .record r => if filter.shows r then [recordLine r] else []
    | _ => []) ++
  (t.fault.map faultLine).toList

/-- **The exit status.** -/
def status (t : Transcript) : Nat := (t.fault.map Fault.exitCode).getD 0

end Transcript

end Rowscript.CommandLine
