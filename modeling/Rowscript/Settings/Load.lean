import Rowscript.Fault
import Rowscript.File
import Rowscript.Settings.Location
import Rowscript.Settings.Reader

/-!
# Settings/Load — settings from files

The file that is asked for has to be there.  Where none is asked for, the usual one is read if it is
there, and without it everything is as it is by default.
-/

namespace Rowscript.Settings

/-- Why settings cannot be loaded. -/
inductive LoadFault where
  | unreadable (path : String) (fault : ReadFault)
  | refused (refusal : Refusal)
  deriving DecidableEq, Repr

/-- The same as a fault of the program. -/
def LoadFault.toFault : LoadFault → Fault
  | unreadable path fault => .fileRead path fault.message
  | refused refusal => .configParse refusal.message

/-- **The settings in a file.** -/
def load (files : Files) (path : String) : Except LoadFault Settings :=
  match files path with
  | .error fault => .error (.unreadable path fault)
  | .ok text =>
    match ofText text with
    | .error refusal => .error (.refused refusal)
    | .ok settings => .ok settings

/-- Nothing is at a path. -/
def isAbsent (files : Files) (path : String) : Bool :=
  match files path with
  | .error .notFound | .error .notDirectory => true
  | _ => false

/-- **The settings at the usual place.** -/
def loadUsual (files : Files) (env : Environment) : Except LoadFault Settings :=
  match env.configPath? with
  | none => .ok {}
  | some path => if isAbsent files path then .ok {} else load files path

end Rowscript.Settings
