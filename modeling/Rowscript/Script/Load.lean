import Rowscript.Fault
import Rowscript.File
import Rowscript.Script.Reader

/-!
# Script/Load — scripts from files

A file is read, its text is taken as a document, and the document has to hold a script with a row at
least.
-/

namespace Rowscript.Script

/-- Why a script cannot be loaded. -/
inductive LoadFault where
  | unreadable (path : String) (fault : ReadFault)
  | refused (path : String) (refusal : Refusal)
  /-- The script has no rows. -/
  | empty (name : String)
  deriving DecidableEq, Repr

/-- The same as a fault of the program. -/
def LoadFault.toFault : LoadFault → Fault
  | unreadable path fault => .scriptRead path fault.message
  | refused path refusal => .scriptParse path refusal.message
  | empty name => .emptyScript name

/-- The script of a text. -/
def ofText (text : String) : Except Refusal Script := ofDocument (Yaml.Document.ofText text)

/-- **The script in a file.** -/
def load (files : Files) (path : String) : Except LoadFault Script :=
  match files path with
  | .error fault => .error (.unreadable path fault)
  | .ok text =>
    match ofText text with
    | .error refusal => .error (.refused path refusal)
    | .ok script => if script.rows.isEmpty then .error (.empty script.name) else .ok script

end Rowscript.Script
