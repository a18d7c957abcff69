import Rowscript.Fault
import Rowscript.Text.Blank

/-!
# Assignment — `NAME=VALUE`

The first equals sign ends the name.  The name loses the blanks at its ends and must have something
left; the value is everything behind the sign, as it stands.
-/

namespace Rowscript

/-- A name and the value it is given. -/
structure Assignment where
  name : String
  value : String
  deriving DecidableEq, Repr

namespace Assignment

/-- The parts before and behind the first equals sign. -/
def halves? : List Char → Option (List Char × List Char)
  | [] => none
  | '=' :: cs => some ([], cs)
  | c :: cs => (halves? cs).map fun (name, value) => (c :: name, value)

/-- **Reads an assignment.**  A text without a sign or without a name is refused as it stands. -/
def parse (text : String) : Except Fault Assignment :=
  match halves? text.toList with
  | none => .error (.invalidVariable text)
  | some (name, value) =>
    match Text.trim name with
    | [] => .error (.invalidVariable text)
    | c :: cs => .ok ⟨String.ofList (c :: cs), String.ofList value⟩

end Assignment

end Rowscript
