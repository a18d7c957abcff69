import Rowscript.Toml.Value

/-!
# Toml/Table — filling tables

A dotted key makes the tables on its way, and so does a header.  A table is defined once: what was
written between braces, or has a header of its own, is not reached by a dotted key, and a table that
dotted keys made gets no header.
-/

namespace Rowscript.Toml.Entries

/-- The value of a name. -/
def get? (entries : Entries) (name : String) : Option Value := entries.lookup name

/-- Gives a name that has a value another one. -/
def replace (entries : Entries) (name : String) (value : Value) : Entries :=
  entries.map fun entry => if entry.1 == name then (name, value) else entry

/-- Takes a name out. -/
def erase (entries : Entries) (name : String) : Entries := entries.filter (·.1 != name)

/-- **Gives a key its value**, behind the parts of the key in front of the last.  Every table on the
way lies open for dotted keys, and the last one was made by them. -/
def assign (value : Value) (name : String) : List String → Entries → Option Entries
  | [], entries => if (entries.get? name).isSome then none else some (entries ++ [(name, value)])
  | part :: parts, entries =>
    match entries.get? part with
    | none =>
      (assign value name parts []).map fun inner => entries ++ [(part, .table .dotted inner)]
    | some (.table .dotted inner) =>
      (assign value name parts inner).map fun inner =>
        entries.replace part (.table .dotted inner)
    | some (.table .passing inner) =>
      if parts.isEmpty then none
      else
        (assign value name parts inner).map fun inner =>
          entries.replace part (.table .passing inner)
    | some (.tables items) =>
      match items.getLast?, parts with
      | some last, _ :: _ =>
        (assign value name parts last).map fun last =>
          entries.replace part (.tables (items.dropLast ++ [last]))
      | _, _ => none
    | some _ => none

/-- Goes to the table behind the parts of a header in front of the last, and changes it. -/
def change (f : Entries → Option Entries) : List String → Entries → Option Entries
  | [], entries => f entries
  | part :: parts, entries =>
    match entries.get? part with
    | none => (change f parts []).map fun inner => entries ++ [(part, .table .passing inner)]
    | some (.table .braces _) => none
    | some (.table origin inner) =>
      (change f parts inner).map fun inner => entries.replace part (.table origin inner)
    | some (.tables items) =>
      items.getLast?.bind fun last =>
        (change f parts last).map fun last =>
          entries.replace part (.tables (items.dropLast ++ [last]))
    | some _ => none

/-- **Gives a header its table.**  A table on the way to others keeps what it holds, and moves to the
end. -/
def define (fill : Entries → Option Entries) (name : String) (entries : Entries) :
    Option Entries :=
  let inner? :=
    match entries.get? name with
    | none => some []
    | some (.table .passing inner) => some inner
    | some _ => none
  (inner?.bind fill).map fun inner => entries.erase name ++ [(name, .table .header inner)]

/-- **Gives a header in double brackets one more table.** -/
def append (fill : Entries → Option Entries) (name : String) (entries : Entries) :
    Option Entries :=
  match entries.get? name with
  | none => (fill []).map fun inner => entries ++ [(name, .tables [inner])]
  | some (.tables items) =>
    (fill []).map fun inner => entries.replace name (.tables (items ++ [inner]))
  | some _ => none

end Rowscript.Toml.Entries
