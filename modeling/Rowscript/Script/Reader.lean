import Rowscript.Refusal
import Rowscript.Script
import Rowscript.Yaml.Document
import Rowscript.Yaml.Scalar.Value

/-!
# Script/Reader — the script that a document holds

The document is a mapping with the fields of a script, its rows are mappings with theirs.  Entries
are read in the order in which they stand, so the first mismatch is the one that is told; fields
that are missing come behind all entries.  Other entries are left out, but they have to be
well-formed.

A text stands for itself whatever it means elsewhere: `5` is the text of one digit.
-/

namespace Rowscript

open Yaml (Node Document Scalar)

/-! ## Readings -/

/-- **What comes of reading**: how often a node was asked for that another one stands for, up to the
first refusal, and the outcome. -/
structure Reading (α : Type) where
  jumps : Nat
  result : Except Refusal α

namespace Reading

variable {α β : Type}

def ok (a : α) : Reading α := ⟨0, .ok a⟩

def error (refusal : Refusal) : Reading α := ⟨0, .error refusal⟩

def map (f : α → β) (r : Reading α) : Reading β := ⟨r.jumps, r.result.map f⟩

/-- Goes on with what was read. -/
def bind (r : Reading α) (f : α → Reading β) : Reading β :=
  match r with
  | ⟨jumps, .ok a⟩ =>
    let next := f a
    ⟨next.jumps + jumps, next.result⟩
  | ⟨jumps, .error refusal⟩ => ⟨jumps, .error refusal⟩

@[simp] theorem ok_bind (a : α) (f : α → Reading β) : (ok a).bind f = f a := rfl

@[simp] theorem map_ok (f : α → β) (a : α) : (ok a).map f = ok (f a) := rfl

/-- What is done in turn is counted together. -/
theorem bind_eq {r : Reading α} {f : α → Reading β} {i j : Nat} {a : α} {result : Except Refusal β}
    (first : r = ⟨i, .ok a⟩) (further : f a = ⟨j, result⟩) : r.bind f = ⟨j + i, result⟩ := by
  rw [first]
  exact congrArg (fun next : Reading β => (⟨next.jumps + i, next.result⟩ : Reading β)) further

end Reading

/-! ## Looking at nodes -/

namespace Yaml

/-- A node that stands for another one is left for that one. -/
def Node.jumps : Node → Nat
  | .reference _ => 1
  | _ => 0

namespace Document

/-- The node that another stands for. -/
def follow (d : Document) : Node → Node
  | .reference number => (d.target? number).getD .torn
  | n => n

/-- A text. -/
def text (d : Document) (wanted : Wanted) (place : Place) (n : Node) : Reading String where
  jumps := n.jumps
  result :=
    match d.follow n with
    | .scalar _ s => .ok s.text
    | .sequence .. => .error (.mismatch place (.wrongType .sequence wanted))
    | .mapping .. => .error (.mismatch place (.wrongType .map wanted))
    | .reference _ | .torn => .error .malformed

/-- A text that may be missing: nothing, or a word for nothing, is none. -/
def optionalText (d : Document) (place : Place) (n : Node) : Reading (Option String) where
  jumps := n.jumps
  result :=
    match d.follow n with
    | .scalar _ ⟨text, true, none⟩ =>
      .ok (if text.isEmpty || Scalar.isNull text then none else some text)
    | .scalar _ ⟨text, true, some "tag:yaml.org,2002:null"⟩ =>
      if Scalar.isNull text then .ok none else .error (.mismatch place (.wrongValue text .null))
    | _ => (d.text .text place n).result.map some

/-- The items of a sequence; nothing is a sequence without any. -/
def items (d : Document) (place : Place) (n : Node) : Reading (List Node) where
  jumps := n.jumps
  result :=
    match d.follow n with
    | .sequence _ items => .ok items
    | .scalar _ s => if s.isBlank then .ok [] else .error (.mismatch place (s.mismatch .sequence))
    | .mapping .. => .error (.mismatch place (.wrongType .map .sequence))
    | .reference _ | .torn => .error .malformed

/-- The entries of a mapping; nothing is a mapping without any. -/
def entries (d : Document) (wanted : Wanted) (place : Place) (n : Node) :
    Reading (List (Node × Node)) where
  jumps := n.jumps
  result :=
    match d.follow n with
    | .mapping _ entries => .ok entries
    | .scalar _ s => if s.isBlank then .ok [] else .error (.mismatch place (s.mismatch wanted))
    | .sequence .. => .error (.mismatch place (.wrongType .sequence wanted))
    | .reference _ | .torn => .error .malformed

end Document

end Yaml

/-- The place of the value of a key. -/
def Place.value (place : Place) (key : Node) (name : String) : Place :=
  match key with
  | .reference _ => .unnamed place
  | _ => .member place name

/-! ## Fields -/

/-- Gives a field its value, unless it has one. -/
def once {α : Type} (place : Place) (name : String) (old : Option α) (read : Reading α) :
    Reading (Option α) :=
  match old with
  | some _ => .error (.mismatch place (.duplicateField name))
  | none => read.map some

/-- The value of a field that has to have one. -/
def required {α : Type} (place : Place) (name : String) : Option α → Reading α
  | some a => .ok a
  | none => .error (.mismatch place (.missingField name))

/-- An entry that is left out. -/
def leaveOut {δ : Type} (v : Node) (draft : δ) : Reading δ :=
  if v.isWhole then .ok draft else .error .malformed

/-- Reads the entries of a mapping one by one. -/
def readFields {δ : Type} (d : Document) (place : Place)
    (set : String → Place → Node → δ → Reading δ) : List (Node × Node) → δ → Reading δ
  | [], draft => .ok draft
  | (k, v) :: es, draft =>
    (d.text .fieldName place k).bind fun name =>
      (set name (place.value k name) v draft).bind (readFields d place set es)

/-! ## Rows -/

/-- The fields of a row that have been read. -/
structure RowDraft where
  command : Option String := none
  locator : Option String := none
  value : Option String := none

namespace RowDraft

def set (d : Document) (row : Place) (name : String) (place : Place) (v : Node)
    (draft : RowDraft) : Reading RowDraft :=
  match name with
  | "command" =>
    (once row name draft.command (d.text .text place v)).map ({ draft with command := · })
  | "locator" =>
    (once row name draft.locator (d.text .text place v)).map ({ draft with locator := · })
  | "value" => (once row name draft.value (d.text .text place v)).map ({ draft with value := · })
  | _ => leaveOut v draft

/-- Cells that are not given are empty. -/
def finish (draft : RowDraft) (place : Place) : Reading Row :=
  (required place "command" draft.command).map fun command =>
    ⟨command, draft.locator.getD "", draft.value.getD ""⟩

end RowDraft

/-- **The row that a node holds.** -/
def Row.ofNode (d : Document) (place : Place) (n : Node) : Reading Row :=
  (d.entries (.record "ScriptCommand") place n).bind fun entries =>
    (readFields d place (RowDraft.set d place) entries {}).bind (·.finish place)

/-- The rows that nodes hold, the first of them at an index. -/
def Row.ofNodes (d : Document) (place : Place) : Nat → List Node → Reading (List Row)
  | _, [] => .ok []
  | index, n :: ns =>
    (Row.ofNode d (.item place index) n).bind fun row =>
      (Row.ofNodes d place (index + 1) ns).map (row :: ·)

/-! ## Scripts -/

/-- Texts by their names, of which the last of a name counts. -/
def Variables.ofEntries (d : Document) (place : Place) :
    List (Node × Node) → Variables → Reading Variables
  | [], v => .ok v
  | (k, n) :: es, v =>
    (d.text .text place k).bind fun name =>
      (d.text .text (place.value k name) n).bind fun text =>
        Variables.ofEntries d place es (v.insert name text)

/-- The fields of a script that have been read. -/
structure ScriptDraft where
  name : Option String := none
  description : Option (Option String) := none
  vars : Option Variables := none
  rows : Option (List Row) := none

namespace ScriptDraft

def set (d : Document) (name : String) (place : Place) (v : Node) (draft : ScriptDraft) :
    Reading ScriptDraft :=
  match name with
  | "name" => (once .root name draft.name (d.text .text place v)).map ({ draft with name := · })
  | "description" =>
    (once .root name draft.description (d.optionalText place v)).map
      ({ draft with description := · })
  | "variables" =>
    (once .root name draft.vars
      ((d.entries .map place v).bind (Variables.ofEntries d place · {}))).map
        ({ draft with vars := · })
  | "commands" =>
    (once .root name draft.rows ((d.items place v).bind (Row.ofNodes d place 0))).map
      ({ draft with rows := · })
  | _ => leaveOut v draft

/-- A name and rows have to be given. -/
def finish (draft : ScriptDraft) : Reading Script :=
  (required .root "name" draft.name).bind fun name =>
    (required .root "commands" draft.rows).map fun rows =>
      ⟨name, draft.description.getD none, draft.vars.getD {}, rows⟩

end ScriptDraft

/-- Reads the script of a document.  A mismatch is told before a text that is not well-formed behind
it. -/
def Script.reading (d : Document) : Reading Script :=
  (d.entries (.record "TestScript") .root d.root).bind fun entries =>
    (readFields d .root (ScriptDraft.set d) entries {}).bind fun draft =>
      draft.finish.bind fun script => if d.isWhole then .ok script else .error .malformed

/-- **The document is over the limit.**  Nodes that stand for others may be asked for a hundred times
as often as the document has events: a short text could else go on for very long. -/
def Script.Overruns (d : Document) : Prop := 100 * d.root.events < (Script.reading d).jumps

instance (d : Document) : Decidable (Script.Overruns d) := inferInstanceAs (Decidable (_ < _))

/-- **The script that a document holds.** -/
def Script.ofDocument (d : Document) : Except Refusal Script :=
  if Script.Overruns d then .error .repetitive else (Script.reading d).result

end Rowscript
