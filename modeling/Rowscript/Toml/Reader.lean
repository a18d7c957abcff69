import Rowscript.Toml.Date
import Rowscript.Toml.Table

/-!
# Toml/Reader — the values, lines and sections of a settings file

A file is a list of sections, of which only the first has no header.  A section is a list of keys
with values, one on each line.
-/

namespace Rowscript.Toml

/-- A key without its last part, that part, and the value. -/
structure Assigned where
  path : List String
  name : String
  value : Value

namespace Reader

/-- The last part of a key apart from the others. -/
def splitKey : List String → Option (List String × String)
  | [] => none
  | [name] => some ([], name)
  | part :: parts => (splitKey parts).map fun (path, name) => (part :: path, name)

/-- A key and a value with an equals sign between them. -/
def assigned (value : Reader Value) : Reader Assigned := do
  let some (path, name) := splitKey (← key) | failure
  word ['=']
  blanks
  return ⟨path, name, ← value⟩

/-! ## Values -/

/-- Values up to a closing bracket; a comma may stand behind the last of them. -/
def arrayItems (value : Reader Value) : Nat → Reader (List Value)
  | 0 => failure
  | fuel + 1 => do
    gap
    if (← next?) == some ']' then
      word [']']
      return []
    let item ← value
    gap
    match ← next? with
    | some ',' =>
      word [',']
      return item :: (← arrayItems value fuel)
    | _ =>
      word [']']
      return [item]

/-- Keys with values up to a closing brace; no comma stands behind the last of them. -/
def bracedEntries (value : Reader Value) : Nat → Reader (List Assigned)
  | 0 => failure
  | fuel + 1 => do
    let entry ← assigned value
    blanks
    match ← next? with
    | some ',' =>
      word [',']
      return entry :: (← bracedEntries value fuel)
    | _ =>
      word ['\x7d']
      return [entry]

/-- Keys with values between braces, if there are any. -/
def braced (value : Reader Value) (fuel : Nat) : Reader (List Assigned) := do
  blanks
  if (← next?) == some '\x7d' then
    word ['\x7d']
    return []
  bracedEntries value fuel

/-- The table of keys with values, in their order. -/
def fill (items : List Assigned) (entries : Entries) : Option Entries :=
  items.foldlM (fun entries item => entries.assign item.value item.name item.path) entries

/-- How many characters are left. -/
def size : Reader Nat := fun cs => some (cs.length, cs)

/-- A date or a number. -/
def number : Reader Value :=
  (do return .date (← date)) <|> (do return .float (← float)) <|> (do return .integer (← integer))

/-- A value that holds no other. -/
def single : Reader Value := do
  match ← next? with
  | some '"' => return .text (String.ofList (← string '"'))
  | some '\'' => return .text (String.ofList (← string '\''))
  | some 't' =>
    word "true".toList
    return .boolean true
  | some 'f' =>
    word "false".toList
    return .boolean false
  | _ => number

/-- **A value**, with arrays and braces at most so many levels deep. -/
def value : Nat → Reader Value
  | 0 => single
  | depth + 1 => do
    match ← next? with
    | some '[' =>
      word ['[']
      return .array (← arrayItems (value depth) (← size))
    | some '\x7b' =>
      word ['\x7b']
      let some entries := fill (← braced (value depth) (← size)) [] | failure
      return .table .braces entries
    | _ => single

/-! ## Lines and sections -/

/-- A section: its header, whether that stands in double brackets, and its keys. -/
structure Section where
  path : List String
  name : String
  repeated : Bool
  items : List Assigned

/-- A key with a value, up to the end of the line. -/
def line : Reader Assigned := do
  let item ← assigned (value depthLimit)
  lineEnd
  return item

/-- A header, up to the end of the line. -/
def header : Reader Section := do
  word ['[']
  let repeated := (← next?) == some '['
  if repeated then word ['[']
  let some (path, name) := splitKey (← key) | failure
  word (if repeated then [']', ']'] else [']'])
  lineEnd
  return ⟨path, name, repeated, []⟩

/-- The lines up to the next header, or to the end. -/
def lines : Nat → Reader (List Assigned)
  | 0 => failure
  | fuel + 1 => do
    gap
    match ← next? with
    | none => return []
    | some '[' => return []
    | some _ =>
      let item ← line
      return item :: (← lines fuel)

/-- The sections up to the end. -/
def sections : Nat → Reader (List Section)
  | 0 => failure
  | fuel + 1 => do
    match ← next? with
    | none => return []
    | some _ =>
      let head ← header
      let items ← lines ((← size) + 1)
      return { head with items := items } :: (← sections fuel)

end Reader

/-! ## Files -/

/-- Adds a section to the file. -/
def Reader.Section.addTo (s : Reader.Section) (root : Entries) : Option Entries :=
  let fill := Reader.fill s.items
  root.change (if s.repeated then (·.append fill s.name) else (·.define fill s.name)) s.path

/-- **The entries of a file**, if its text is well-formed and defines nothing twice. -/
def Entries.ofText (text : String) : Option Entries :=
  let cs := match text.toList with
    | '\uFEFF' :: cs => cs
    | cs => cs
  let read : Reader (List Assigned × List Reader.Section) := do
    let items ← Reader.lines (cs.length + 1)
    return (items, ← Reader.sections (cs.length + 1))
  match read cs with
  | some ((items, sections), []) =>
    (Reader.fill items []).bind fun root => sections.foldlM (fun root s => s.addTo root) root
  | _ => none

end Rowscript.Toml
