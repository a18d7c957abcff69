import Rowscript.Text.Numeral
import Rowscript.Yaml.Scalar

/-!
# Yaml/Scalar/Block — texts of whole lines

Behind a bar the lines stand as they are; behind an angle line ends between lines that do not start
with a blank become blanks.  The indicators behind it say how far the lines are indented and what
becomes of the line ends behind the last of them.
-/

namespace Rowscript.Yaml.Block

/-- What becomes of the line ends at the end of the text. -/
inductive Chomping where
  | clip
  | strip
  | keep
  deriving DecidableEq, Repr

/-- The indicators behind the bar or the angle. -/
structure Header where
  chomping : Chomping := .clip
  /-- How far the lines are indented; zero if the first of them says. -/
  increment : Nat := 0

def chomping? : Char → Option Chomping
  | '+' => some .keep
  | '-' => some .strip
  | _ => none

/-- The increment of a digit, where one comes next; zero is refused. -/
def increment? (c : Cursor) : Option (Nat × Cursor) :=
  match c.rest.head?.bind Text.digit? with
  | none => some (0, c)
  | some 0 => none
  | some n => some (n, c.skip 1)

/-- Reads the indicators, in either order. -/
def header? (c : Cursor) : Option (Header × Cursor) :=
  match c.rest.head?.bind chomping? with
  | some chomping => (increment? (c.skip 1)).map fun (n, c) => (⟨chomping, n⟩, c)
  | none =>
    (increment? c).map fun (n, c) =>
      match c.rest.head?.bind chomping?, n with
      | some chomping, _ + 1 => (⟨chomping, n⟩, c.skip 1)
      | _, _ => (⟨.clip, n⟩, c)

/-- Reads through indentation and empty lines: the line ends, the greatest indentation seen, and
where the next line starts.  Indentation ends at column `indent`, if that is not zero; a tab in
front of it is refused. -/
def emptyLines (indent : Nat) (breaks : List Char) (widest : Nat) (m : Mark) :
    List Char → Option (List Char × Nat × Cursor)
  | [] => some (breaks, max widest m.column, ⟨m, []⟩)
  | '\r' :: '\n' :: cs => emptyLines indent (breaks ++ ['\n']) (max widest m.column) (m.down 2) cs
  | c :: cs =>
    let inside := indent == 0 || m.column < indent
    if c == ' ' && inside then emptyLines indent breaks widest (m.right 1) cs
    else if c == '\t' && inside then none
    else if isBreak c then
      emptyLines indent (breaks ++ [normalBreak c]) (max widest m.column) (m.down 1) cs
    else some (breaks, max widest m.column, ⟨m, c :: cs⟩)

/-- Reads the lines indented to column `indent`.  `leading` is the end of the line in front, `breaks`
are the empty lines behind it, and `indented` tells that the line in front started with a blank. -/
def lines (literal : Bool) (indent : Nat) :
    Nat → (text leading breaks : List Char) → (indented : Bool) → Cursor →
      Option (List Char × List Char × List Char × Cursor)
  | 0, _, _, _, _, _ => none
  | fuel + 1, text, leading, breaks, indented, c =>
    if c.mark.column != indent || c.rest.isEmpty then some (text, leading, breaks, c)
    else
      let starts := (c.rest.head?.map isSpace).getD false
      let folds := !literal && leading.head? == some '\n' && !indented && !starts
      let ends := if folds then (if breaks.isEmpty then [' '] else []) else leading
      let (line, c) := c.takeWhile fun x => !isBreak x
      let leading := c.nextBreak
      let c := c.skipBreak
      (emptyLines indent [] 0 c.mark c.rest).bind fun (more, _, c) =>
        lines literal indent fuel (text ++ ends ++ breaks ++ line) leading more starts c

/-- **Reads a text of lines**, whose bar or angle comes next.  `level` is the least column at which
it may stand. -/
def read (literal : Bool) (level : Nat) (c : Cursor) : Option (List Char × Cursor) :=
  (header? (c.skip 1)).bind fun (header, c) =>
    let c := c.skipComment
    if !endsLine c.rest then none
    else
      let c := c.skipBreak
      let given := if header.increment == 0 then 0 else level - 1 + header.increment
      (emptyLines given [] 0 c.mark c.rest).bind fun (breaks, widest, c) =>
        let indent := if given == 0 then max (max widest level) 1 else given
        (lines literal indent (c.rest.length + 1) [] [] breaks false c).map
          fun (text, leading, breaks, c) =>
            let tail :=
              match header.chomping with
              | .strip => []
              | .clip => leading
              | .keep => leading ++ breaks
            (text ++ tail, c)

end Rowscript.Yaml.Block
