import Rowscript.Yaml.Scalar

/-!
# Yaml/Scalar/Plain — texts without quotes

A plain text ends at a colon that ends a word, at a comment, at a line that is not indented enough,
and, between brackets, at a comma or a bracket.
-/

namespace Rowscript.Yaml.Plain

/-- The characters that end a plain text between brackets. -/
def isFlowIndicator (c : Char) : Bool :=
  c == ',' || c == '[' || c == ']' || c == '{' || c == '}'

/-- A colon in front of it, between brackets, makes no sense. -/
def refusesColon : List Char → Bool
  | [] => false
  | c :: _ => isFlowIndicator c || c == '?'

/-- A word and what stands behind it. -/
def word (flow : Bool) : List Char → Option (List Char × List Char)
  | [] => some ([], [])
  | c :: cs =>
    if isSpace c || isBreak c then some ([], c :: cs)
    else if flow && c == ':' && refusesColon cs then none
    else if (c == ':' && endsWord cs) || (flow && isFlowIndicator c) then some ([], c :: cs)
    else (word flow cs).map fun (w, rest) => (c :: w, rest)

/-- What is read of a plain text: its characters, whether a line ended behind the last of them, and
where it ends. -/
structure Reading where
  text : List Char
  folded : Bool
  cursor : Cursor

/-- Reads on behind a gap, of lines indented to column `level` at least. -/
def readFrom (flow : Bool) (level : Nat) : Nat → List Char → Gap → Cursor → Option Reading
  | 0, _, _, _ => none
  | fuel + 1, text, gap, c =>
    if c.atDocumentStart || c.atDocumentEnd || c.rest.head? == some '#' then
      some ⟨text, gap.folded, c⟩
    else
      (word flow c.rest).bind fun (w, rest) =>
        let m := c.mark.right w.length
        let text := if w.isEmpty then text else text ++ gap.joined ++ w
        let gap := if w.isEmpty then gap else {}
        if rest.isEmpty || !endsWord rest then some ⟨text, gap.folded, ⟨m, rest⟩⟩
        else
          (gap.read level m rest).bind fun (gap, c) =>
            if !flow && c.mark.column < level then some ⟨text, gap.folded, c⟩
            else readFrom flow level fuel text gap c

/-- **Reads a plain text.** -/
def read (flow : Bool) (level : Nat) (c : Cursor) : Option Reading :=
  readFrom flow level (c.rest.length + 1) [] {} c

end Rowscript.Yaml.Plain
