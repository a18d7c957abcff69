import Rowscript.Yaml.Source

/-!
# Yaml/Scalar — texts in a document, and the gaps between their words

A scalar may run over several lines.  Between two of its words lies a `Gap`: blanks stay, a line end
becomes a blank, and further line ends stay.
-/

namespace Rowscript.Yaml

/-- A text in a document. -/
structure Scalar where
  text : String
  /-- It stands without quotes or indicators, so that it may mean something else than text. -/
  plain : Bool
  tag : Option String := none
  deriving DecidableEq, Repr

/-- What stands where a text is missing. -/
def Scalar.empty : Scalar := ⟨"", true, none⟩

/-- The blanks and line ends between two words. -/
structure Gap where
  /-- Blanks of the same line; none once a line has ended. -/
  spaces : List Char := []
  /-- The first line end. -/
  first : List Char := []
  /-- The line ends behind it. -/
  more : List Char := []
  /-- A line has ended. -/
  folded : Bool := false
  deriving DecidableEq, Repr

namespace Gap

/-- One more line end. -/
def addBreak (g : Gap) (c : Char) : Gap :=
  if g.folded then { g with more := g.more ++ [c] } else ⟨[], [c], [], true⟩

/-- **What a gap leaves in the text.** -/
def joined (g : Gap) : List Char :=
  if g.folded then
    match g.first, g.more with
    | '\n' :: _, [] => [' ']
    | '\n' :: _, more => more
    | first, more => first ++ more
  else g.spaces

/-- Reads on through blanks and line ends.  On a new line a tab in front of column `limit` is
refused. -/
def read (limit : Nat) (g : Gap) (m : Mark) : List Char → Option (Gap × Cursor)
  | [] => some (g, ⟨m, []⟩)
  | '\r' :: '\n' :: cs => read limit (g.addBreak '\n') (m.down 2) cs
  | c :: cs =>
    if isBreak c then read limit (g.addBreak (normalBreak c)) (m.down 1) cs
    else if isSpace c then
      if g.folded then
        if c == '\t' && m.column < limit then none else read limit g (m.right 1) cs
      else read limit { g with spaces := g.spaces ++ [c] } (m.right 1) cs
    else some (g, ⟨m, c :: cs⟩)

end Gap

end Rowscript.Yaml
