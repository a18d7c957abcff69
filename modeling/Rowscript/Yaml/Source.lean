/-!
# Yaml/Source — the characters of a text and the place of each

A text is read from the left through a `Cursor`: what is still to be read, and the `Mark` of its
first character.  The end of the text counts as the end of a line.
-/

namespace Rowscript.Yaml

/-! ## Characters -/

/-- The characters that end a line. -/
def isBreak (c : Char) : Bool :=
  c == '\n' || c == '\r' || c == '\x85' || c == '\u2028' || c == '\u2029'

/-- The blanks within a line. -/
def isSpace (c : Char) : Bool := c == ' ' || c == '\t'

/-- Nothing, a blank or the end of a line comes next. -/
def endsWord : List Char → Bool
  | [] => true
  | c :: _ => isSpace c || isBreak c

/-- The end of a line, or of the text, comes next. -/
def endsLine : List Char → Bool
  | [] => true
  | c :: _ => isBreak c

/-- The characters of anchors, directives and tag handles. -/
def isNameChar (c : Char) : Bool := c.isAlphanum || c == '_' || c == '-'

/-- The characters that may stand in a text at all: no control but tabs and line ends. -/
def isAllowed (c : Char) : Bool :=
  let n := c.toNat
  n == 0x09 || n == 0x0A || n == 0x0D || (0x20 ≤ n && n ≤ 0x7E) || n == 0x85 ||
    (0xA0 ≤ n && n ≤ 0xFFFD) || 0x10000 ≤ n

/-- The value of a hexadecimal digit. -/
def hexDigit? (c : Char) : Option Nat :=
  if '0' ≤ c && c ≤ '9' then some (c.toNat - '0'.toNat)
  else if 'a' ≤ c && c ≤ 'f' then some (c.toNat - 'a'.toNat + 10)
  else if 'A' ≤ c && c ≤ 'F' then some (c.toNat - 'A'.toNat + 10)
  else none

/-- A line end as it stands in a scalar: the common ones become line feeds. -/
def normalBreak (c : Char) : Char := if c == '\u2028' || c == '\u2029' then c else '\n'

/-! ## Places -/

/-- A place in a text: how many characters, lines, and characters of the line lie in front of it. -/
structure Mark where
  index : Nat := 0
  line : Nat := 0
  column : Nat := 0
  deriving DecidableEq, Repr

namespace Mark

/-- Behind `n` characters of the same line. -/
def right (m : Mark) (n : Nat) : Mark := { m with index := m.index + n, column := m.column + n }

/-- Behind a line end of `n` characters. -/
def down (m : Mark) (n : Nat) : Mark := ⟨m.index + n, m.line + 1, 0⟩

end Mark

/-- What is still to be read. -/
structure Cursor where
  mark : Mark := {}
  rest : List Char
  deriving DecidableEq, Repr

namespace Cursor

/-- Behind `n` characters of the same line. -/
def skip (c : Cursor) (n : Nat) : Cursor := ⟨c.mark.right n, c.rest.drop n⟩

/-- Behind the line end that comes next, if one does. -/
def skipBreak (c : Cursor) : Cursor :=
  match c.rest with
  | '\r' :: '\n' :: cs => ⟨c.mark.down 2, cs⟩
  | x :: cs => if isBreak x then ⟨c.mark.down 1, cs⟩ else c
  | [] => c

/-- The line end that comes next, as it stands in a scalar. -/
def nextBreak (c : Cursor) : List Char :=
  match c.rest with
  | x :: _ => if isBreak x then [normalBreak x] else []
  | [] => []

/-- The characters up to the first that does not satisfy `p`, and the cursor there. -/
def takeWhile (p : Char → Bool) (c : Cursor) : List Char × Cursor :=
  let taken := c.rest.takeWhile p
  (taken, ⟨c.mark.right taken.length, c.rest.dropWhile p⟩)

/-- The cursor at the first character that does not satisfy `p`. -/
def dropWhile (p : Char → Bool) (c : Cursor) : Cursor := (c.takeWhile p).2

/-- Behind blanks and a comment. -/
def skipComment (c : Cursor) : Cursor :=
  let c := c.dropWhile isSpace
  match c.rest with
  | '#' :: _ => c.dropWhile fun x => !isBreak x
  | _ => c

/-- The line starts with three hyphens. -/
def atDocumentStart (c : Cursor) : Bool :=
  c.mark.column == 0 &&
    match c.rest with
    | '-' :: '-' :: '-' :: cs => endsWord cs
    | _ => false

/-- The line starts with three dots. -/
def atDocumentEnd (c : Cursor) : Bool :=
  c.mark.column == 0 &&
    match c.rest with
    | '.' :: '.' :: '.' :: cs => endsWord cs
    | _ => false

end Cursor

end Rowscript.Yaml
