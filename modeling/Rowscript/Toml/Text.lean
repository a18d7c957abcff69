import Rowscript.Yaml.Scalar.Quoted

/-!
# Toml/Text — blanks, comments, strings and keys

A `Reader` takes what it reads from the front of a text, or fails.  A string stands between double
quotes, which know escapes, or between single ones, which do not; three quotes at each end let it
run over several lines.
-/

namespace Rowscript.Toml

/-- Reads something from the front of a text. -/
abbrev Reader := StateT (List Char) Option

namespace Reader

/-- The character that comes next; it is left. -/
def next? : Reader (Option Char) := fun cs => some (cs.head?, cs)

/-- One character that satisfies `p`. -/
def one (p : Char → Bool) : Reader Char
  | [] => none
  | c :: cs => if p c then some (c, cs) else none

/-- These characters. -/
def word (w : List Char) : Reader Unit := fun cs =>
  if w.isPrefixOf cs then some ((), cs.drop w.length) else none

/-- What a reader reads, or nothing where it fails. -/
def optionally {α : Type} (read : Reader α) : Reader (Option α) := fun cs =>
  match read cs with
  | some (a, rest) => some (some a, rest)
  | none => some (none, cs)

end Reader

/-! ## Blanks and comments -/

def isBlank (c : Char) : Bool := c == ' ' || c == '\t'

/-- The characters that may stand in a line: no control but the tab. -/
def isText (c : Char) : Bool := c == '\t' || (0x20 ≤ c.toNat && c.toNat != 0x7F)

/-- What stands behind the end of a line, where one comes next. -/
def newline? : List Char → Option (List Char)
  | '\n' :: cs | '\r' :: '\n' :: cs => some cs
  | _ => none

/-- Behind blanks and line ends. -/
def skipLines : List Char → List Char
  | '\n' :: cs | '\r' :: '\n' :: cs => skipLines cs
  | c :: cs => if isBlank c then skipLines cs else c :: cs
  | [] => []

/-- Behind a comment, where one comes next. -/
def skipComment : List Char → List Char
  | '#' :: cs => cs.dropWhile isText
  | cs => cs

/-- Behind blanks, comments and line ends. -/
def skipGap : Nat → List Char → List Char
  | 0, cs => cs
  | fuel + 1, cs =>
    match skipLines cs with
    | '#' :: rest => skipGap fuel (skipComment ('#' :: rest))
    | rest => rest

namespace Reader

def blanks : Reader Unit := fun cs => some ((), cs.dropWhile isBlank)

/-- Blanks, comments and line ends. -/
def gap : Reader Unit := fun cs => some ((), skipGap (cs.length + 1) cs)

/-- Nothing but a comment up to the end of the line. -/
def lineEnd : Reader Unit := fun cs =>
  match skipComment (cs.dropWhile isBlank) with
  | [] => some ((), [])
  | rest => (newline? rest).map fun rest => ((), rest)

end Reader

/-! ## Strings -/

/-- The character that a letter behind a backslash stands for. -/
def named? : Char → Option Char
  | 'b' => some '\x08'
  | 't' => some '\t'
  | 'n' => some '\n'
  | 'f' => some '\x0C'
  | 'r' => some '\r'
  | '"' => some '"'
  | '\\' => some '\\'
  | _ => none

/-- The character of `n` hexadecimal digits. -/
def codePoint? (n : Nat) (cs : List Char) : Option (Char × List Char) :=
  let digits := (cs.take n).mapM Yaml.hexDigit?
  (digits.filter (·.length == n)).bind fun digits =>
    (Yaml.Quoted.ofCode? (digits.foldl (16 * · + ·) 0)).map fun c => (c, cs.drop n)

/-- The character that is escaped behind a backslash. -/
def escaped? : List Char → Option (Char × List Char)
  | [] => none
  | 'u' :: cs => codePoint? 4 cs
  | 'U' :: cs => codePoint? 8 cs
  | c :: cs => (named? c).map fun c => (c, cs)

/-- Behind a backslash: the line ends, and all blanks and line ends from there are left out. -/
def escapedLine? (cs : List Char) : Option (List Char) :=
  (newline? (cs.dropWhile isBlank)).map skipLines

/-- What a run of quotes is in a string over several lines: those that belong to the text, and
whether the string ends with the others. -/
def quotes (count : Nat) : Nat × Bool :=
  if count < 3 then (count, false) else (min (count - 3) 2, true)

/-- Reads a string behind its opening quotes. -/
def content (quote : Char) (multiline : Bool) :
    Nat → List Char → Option (List Char × List Char)
  | 0, _ => none
  | _, [] => none
  | fuel + 1, c :: cs =>
    let go (text rest : List Char) :=
      (content quote multiline fuel rest).map fun (more, rest) => (text ++ more, rest)
    if c == quote then
      if multiline then
        let (count, ends) := quotes ((c :: cs).takeWhile (· == quote)).length
        let text := List.replicate count quote
        if ends then some (text, (c :: cs).drop (count + 3)) else go text ((c :: cs).drop count)
      else some ([], cs)
    else if quote == '"' && c == '\\' then
      match if multiline then escapedLine? cs else none with
      | some rest => go [] rest
      | none => (escaped? cs).bind fun (c, rest) => go [c] rest
    else
      match newline? (c :: cs) with
      | some rest => if multiline then go ['\n'] rest else none
      | none => if isText c then go [c] cs else none

/-- A string behind its first quote, on one line. -/
def lineString (quote : Char) : Reader (List Char) := fun cs =>
  content quote false (cs.length + 1) cs

/-- **A string.**  Over several lines, a line end right behind the opening quotes is left out. -/
def string (quote : Char) : Reader (List Char)
  | a :: b :: c :: cs =>
    if a == quote && b == quote && c == quote then
      let cs := (newline? cs).getD cs
      content quote true (cs.length + 1) cs
    else if a == quote then lineString quote (b :: c :: cs)
    else none
  | a :: cs => if a == quote then lineString quote cs else none
  | [] => none

/-! ## Keys -/

/-- The characters of a key without quotes. -/
def isKeyChar (c : Char) : Bool := c.isAlphanum || c == '-' || c == '_'

/-- One part of a key. -/
def keyPart : Reader String
  | '"' :: cs => (lineString '"' cs).map fun (s, rest) => (String.ofList s, rest)
  | '\'' :: cs => (lineString '\'' cs).map fun (s, rest) => (String.ofList s, rest)
  | cs =>
    match cs.takeWhile isKeyChar with
    | [] => none
    | name => some (String.ofList name, cs.dropWhile isKeyChar)

/-- The parts of a key with points between them. -/
def keyParts : Nat → Reader (List String)
  | 0 => failure
  | fuel + 1 => do
    Reader.blanks
    let part ← keyPart
    Reader.blanks
    if (← Reader.next?) == some '.' then
      Reader.word ['.']
      return part :: (← keyParts fuel)
    else return [part]

/-- A value lies at most this many levels deep. -/
def depthLimit : Nat := 79

/-- **A key**: its parts, which are not more than the levels of a value. -/
def key : Reader (List String) := keyParts depthLimit

end Rowscript.Toml
