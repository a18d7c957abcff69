import Rowscript.Yaml.Scalar

/-!
# Yaml/Scalar/Quoted — texts between quotes

Between single quotes a quote is written twice and all else stands for itself.  Between double
quotes a backslash starts an escape: a character by its name or its code point, or the end of a line
that leaves nothing behind.
-/

namespace Rowscript.Yaml.Quoted

/-- The character that a letter behind a backslash stands for. -/
def named? : Char → Option Char
  | '0' => some '\x00'
  | 'a' => some '\x07'
  | 'b' => some '\x08'
  | 't' | '\t' => some '\t'
  | 'n' => some '\n'
  | 'v' => some '\x0B'
  | 'f' => some '\x0C'
  | 'r' => some '\r'
  | 'e' => some '\x1B'
  | ' ' => some ' '
  | '"' => some '"'
  | '/' => some '/'
  | '\\' => some '\\'
  | 'N' => some '\x85'
  | '_' => some '\u00A0'
  | 'L' => some '\u2028'
  | 'P' => some '\u2029'
  | _ => none

/-- How many hexadecimal digits a letter behind a backslash asks for. -/
def digits? : Char → Option Nat
  | 'x' => some 2
  | 'u' => some 4
  | 'U' => some 8
  | _ => none

/-- The character of a code point; half a surrogate pair has none. -/
def ofCode? (n : Nat) : Option Char := if h : n.isValidChar then some (.ofNatAux n h) else none

/-- A word: its characters, how many were read, and what stands behind it. -/
abbrev Word := List Char × Nat × List Char

/-- A word with one character more, for which `n` were read. -/
def Word.cons (c : Char) (n : Nat) (w : Word) : Word := (c :: w.1, n + w.2.1, w.2.2)

/-- A word between single quotes. -/
def singleWord : List Char → Word
  | [] => ([], 0, [])
  | '\'' :: '\'' :: cs => .cons '\'' 2 (singleWord cs)
  | c :: cs =>
    if c == '\'' || isSpace c || isBreak c then ([], 0, c :: cs) else .cons c 1 (singleWord cs)

/-- A word between double quotes.  While `more` digits of a code point are to come, `value` is what
the digits in front of them say. -/
def doubleWord (more value : Nat) : List Char → Option Word
  | [] => if more == 0 then some ([], 0, []) else none
  | c :: cs =>
    match more with
    | 0 =>
      if c == '"' || isSpace c || isBreak c then some ([], 0, c :: cs)
      else if c == '\\' then
        match cs with
        | [] => none
        | d :: ds =>
          if isBreak d then some ([], 0, c :: d :: ds)
          else
            match named? d, digits? d with
            | some e, _ => (doubleWord 0 0 ds).map (.cons e 2)
            | none, some n => (doubleWord n 0 ds).map fun w => (w.1, 2 + w.2.1, w.2.2)
            | none, none => none
      else (doubleWord 0 0 cs).map (.cons c 1)
    | more + 1 =>
      (hexDigit? c).bind fun d =>
        let value := 16 * value + d
        if more == 0 then
          (ofCode? value).bind fun e => (doubleWord 0 0 cs).map (.cons e 1)
        else (doubleWord more value cs).map fun w => (w.1, 1 + w.2.1, w.2.2)

/-- The quote at the ends. -/
def quote (double : Bool) : Char := if double then '"' else '\''

/-- Behind an escaped line end, where one comes next. -/
def skipEscapedBreak (c : Cursor) : Option Cursor :=
  match c.rest with
  | '\\' :: _ => some (c.skip 1).skipBreak
  | _ => none

/-- Reads on up to the closing quote. -/
def readFrom (double : Bool) : Nat → List Char → Cursor → Option (List Char × Cursor)
  | 0, _, _ => none
  | fuel + 1, text, c =>
    if c.atDocumentStart || c.atDocumentEnd || c.rest.isEmpty then none
    else
      (if double then doubleWord 0 0 c.rest else some (singleWord c.rest)).bind fun (w, n, rest) =>
        let text := text ++ w
        let c : Cursor := ⟨c.mark.right n, rest⟩
        let escaped := if double then skipEscapedBreak c else none
        let c := escaped.getD c
        if c.rest.head? == some (quote double) then some (text, c.skip 1)
        else
          let gap : Gap := { folded := escaped.isSome }
          (gap.read 0 c.mark c.rest).bind fun (gap, c) =>
            readFrom double fuel (text ++ gap.joined) c

/-- **Reads a text between quotes**, the first of which comes next. -/
def read (double : Bool) (c : Cursor) : Option (List Char × Cursor) :=
  readFrom double (c.rest.length + 1) [] (c.skip 1)

end Rowscript.Yaml.Quoted
