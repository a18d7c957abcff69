import Rowscript.Text.Printable

/-!
# Text/Quoted — text between double quotes, as it stands in records and messages

`quoted` writes a text so that every character of it can be told: the quote and the backslash behind
a backslash, four controls by a letter or a zero, any other hidden character by its code point, and
the rest as it is.
-/

namespace Rowscript.Text

/-- Lower-case hexadecimal digits, without padding. -/
def hex (n : Nat) : List Char := Nat.toDigits 16 n

/-- One character, as it stands between the quotes. -/
def quotedChar (c : Char) : List Char :=
  match c with
  | '"' => ['\\', '"']
  | '\\' => ['\\', '\\']
  | '\n' => ['\\', 'n']
  | '\r' => ['\\', 'r']
  | '\t' => ['\\', 't']
  | '\x00' => ['\\', '0']
  | c => if isPrintable c then [c] else ['\\', 'u', '{'] ++ hex c.toNat ++ ['}']

/-- **A text between quotes**, with every hidden character spelled out. -/
def quoted (s : String) : String :=
  String.ofList ('"' :: s.toList.flatMap quotedChar ++ ['"'])

/-- A list of texts between brackets, each of them quoted. -/
def quotedList (texts : List String) : String :=
  "[" ++ ", ".intercalate (texts.map quoted) ++ "]"

end Rowscript.Text
