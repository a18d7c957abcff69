import Rowscript.Text.Quoted

/-!
# Json — JSON values and their two written forms

`compact` writes a value without blanks; `pretty` gives every member and item a line of its own,
indented by two blanks for each level.  Members stand in the order they are given.  In a string the
quote, the backslash and the controls are escaped, and every other character stands for itself.
-/

namespace Rowscript

/-- A JSON value; its numbers are natural numbers. -/
inductive Json where
  | null
  | bool (value : Bool)
  | number (value : Nat)
  | string (text : String)
  | array (items : List Json)
  | object (members : List (String × Json))

namespace Json

/-- Four hexadecimal digits. -/
def hex4 (n : Nat) : List Char :=
  (List.replicate 4 '0' ++ Text.hex n).reverse.take 4 |>.reverse

/-- One character, as it stands in a string. -/
def escaped (c : Char) : List Char :=
  match c with
  | '"' => ['\\', '"']
  | '\\' => ['\\', '\\']
  | '\x08' => ['\\', 'b']
  | '\x0C' => ['\\', 'f']
  | '\n' => ['\\', 'n']
  | '\r' => ['\\', 'r']
  | '\t' => ['\\', 't']
  | c => if c.toNat < 0x20 then ['\\', 'u'] ++ hex4 c.toNat else [c]

/-- A string between quotes. -/
def literal (s : String) : List Char := '"' :: s.toList.flatMap escaped ++ ['"']

/-- A value that holds no other. -/
def atom : Json → List Char
  | null => "null".toList
  | bool true => "true".toList
  | bool false => "false".toList
  | number n => Nat.toDigits 10 n
  | string s => literal s
  | array _ => "[]".toList
  | object _ => ['{', '}']

/-! ## Without blanks -/

mutual

/-- The characters of the compact form. -/
def compactChars : Json → List Char
  | array (x :: xs) => '[' :: compactChars x ++ compactItems xs ++ [']']
  | object ((k, x) :: xs) => '{' :: literal k ++ ':' :: compactChars x ++ compactMembers xs ++ ['}']
  | v => atom v

/-- Further items, each behind a comma. -/
def compactItems : List Json → List Char
  | [] => []
  | x :: xs => ',' :: compactChars x ++ compactItems xs

/-- Further members, each behind a comma. -/
def compactMembers : List (String × Json) → List Char
  | [] => []
  | (k, x) :: xs => ',' :: literal k ++ ':' :: compactChars x ++ compactMembers xs

end

/-- **A value without blanks.** -/
def compact (v : Json) : String := String.ofList v.compactChars

/-! ## With a line for every member and item -/

/-- The start of a line at the given level. -/
def newline (level : Nat) : List Char := '\n' :: List.replicate (2 * level) ' '

mutual

/-- The characters of the indented form, at the given level. -/
def prettyChars (level : Nat) : Json → List Char
  | array (x :: xs) =>
    '[' :: newline (level + 1) ++ prettyChars (level + 1) x ++ prettyItems (level + 1) xs ++
      newline level ++ [']']
  | object ((k, x) :: xs) =>
    '{' :: newline (level + 1) ++ literal k ++ ':' :: ' ' :: prettyChars (level + 1) x ++
      prettyMembers (level + 1) xs ++ newline level ++ ['}']
  | v => atom v

/-- Further items, each on its line. -/
def prettyItems (level : Nat) : List Json → List Char
  | [] => []
  | x :: xs => ',' :: newline level ++ prettyChars level x ++ prettyItems level xs

/-- Further members, each on its line. -/
def prettyMembers (level : Nat) : List (String × Json) → List Char
  | [] => []
  | (k, x) :: xs =>
    ',' :: newline level ++ literal k ++ ':' :: ' ' :: prettyChars level x ++
      prettyMembers level xs

end

/-- **A value with a line for every member and item.** -/
def pretty (v : Json) : String := String.ofList (v.prettyChars 0)

end Json

end Rowscript
