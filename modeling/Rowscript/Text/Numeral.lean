import Rowscript.Number.Word

/-!
# Text/Numeral — decimal numerals of 64-bit words

`word? cs` reads an optional single plus sign and one or more ASCII digits whose value is below
2^64.  Nothing else is a numeral: no blank, no minus sign, no digit of another script.
-/

namespace Rowscript.Text

/-- The value of an ASCII digit. -/
def digit? (c : Char) : Option Nat :=
  if '0' ≤ c && c ≤ '9' then some (c.toNat - '0'.toNat) else none

/-- The value of a run of digits behind digits of value `acc`. -/
def digits? (acc : Nat) : List Char → Option Nat
  | [] => some acc
  | c :: cs =>
    match digit? c with
    | some d => digits? (10 * acc + d) cs
    | none => none

/-- The value of a numeral without sign; it has a digit at least. -/
def natural? : List Char → Option Nat
  | [] => none
  | c :: cs => digits? 0 (c :: cs)

/-- What is left of a numeral behind its sign, where it has one. -/
def unsigned : List Char → List Char
  | '+' :: cs => cs
  | cs => cs

/-- **The value of a numeral**, where it is below 2^64. -/
def word? (cs : List Char) : Option Nat :=
  (natural? (unsigned cs)).filter (· ≤ Word.maxUnsigned64)

end Rowscript.Text
