import Rowscript.Text.Numeral

/-!
# Number/Decimal — decimal numbers, as read and as written

A decimal is a natural number times a power of ten.  `Decimal.read?` reads digits with an optional
point and an optional power; `Decimal.text` writes a decimal in positions, however many it takes.
-/

namespace Rowscript

/-- `digits * 10 ^ power`. -/
structure Decimal where
  digits : Nat
  power : Int
  deriving DecidableEq, Repr

namespace Decimal

/-- A power of ten. -/
def tenTo (n : Nat) : Nat := Nat.pow 10 n

/-! ## Reading -/

def isDigit (c : Char) : Bool := (Text.digit? c).isSome

/-- The value of a power: an optional sign and digits. -/
def power? : List Char → Option Int
  | '-' :: cs => (Text.natural? cs).map fun n => -(n : Int)
  | '+' :: cs => (Text.natural? cs).map fun n => (n : Int)
  | cs => (Text.natural? cs).map fun n => (n : Int)

/-- **Reads digits, an optional point among or beside them, and an optional power.** -/
def read? (cs : List Char) : Option Decimal :=
  let whole := cs.takeWhile isDigit
  let (fraction, rest) :=
    match cs.dropWhile isDigit with
    | '.' :: cs => (cs.takeWhile isDigit, cs.dropWhile isDigit)
    | cs => ([], cs)
  (Text.natural? (whole ++ fraction)).bind fun digits =>
    match rest with
    | [] => some ⟨digits, -fraction.length⟩
    | c :: rest =>
      if c == 'e' || c == 'E' then
        (power? rest).map fun power => ⟨digits, power - fraction.length⟩
      else none

/-! ## Writing -/

/-- The digits of a natural number. -/
def naturalChars (n : Nat) : List Char := Nat.toDigits 10 n

/-- **The decimal in positions**: a digit in front of the point at least, and a digit behind it. -/
def chars (d : Decimal) : List Char :=
  let digits := naturalChars d.digits
  if 0 ≤ d.power then digits ++ List.replicate d.power.toNat '0' ++ ['.', '0']
  else
    let places := (-d.power).toNat
    let padded := List.replicate (places + 1 - digits.length) '0' ++ digits
    padded.take (padded.length - places) ++ '.' :: padded.drop (padded.length - places)

end Decimal

end Rowscript
