import Rowscript.Number.Decimal

/-!
# Number/Binary64 — numbers of 64 bits with a floating point

A finite number is an integer below 2^53 times a power of two not below 2^-1074.  `ofDecimal` takes
the nearest one, of two the one with the even integer.  `shortest` goes back: of the decimals that
are nearer to the number than to any other, it has the fewest digits, and of those it is the nearest.
-/

namespace Rowscript

/-- A floating-point number. -/
inductive Binary64 where
  /-- `mantissa * 2 ^ power`, below zero if `negative`. -/
  | finite (negative : Bool) (mantissa : Nat) (power : Int)
  | infinite (negative : Bool)
  | notANumber
  deriving DecidableEq, Repr

namespace Binary64

/-! ## The nearest number -/

/-- The quotient rounded to the nearest integer, a half to the even neighbour. -/
def roundDiv (num den : Nat) : Nat :=
  let q := num / den
  let twice := 2 * (num % den)
  if twice < den || (twice == den && q % 2 == 0) then q else q + 1

/-- A power of two. -/
def twoTo (n : Nat) : Nat := Nat.pow 2 n

/-- `num / den` times a power of two, as a numerator and a denominator. -/
def scale (num den : Nat) (power : Int) : Nat × Nat :=
  if 0 ≤ power then (num * twoTo power.toNat, den) else (num, den * twoTo (-power).toNat)

/-- The power of two at which the quotient, rounded down, has 53 bits, or the least power there is. -/
def powerFor (num den : Nat) : Int :=
  let guess := (Nat.log2 num : Int) - Nat.log2 den - 53
  let guess := if guess < -1074 then -1074 else guess
  let (n, d) := scale num den (-guess)
  if n / d < twoTo 53 then guess else guess + 1

/-- The number nearest to a quotient, which may be too large for any. -/
def ofQuotient (negative : Bool) (num den : Nat) : Binary64 :=
  let power := powerFor num den
  let (n, d) := scale num den (-power)
  let mantissa := roundDiv n d
  let (mantissa, power) := if mantissa == twoTo 53 then (twoTo 52, power + 1) else (mantissa, power)
  if power > 971 then infinite negative else finite negative mantissa power

/-- **The number nearest to a decimal.**  The bounds on the power spare the work on decimals that
are beyond all numbers, or nearer to zero than to any other. -/
def ofDecimal (negative : Bool) (d : Decimal) : Binary64 :=
  let size := (Decimal.naturalChars d.digits).length
  if d.digits == 0 || d.power + size < -330 then finite negative 0 (-1074)
  else if d.power + size > 310 then infinite negative
  else if 0 ≤ d.power then ofQuotient negative (d.digits * Decimal.tenTo d.power.toNat) 1
  else ofQuotient negative d.digits (Decimal.tenTo (-d.power).toNat)

/-! ## The shortest decimal -/

/-- Four times a finite number and the ends of the interval that rounds to it, in units of a
quarter of the last place. -/
structure Interval where
  low : Nat
  value : Nat
  high : Nat
  /-- The ends round to the number too. -/
  closed : Bool

/-- The interval of a mantissa.  Below a power of two the numbers lie closer. -/
def interval (mantissa : Nat) (power : Int) : Interval :=
  let below := if mantissa == twoTo 52 && power > -1074 then 1 else 2
  ⟨4 * mantissa - below, 4 * mantissa, 4 * mantissa + 2, mantissa % 2 == 0⟩

/-- `candidate * 10 ^ place` lies in the interval, whose unit is `num / den`. -/
def Interval.holds (i : Interval) (num den candidate : Nat) (place : Int) : Bool :=
  let (c, d) :=
    if 0 ≤ place then (candidate * Decimal.tenTo place.toNat * den, 1)
    else (candidate * den, Decimal.tenTo (-place).toNat)
  let low := i.low * num * d
  let high := i.high * num * d
  if i.closed then low ≤ c && c ≤ high else low < c && c < high

/-- The place of the first digit of a quotient: the greatest power of ten not above it. -/
def leadingPlace (num den : Nat) : Int :=
  if den ≤ num then ((Decimal.naturalChars (num / den)).length : Int) - 1
  else
    let shift := (Decimal.naturalChars (den / num)).length
    if den ≤ num * Decimal.tenTo (shift - 1) then -((shift - 1 : Nat) : Int) else -(shift : Int)

/-- The decimals with their last digit at `place` on both sides of the value, the nearer one first,
and of two as near the upper. -/
def neighbours (value num den : Nat) (place : Int) : List Nat :=
  let (n, d) :=
    if 0 ≤ place then (value * num, den * Decimal.tenTo place.toNat)
    else (value * num * Decimal.tenTo (-place).toNat, den)
  let q := n / d
  if 2 * (n % d) < d then [q, q + 1] else [q + 1, q]

/-- The decimal with the fewest digits in the interval, looked for with its last digit at `place`
and at `fuel` further places.  At the first place the upper neighbour may be the next power of ten. -/
def search (i : Interval) (num den : Nat) : Nat → Int → Decimal
  | 0, place => ⟨(neighbours i.value num den place).headD 0, place⟩
  | fuel + 1, place =>
    match (neighbours i.value num den place).find? fun c => i.holds num den c place with
    | some c => if c == 10 then ⟨1, place + 1⟩ else ⟨c, place⟩
    | none => search i num den fuel (place - 1)

/-- **The shortest decimal of a number**: seventeen digits always tell it from the others. -/
def shortest (mantissa : Nat) (power : Int) : Decimal :=
  if mantissa == 0 then ⟨0, 0⟩
  else
    let i := interval mantissa power
    let (num, den) := scale 1 4 power
    search i num den 16 (leadingPlace (i.value * num) den)

/-- The number in positions, with a point; the others by their names. -/
def text : Binary64 → String
  | finite negative mantissa power =>
    String.ofList ((if negative then ['-'] else []) ++ (shortest mantissa power).chars)
  | infinite negative => if negative then "-inf" else "inf"
  | notANumber => "NaN"

/-- The number is neither infinite nor missing. -/
def isFinite : Binary64 → Bool
  | finite .. => true
  | _ => false

end Binary64

end Rowscript
