import Rowscript.Number.Binary64
import Rowscript.Number.Word
import Rowscript.Toml.Text

/-!
# Toml/Number — integers and floating-point numbers

Digits may have underscores between them.  An integer has 64 bits; with ten as its base it has no
leading zero, and only then may it have a sign.
-/

namespace Rowscript.Toml

/-- One digit or more, with single underscores between them, which are left out. -/
def digits (isDigit : Char → Bool) : List Char → Option (List Char × List Char)
  | [] => none
  | c :: cs =>
    if !isDigit c then none
    else
      match cs with
      | '_' :: rest => (digits isDigit rest).map fun (more, rest) => (c :: more, rest)
      | cs =>
        match digits isDigit cs with
        | some (more, rest) => some (c :: more, rest)
        | none =>
          if (cs.head?.map isDigit).getD false then none else some ([c], cs)

/-- An optional sign; true for minus. -/
def sign : Reader Bool
  | '-' :: cs => some (true, cs)
  | '+' :: cs => some (false, cs)
  | cs => some (false, cs)

/-- Digits without a leading zero. -/
def wholeDigits : Reader (List Char)
  | '0' :: cs => some (['0'], cs)
  | cs => digits Char.isDigit cs

/-- The value of digits in a base. -/
def valueOf (base : Nat) (ds : List Char) : Nat :=
  ds.foldl (fun n d => base * n + (Yaml.hexDigit? d).getD 0) 0

/-- A number with a base of its own, behind a zero and the letter of the base. -/
def basedInteger : Reader Int
  | '0' :: letter :: cs =>
    let base := match letter with
      | 'x' => 16
      | 'o' => 8
      | 'b' => 2
      | _ => 0
    let isDigit (c : Char) := ((Yaml.hexDigit? c).map (decide <| · < base)).getD false
    (digits isDigit cs).bind fun (ds, rest) =>
      let n := valueOf base ds
      if n ≤ Word.maxSigned64 then some ((n : Int), rest) else none
  | _ => none

/-- **An integer.** -/
def integer : Reader Int := basedInteger <|> do
  let negative ← sign
  let n : Int := valueOf 10 (← wholeDigits)
  let n := if negative then -n else n
  if Word.isBetween Word.maxSigned64 Word.maxSigned64 n then return n else failure

/-- A point and digits; nothing where there is no point. -/
def fraction : Reader (List Char)
  | '.' :: cs => digits Char.isDigit cs
  | cs => some ([], cs)

/-- A power of ten; nothing where there is no letter for one. -/
def power : Reader (Option Int)
  | c :: cs =>
    if c == 'e' || c == 'E' then
      (do
        let negative ← sign
        let ds ← digits Char.isDigit
        let n : Int := valueOf 10 ds
        return some (if negative then -n else n) : Reader (Option Int)) cs
    else some (none, c :: cs)
  | [] => some (none, [])

/-- The numbers that have names. -/
def namedFloat : Reader Binary64 := do
  let negative ← sign
  (do Reader.word "inf".toList; return .infinite negative) <|>
    (do Reader.word "nan".toList; return .notANumber)

/-- **A floating-point number**: digits with a fraction, a power, or both.  One that is too large is
refused, but not one that is too small. -/
def float : Reader Binary64 := namedFloat <|> do
  let negative ← sign
  let whole ← wholeDigits
  let part ← fraction
  let exponent ← power
  if part.isEmpty && exponent.isNone then failure
  else
    let d : Decimal := ⟨valueOf 10 (whole ++ part), exponent.getD 0 - part.length⟩
    let x := Binary64.ofDecimal negative d
    if x == .infinite false then failure else return x

end Rowscript.Toml
