/-!
# Number/Word — the ranges of words

The integers of 64 and 128 bits, with and without a sign.
-/

namespace Rowscript.Word

/-- The greatest natural number of 64 bits. -/
def maxUnsigned64 : Nat := 18446744073709551615

/-- The greatest integer of 64 bits, one of them the sign. -/
def maxSigned64 : Nat := 9223372036854775807

/-- The greatest natural number of 128 bits. -/
def maxUnsigned128 : Nat := 340282366920938463463374607431768211455

/-- The greatest integer of 128 bits, one of them the sign. -/
def maxSigned128 : Nat := 170141183460469231731687303715884105727

/-- An integer lies between the least of a signed word, which is one below the negative of the
greatest, and a natural number. -/
def isBetween (maxSigned max : Nat) (n : Int) : Bool :=
  match n with
  | .ofNat k => k ≤ max
  | .negSucc k => k ≤ maxSigned

end Rowscript.Word
