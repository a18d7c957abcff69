/-!
# Text/Blank — the blank characters of Unicode and what is left of a text without them

`isBlank` is the property White_Space.  `trim` takes blanks away at both ends and nowhere else.
-/

namespace Rowscript.Text

/-- **The characters with the Unicode property White_Space.** -/
def isBlank (c : Char) : Bool :=
  let n := c.toNat
  (0x09 ≤ n && n ≤ 0x0D) || n == 0x20 || n == 0x85 || n == 0xA0 || n == 0x1680 ||
    (0x2000 ≤ n && n ≤ 0x200A) || n == 0x2028 || n == 0x2029 || n == 0x202F || n == 0x205F ||
    n == 0x3000

/-- Blanks in front are dropped. -/
def trimStart (cs : List Char) : List Char := cs.dropWhile isBlank

/-- Blanks at the end are dropped. -/
def trimEnd : List Char → List Char
  | [] => []
  | c :: cs =>
    match trimEnd cs with
    | [] => if isBlank c then [] else [c]
    | d :: ds => c :: d :: ds

/-- Blanks at both ends are dropped. -/
def trim (cs : List Char) : List Char := trimEnd (trimStart cs)

@[simp] theorem trimStart_nil : trimStart [] = [] := rfl

@[simp] theorem trimEnd_nil : trimEnd [] = [] := rfl

theorem trimEnd_cons (c : Char) (cs : List Char) :
    trimEnd (c :: cs) = if trimEnd cs = [] ∧ isBlank c then [] else c :: trimEnd cs := by
  rw [trimEnd]
  cases trimEnd cs <;> simp

end Rowscript.Text
