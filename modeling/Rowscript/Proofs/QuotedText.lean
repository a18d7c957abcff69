import Mathlib.Algebra.Group.Nat.Defs
import Rowscript.Proofs.JsonTokens
import Rowscript.Yaml.Scalar.Quoted

/-!
# Proofs/QuotedText — any text can stand between double quotes

    text ──written──▸ "…" ──read──▸ text

Printable ASCII stands for itself, but for the quote and the backslash; every other character is
spelled out by its code point.  What is written so is one line of printable ASCII, whatever the text
(`isPrintable_of_mem_written`), and it is read back as it was, blanks at its ends and all
(`read_written`).
-/

namespace Rowscript.Yaml

/-! ## Writing -/

/-- Printable ASCII, the blank with it. -/
def isPrintable (c : Char) : Bool := ' ' ≤ c && c ≤ '~'

namespace Quoted

/-- The character stands for itself: it is printable, but no quote and no backslash. -/
def isLiteral (c : Char) : Bool := isPrintable c && c != '"' && c != '\\'

/-- A hexadecimal digit, with a capital letter or a small one. -/
def hexChar (capital : Bool) (d : Nat) : Char :=
  if capital then d.digitChar.toUpper else d.digitChar

/-- The last `k` hexadecimal digits of a number. -/
def hexDigits (capital : Bool) : Nat → Nat → List Char
  | 0, _ => []
  | k + 1, n => hexChar capital (n / 16 ^ k % 16) :: hexDigits capital k n

/-- A character between double quotes. -/
def escape (capital : Bool) (c : Char) : List Char :=
  if isLiteral c then [c] else '\\' :: 'U' :: hexDigits capital 8 c.toNat

/-- Characters between double quotes. -/
def spelled (capital : Bool) (s : List Char) : List Char := s.flatMap (escape capital)

theorem spelled_cons (capital : Bool) (c : Char) (s : List Char) :
    spelled capital (c :: s) = escape capital c ++ spelled capital s := List.flatMap_cons

theorem spelled_append (capital : Bool) (s t : List Char) :
    spelled capital (s ++ t) = spelled capital s ++ spelled capital t := List.flatMap_append

/-- Blanks stand for themselves. -/
theorem spelled_blanks (capital : Bool) (n : Nat) :
    spelled capital (List.replicate n ' ') = List.replicate n ' ' := by
  induction n with
  | zero => rfl
  | succ n ih => rw [List.replicate_succ, spelled_cons, ih]; rfl

/-- **A text with its double quotes.** -/
def written (capital : Bool) (s : String) : List Char :=
  '"' :: (spelled capital s.toList ++ ['"'])

end Quoted

@[simp] theorem Mark.right_zero (m : Mark) : m.right 0 = m := rfl

theorem Mark.right_right (m : Mark) (k n : Nat) : (m.right k).right n = m.right (k + n) := by
  simp [Mark.right, Nat.add_assoc]

theorem Mark.right_column_ne_zero {m : Mark} (h : m.column ≠ 0) (n : Nat) :
    (m.right n).column ≠ 0 := by
  simp only [Mark.right]
  omega

/-- What is printable stands within its line. -/
theorem isBreak_of_isPrintable {c : Char} (h : isPrintable c = true) : isBreak c = false := by
  simp only [isPrintable, Bool.and_eq_true, decide_eq_true_eq, Char.le_def,
    UInt32.le_iff_toNat_le] at h
  simp only [isBreak, Bool.or_eq_false_iff, beq_eq_false_iff_ne]
  refine ⟨⟨⟨⟨?_, ?_⟩, ?_⟩, ?_⟩, ?_⟩ <;> rintro rfl <;> revert h <;> decide

/-- Of the blanks only one is printable. -/
theorem isSpace_of_isPrintable {c : Char} (h : isPrintable c = true) (blank : c ≠ ' ') :
    isSpace c = false := by
  have tab : c ≠ '\t' := by
    rintro rfl
    exact absurd h (by decide)
  simp [isSpace, blank, tab]

/-- What is printable may stand in a text. -/
theorem isAllowed_of_isPrintable {c : Char} (h : isPrintable c = true) : isAllowed c = true := by
  simp only [isPrintable, Bool.and_eq_true, decide_eq_true_eq, Char.le_def,
    UInt32.le_iff_toNat_le] at h
  have low : 0x20 ≤ c.toNat := h.1
  have high : c.toNat ≤ 0x7E := h.2
  simp [isAllowed, low, high]

namespace Quoted

variable (capital : Bool)

/-! ## Words -/

theorem isPrintable_of_isLiteral {c : Char} (h : isLiteral c = true) : isPrintable c = true := by
  simp only [isLiteral, Bool.and_eq_true] at h
  exact h.1.1

theorem hexDigit?_hexChar {d : Nat} (h : d < 16) : hexDigit? (hexChar capital d) = some d := by
  revert d
  cases capital <;> decide

/-- The digits of a code point, behind what the digits in front of them say. -/
theorem doubleWord_hexDigits (k n : Nat) (cs : List Char) :
    doubleWord (k + 1) (n / 16 ^ (k + 1)) (hexDigits capital (k + 1) n ++ cs) =
      (ofCode? n).bind fun e =>
        (doubleWord 0 0 cs).map fun w => (e :: w.1, k + 1 + w.2.1, w.2.2) := by
  have digit (k : Nat) : 16 * (n / 16 ^ (k + 1)) + n / 16 ^ k % 16 = n / 16 ^ k := by
    rw [Nat.pow_succ, ← Nat.div_div_eq_div_mul]
    exact Nat.div_add_mod _ _
  have read (k : Nat) : hexDigit? (hexChar capital (n / 16 ^ k % 16)) = some (n / 16 ^ k % 16) :=
    hexDigit?_hexChar capital (Nat.mod_lt _ (by decide))
  induction k with
  | zero =>
    rw [hexDigits, List.cons_append, doubleWord, read, Option.bind_some, digit]
    simp only [Nat.pow_zero, Nat.div_one]
    rfl
  | succ k ih =>
    rw [hexDigits, List.cons_append, doubleWord, read, Option.bind_some]
    simp only [digit, ih]
    cases ofCode? n <;> cases doubleWord 0 0 cs <;> simp
    omega

theorem length_hexDigits (k n : Nat) : (hexDigits capital k n).length = k := by
  induction k with
  | zero => rfl
  | succ k ih => rw [hexDigits, List.length_cons, ih]

/-- Eight digits are enough for any character. -/
theorem toNat_lt (c : Char) : c.toNat < 16 ^ (7 + 1) := by
  have valid : c.toNat.isValidChar := c.valid
  simp only [Nat.isValidChar] at valid
  omega

/-- **A character is read from what stands for it**, within a word unless it is a blank. -/
theorem doubleWord_escape {c : Char} (h : c ≠ ' ') (cs : List Char) :
    doubleWord 0 0 (escape capital c ++ cs) =
      (doubleWord 0 0 cs).map (.cons c (escape capital c).length) := by
  by_cases literal : isLiteral c = true
  · have shown : isPrintable c = true ∧ c ≠ '"' ∧ c ≠ '\\' := by
      simpa [isLiteral, and_assoc] using literal
    obtain ⟨printable, quote, backslash⟩ := shown
    have inWord := isSpace_of_isPrintable printable h
    rw [escape, if_pos literal, List.singleton_append, doubleWord.eq_def]
    simp [inWord, isBreak_of_isPrintable printable, quote, backslash]
  · have code : c.toNat / 16 ^ (7 + 1) = 0 := Nat.div_eq_of_lt (toNat_lt c)
    have digits := doubleWord_hexDigits capital 7 c.toNat cs
    rw [code, Json.ofCode?_toNat, Option.bind_some] at digits
    rw [escape, if_neg literal, List.cons_append, List.cons_append, doubleWord.eq_def]
    change (doubleWord 8 0 (hexDigits capital 8 c.toNat ++ cs)).map _ = _
    rw [digits, List.length_cons, List.length_cons, length_hexDigits]
    cases doubleWord 0 0 cs with
    | none => rfl
    | some w => simp [Word.cons, ← Nat.add_assoc]

/-- A word is read up to the next blank, or to the closing quote. -/
theorem doubleWord_spelled {s : List Char} (h : ' ' ∉ s) {x : Char} (ends : x = ' ' ∨ x = '"')
    (rest : List Char) :
    doubleWord 0 0 (spelled capital s ++ x :: rest) =
      some (s, (spelled capital s).length, x :: rest) := by
  induction s with
  | nil =>
    rw [spelled, List.flatMap_nil, List.nil_append, doubleWord.eq_def]
    obtain rfl | rfl := ends <;> rfl
  | cons c s ih =>
    obtain ⟨here, there⟩ := not_or.1 (mt List.mem_cons.2 h)
    rw [spelled_cons, List.append_assoc, doubleWord_escape capital (Ne.symm here), ih there,
      List.length_append]
    rfl

/-! ## Gaps -/

/-- Blanks of one line are read up to what is none. -/
theorem read_blanks (limit : Nat) (spaces : List Char) (m : Mark) (n : Nat) {x : Char}
    (ends : isSpace x = false ∧ isBreak x = false) (rest : List Char) :
    Gap.read limit { spaces := spaces } m (List.replicate n ' ' ++ x :: rest) =
      some ({ spaces := spaces ++ List.replicate n ' ' }, ⟨m.right n, x :: rest⟩) := by
  have notReturn : x ≠ '\r' := by
    rintro rfl
    exact absurd ends.2 (by decide)
  induction n generalizing spaces m with
  | zero =>
    rw [List.replicate_zero, List.nil_append, Gap.read]
    · simp [ends]
    · intro cs here
      exact absurd here notReturn
  | succ n ih =>
    rw [List.replicate_succ, List.cons_append, Gap.read]
    · simp [isBreak, isSpace, ih, Mark.right_right, Nat.add_comm]
    · intro cs blank
      cases blank

/-- A text is blanks and what is behind them. -/
theorem exists_blanks (s : List Char) :
    ∃ n more, s = List.replicate n ' ' ++ more ∧ more.head? ≠ some ' ' := by
  induction s with
  | nil => exact ⟨0, [], rfl, by simp⟩
  | cons c s ih =>
    by_cases blank : c = ' '
    · obtain ⟨n, more, rfl, behind⟩ := ih
      exact ⟨n + 1, more, by rw [blank]; rfl, behind⟩
    · exact ⟨0, c :: s, rfl, by simpa using blank⟩

/-- A text is one word, or it is a word, blanks, and what is behind them. -/
theorem exists_word (s : List Char) :
    ' ' ∉ s ∨ ∃ word n more, s = word ++ List.replicate (n + 1) ' ' ++ more ∧
      ' ' ∉ word ∧ more.head? ≠ some ' ' := by
  induction s with
  | nil => exact .inl List.not_mem_nil
  | cons c s ih =>
    by_cases blank : c = ' '
    · obtain ⟨n, more, rfl, behind⟩ := exists_blanks s
      exact .inr ⟨[], n, more, by rw [blank]; rfl, List.not_mem_nil, behind⟩
    · have other {cs : List Char} (h : ' ' ∉ cs) : ' ' ∉ c :: cs := by
        simpa using ⟨Ne.symm blank, h⟩
      obtain one | ⟨word, n, more, rfl, front, behind⟩ := ih
      · exact .inl (other one)
      · exact .inr ⟨c :: word, n, more, rfl, other front, behind⟩

/-- Behind blanks there is something that ends the gap. -/
theorem exists_spelled_head {s : List Char} (h : s.head? ≠ some ' ') (rest : List Char) :
    ∃ x cs, spelled capital s ++ '"' :: rest = x :: cs ∧ isSpace x = false ∧ isBreak x = false := by
  cases s with
  | nil => exact ⟨'"', rest, rfl, rfl, rfl⟩
  | cons c s =>
    rw [spelled_cons, escape]
    split
    case isTrue literal =>
      have printable := isPrintable_of_isLiteral literal
      exact ⟨c, _, rfl, isSpace_of_isPrintable printable (by simpa using h),
        isBreak_of_isPrintable printable⟩
    case isFalse => exact ⟨'\\', _, rfl, rfl, rfl⟩

/-! ## The whole text -/

/-- The last word is read together with the closing quote. -/
theorem readFrom_word (fuel : Nat) (text : List Char) {m : Mark} (column : m.column ≠ 0)
    {word : List Char} (h : ' ' ∉ word) (rest : List Char) :
    readFrom true (fuel + 1) text ⟨m, spelled capital word ++ '"' :: rest⟩ =
      some (text ++ word, ⟨m.right ((spelled capital word).length + 1), rest⟩) := by
  rw [readFrom]
  simp [Cursor.atDocumentStart, Cursor.atDocumentEnd, column, doubleWord_spelled capital h,
    skipEscapedBreak, quote, Cursor.skip, Mark.right_right]

/-- Any other word is read together with the blanks behind it. -/
theorem readFrom_gap (fuel : Nat) (text : List Char) {m : Mark} (column : m.column ≠ 0)
    {word : List Char} (h : ' ' ∉ word) (n : Nat) {x : Char}
    (ends : isSpace x = false ∧ isBreak x = false) (rest : List Char) :
    readFrom true (fuel + 1) text
        ⟨m, spelled capital word ++ (List.replicate (n + 1) ' ' ++ x :: rest)⟩ =
      readFrom true fuel (text ++ (word ++ List.replicate (n + 1) ' '))
        ⟨m.right ((spelled capital word).length + (n + 1)), x :: rest⟩ := by
  have blanks := read_blanks 0 [] (m.right (spelled capital word).length) (n + 1) ends rest
  rw [List.replicate_succ, List.cons_append] at blanks ⊢
  rw [readFrom]
  simp [Cursor.atDocumentStart, Cursor.atDocumentEnd, column, doubleWord_spelled capital h,
    skipEscapedBreak, quote, blanks, Mark.right_right, Gap.joined]

/-- **A text is read on up to its closing quote.** -/
theorem readFrom_spelled (s text : List Char) {m : Mark} (column : m.column ≠ 0) {fuel : Nat}
    (enough : s.length < fuel) (rest : List Char) :
    readFrom true fuel text ⟨m, spelled capital s ++ '"' :: rest⟩ =
      some (text ++ s, ⟨m.right ((spelled capital s).length + 1), rest⟩) := by
  induction fuel generalizing s text m with
  | zero => exact absurd enough (Nat.not_lt_zero _)
  | succ fuel ih =>
    obtain one | ⟨word, n, more, rfl, front, behind⟩ := exists_word s
    · exact readFrom_word capital fuel text column one rest
    · obtain ⟨x, cs, shown, ends⟩ := exists_spelled_head capital behind rest
      have shorter : more.length < fuel := by
        simp only [List.length_append, List.length_replicate] at enough
        omega
      rw [spelled_append, spelled_append, spelled_blanks, List.append_assoc, List.append_assoc,
        shown, readFrom_gap capital fuel text column front n ends, ← shown,
        ih more _ (Mark.right_column_ne_zero column _) shorter]
      simp [Mark.right_right, Nat.add_assoc]

theorem length_le_spelled (s : List Char) : s.length ≤ (spelled capital s).length := by
  induction s with
  | nil => exact Nat.le_refl _
  | cons c s ih =>
    have one : 1 ≤ (escape capital c).length := by
      rw [escape]
      split <;> simp
    rw [spelled_cons, List.length_append, List.length_cons]
    omega

/-- **Any text is read back as it was written**, and what stands behind it is left. -/
theorem read_written (s : String) (m : Mark) (rest : List Char) :
    read true ⟨m, written capital s ++ rest⟩ =
      some (s.toList, ⟨m.right (written capital s).length, rest⟩) := by
  have enough : s.toList.length < (written capital s ++ rest).length + 1 := by
    have := length_le_spelled capital s.toList
    simp only [written, List.length_append, List.length_cons]
    omega
  have inside : (⟨m, written capital s ++ rest⟩ : Cursor).skip 1 =
      ⟨m.right 1, spelled capital s.toList ++ '"' :: rest⟩ := by
    simp [Cursor.skip, written]
  have column : (m.right 1).column ≠ 0 := Nat.succ_ne_zero _
  rw [read, inside, readFrom_spelled capital s.toList [] column enough]
  simp [written, Mark.right_right, Nat.add_comm 1]

/-! ## The characters of what is written -/

theorem isPrintable_hexChar {d : Nat} (h : d < 16) : isPrintable (hexChar capital d) = true := by
  revert d
  cases capital <;> decide

theorem isPrintable_of_mem_hexDigits (k n : Nat) :
    ∀ c ∈ hexDigits capital k n, isPrintable c = true := by
  induction k with
  | zero => simp [hexDigits]
  | succ k ih =>
    rw [hexDigits, List.forall_mem_cons]
    exact ⟨isPrintable_hexChar capital (Nat.mod_lt _ (by simp)), ih⟩

theorem isPrintable_of_mem_escape (c : Char) : ∀ x ∈ escape capital c, isPrintable x = true := by
  rw [escape]
  split
  case isTrue literal => simpa using isPrintable_of_isLiteral literal
  case isFalse =>
    rw [List.forall_mem_cons, List.forall_mem_cons]
    exact ⟨rfl, rfl, isPrintable_of_mem_hexDigits capital 8 c.toNat⟩

/-- **What is written is printable**, whatever the text. -/
theorem isPrintable_of_mem_written (s : String) :
    ∀ x ∈ written capital s, isPrintable x = true := by
  intro x hx
  simp only [written, spelled, List.mem_cons, List.mem_append, List.mem_flatMap, List.not_mem_nil,
    or_false] at hx
  obtain rfl | ⟨c, -, hx⟩ | rfl := hx
  · rfl
  · exact isPrintable_of_mem_escape capital c x hx
  · rfl

end Quoted

end Rowscript.Yaml
