import Rowscript.Proofs.Effect
import Rowscript.Text.Numeral

/-!
# Proofs/Timeout — which texts are timeouts, and what a pause makes of them

    +  0…0  digits of n     n < 2^64

A numeral is a row of ASCII digits, with one plus sign in front or without (`Text.IsNumeral`), and a
timeout is a numeral whose value is a word of 64 bits (`Step.IsTimeout`).  The reader takes these and
nothing else, with the value that the digits have (`Text.word?_eq_some_iff`): it neither overflows nor
stops short.  A pause waits as long as its timeout says, and a text that is none is its error
(`Step.pause_by_timeout`).
-/

namespace Rowscript

namespace Text

/-- **The characters are a numeral of the number**: digits, at least one, whose value is the number,
and at most one plus sign in front of them. -/
def IsNumeral (cs : List Char) (n : Nat) : Prop :=
  ∃ digits, (cs = digits ∨ cs = '+' :: digits) ∧ digits ≠ [] ∧
    (∀ c ∈ digits, c.isDigit = true) ∧ Nat.ofDigitChars 10 digits 0 = n

variable {cs : List Char} {n : Nat}

theorem digit?_eq (c : Char) :
    digit? c = if c.isDigit then some (c.toNat - '0'.toNat) else none := rfl

/-- Digits behind digits have the value that their row has. -/
theorem digits?_eq_some_iff {acc : Nat} :
    digits? acc cs = some n ↔
      (∀ c ∈ cs, c.isDigit = true) ∧ Nat.ofDigitChars 10 cs acc = n := by
  induction cs generalizing acc with
  | nil => simp [digits?]
  | cons c cs ih =>
    rw [digits?, digit?_eq, List.forall_mem_cons, Nat.ofDigitChars_cons]
    by_cases digit : c.isDigit
    · simp only [digit, if_true, true_and]
      exact ih
    · simp [digit]

theorem natural?_eq_some_iff :
    natural? cs = some n ↔
      cs ≠ [] ∧ (∀ c ∈ cs, c.isDigit = true) ∧ Nat.ofDigitChars 10 cs 0 = n := by
  cases cs with
  | nil => simp [natural?]
  | cons c cs =>
    rw [natural?, digits?_eq_some_iff]
    simp

/-- A digit is not a sign. -/
theorem unsigned_of_digits (h : ∀ c ∈ cs, c.isDigit = true) : unsigned cs = cs := by
  unfold unsigned
  split
  · cases h '+' List.mem_cons_self
  · rfl

/-- The digits of a numeral are what is left behind its sign. -/
theorem isNumeral_iff :
    IsNumeral cs n ↔ unsigned cs ≠ [] ∧ (∀ c ∈ unsigned cs, c.isDigit = true) ∧
      Nat.ofDigitChars 10 (unsigned cs) 0 = n := by
  constructor
  · rintro ⟨digits, rfl | rfl, some, all, value⟩
    · rw [unsigned_of_digits all]
      exact ⟨some, all, value⟩
    · exact ⟨some, all, value⟩
  · intro left
    refine ⟨unsigned cs, ?_, left⟩
    unfold unsigned
    split
    · exact .inr rfl
    · exact .inl rfl

theorem IsNumeral.unique {m : Nat} (h : IsNumeral cs n) (k : IsNumeral cs m) : n = m :=
  (isNumeral_iff.1 h).2.2.symm.trans (isNumeral_iff.1 k).2.2

/-- **The reader takes numerals of words**, with their values, and nothing else. -/
theorem word?_eq_some_iff : word? cs = some n ↔ IsNumeral cs n ∧ n ≤ Word.maxUnsigned64 := by
  rw [word?, Option.filter_eq_some_iff, natural?_eq_some_iff, ← isNumeral_iff, decide_eq_true_eq]

/-- A numeral has a digit, and has digits and signs only. -/
theorem IsNumeral.characters (h : IsNumeral cs n) :
    (∃ c ∈ cs, c.isDigit = true) ∧ ∀ c ∈ cs, c.isDigit = true ∨ c = '+' := by
  obtain ⟨digits, signed, some, all, -⟩ := h
  obtain ⟨d, here⟩ := List.exists_mem_of_ne_nil digits some
  obtain rfl | rfl := signed
  · exact ⟨⟨d, here, all d here⟩, fun c h => .inl (all c h)⟩
  · refine ⟨⟨d, List.mem_cons_of_mem _ here, all d here⟩, fun c h => ?_⟩
    exact (List.mem_cons.1 h).symm.imp_left (all c)

/-- **The digits of a number, behind zeros and a sign or without, are a numeral of it.** -/
theorem isNumeral_toDigits (plus : Bool) (zeros n : Nat) :
    IsNumeral ((if plus then ['+'] else []) ++ (List.replicate zeros '0' ++ Nat.toDigits 10 n))
      n := by
  refine ⟨List.replicate zeros '0' ++ Nat.toDigits 10 n, ?_, ?_, fun c h => ?_, ?_⟩
  · cases plus
    · exact .inl rfl
    · exact .inr rfl
  · exact List.append_ne_nil_of_right_ne_nil _ Nat.toDigits_ne_nil
  · obtain zero | digit := List.mem_append.1 h
    · rw [List.eq_of_mem_replicate zero]
      rfl
    · exact Nat.isDigit_of_mem_toDigits (by decide) (by decide) digit
  · rw [Nat.ofDigitChars_append, Nat.ofDigitChars_replicate_zero, Nat.mul_zero,
      Nat.ofDigitChars_ten_toDigits]

end Text

namespace Step

open Text (IsNumeral)

/-- **The text is a timeout of so many milliseconds.** -/
def IsTimeout (text : String) (ms : Nat) : Prop :=
  IsNumeral text.toList ms ∧ ms ≤ 18446744073709551615

theorem isTimeout_iff {text : String} {ms : Nat} :
    IsTimeout text ms ↔ Text.word? text.toList = some ms := Text.word?_eq_some_iff.symm

instance (text : String) (ms : Nat) : Decidable (IsTimeout text ms) :=
  decidable_of_iff _ isTimeout_iff.symm

/-- What a pause with a timeout leaves, told by its wait. -/
theorem performPause_of_isTimeout (w : World) {text : String} {ms : Nat} (h : IsTimeout text ms)
    (s : State) :
    (performPause w text s).2.waits = s.waits ++ [ms] ∧
      ((performPause w text s).2.isInterrupted = true ↔
        s.isInterrupted = true ∨ w.arrives (s.waits ++ [ms]) = true) ∧
      (performPause w text s).1 =
        if (performPause w text s).2.isInterrupted then .error .interrupted
        else .ok (.done .clean) := by
  have waits := (s.note (.pausing ms)).wait_waits w ms
  have set := (s.note (.pausing ms)).wait_isInterrupted w ms
  have early := (s.note (.pausing ms)).wait_fst_iff w ms
  rw [performPause_of_some w (isTimeout_iff.1 h), ← State.note_wait_fst w s (.pausing ms)]
  split
  case isTrue cut =>
    exact ⟨waits, iff_of_true (set.trans cut) (early.1 cut), (if_pos (set.trans cut)).symm⟩
  case isFalse uncut =>
    have unset := set.trans (Bool.eq_false_iff.2 uncut)
    exact ⟨waits, iff_of_false (by simp [unset]) fun cut => uncut (early.2 cut), by simp [unset]⟩

/-- A number as it may be written: its digits behind zeros and a plus sign, or without. -/
def written (plus : Bool) (zeros n : Nat) : String :=
  (if plus then "+" else "") ++ (String.ofList (List.replicate zeros '0') ++ toString n)

theorem isTimeout_written_iff {plus : Bool} {zeros n ms : Nat} :
    IsTimeout (written plus zeros n) ms ↔ ms = n ∧ n ≤ 18446744073709551615 := by
  have numeral : IsNumeral (written plus zeros n).toList n := by
    have digits := Text.isNumeral_toDigits plus zeros n
    cases plus <;> simpa [written, Nat.toString_eq_ofList_toDigits] using digits
  constructor
  · rintro ⟨other, word⟩
    obtain rfl := other.unique numeral
    exact ⟨rfl, word⟩
  · rintro ⟨rfl, word⟩
    exact ⟨numeral, word⟩

/-- **A pause waits for as long as its timeout says.**  It is an interrupt if the interrupt is set by
the end of the wait, because it was set before or arrives in it, and clean otherwise; a text that is
no timeout is an error that holds it as it stands, and nothing is waited for.  Variables, lines and
calls stay as they are.  A timeout is a numeral, so it has one value, a digit, and no other characters
than digits and signs; every number below 2^64 is the value of its digits, behind zeros and a plus
sign or without, and no greater number is a timeout. -/
theorem pause_by_timeout (w : World) (s : State) (locator : String) :
    let text := s.expand locator
    let paused := (Step.pause locator).perform w s
    (∀ ms, IsTimeout text ms →
      paused.2.waits = s.waits ++ [ms] ∧
      (paused.2.isInterrupted = true ↔
        s.isInterrupted = true ∨ w.arrives (s.waits ++ [ms]) = true) ∧
      paused.1 = if paused.2.isInterrupted then .error .interrupted else .ok (.done .clean)) ∧
    ((∀ ms, ¬IsTimeout text ms) →
      paused = (.ok (.done (.error ("Unable to parse timeout: " ++ text))), s)) ∧
    paused.2.vars = s.vars ∧ paused.2.lines = s.lines ∧ paused.2.calls = s.calls ∧
    (∀ t ms ms', IsTimeout t ms → IsTimeout t ms' → ms = ms') ∧
    (∀ t ms, IsTimeout t ms →
      (∃ c ∈ t.toList, c.isDigit = true) ∧ ∀ c ∈ t.toList, c.isDigit = true ∨ c = '+') ∧
    ∀ plus zeros n ms,
      IsTimeout (written plus zeros n) ms ↔ ms = n ∧ n ≤ 18446744073709551615 := by
  intro text paused
  refine ⟨fun ms timeout => performPause_of_isTimeout w timeout s, fun none => ?_, ?_, ?_, ?_,
    fun t ms ms' h h' => h.1.unique h'.1, fun t ms h => h.1.characters,
    fun plus zeros n ms => isTimeout_written_iff⟩
  · have unread : Text.word? text.toList = Option.none :=
      Option.eq_none_iff_forall_ne_some.2 fun ms read => none ms (isTimeout_iff.2 read)
    exact performPause_of_none w unread s
  · exact performPause_keeps State.vars State.note_vars w (State.wait_vars w) text s
  · exact performPause_keeps State.lines State.note_lines w (State.wait_lines w) text s
  · exact performPause_keeps State.calls State.note_calls w (State.wait_calls w) text s

/-- A timeout with a sign and zeros that comes from a variable: waited for, and cut short by an
interrupt that arrives in the wait, even where there is no time to wait.  One more than the greatest
word is an error. -/
theorem pause_by_timeout_words :
    let s : State := { vars := Variables.ofList [("t", "+000"), ("n", "18446744073709551616")] }
    let waited := (Step.pause "${t}5").perform {} s
    let w : World := { arrives := fun _ => true }
    let cut := (Step.pause "${t}").perform w s
    IsTimeout (s.expand "${t}5") 5 ∧ waited.2.waits = [5] ∧ waited.1 = .ok (.done .clean) ∧
      cut.2.waits = [0] ∧ cut.1 = .error .interrupted ∧
      (Step.pause "${n}").perform {} s
        = (.ok (.done (.error "Unable to parse timeout: 18446744073709551616")), s) ∧
      ¬IsTimeout "-5" 5 := by
  intro s waited w cut
  have five : IsTimeout (s.expand "${t}5") 5 := by decide +kernel
  have zero : IsTimeout (s.expand "${t}") 0 := by decide +kernel
  obtain ⟨accepted, -⟩ := pause_by_timeout {} s "${t}5"
  obtain ⟨soon, -⟩ := pause_by_timeout w s "${t}"
  obtain ⟨-, rejected, -, -, -, -, plain, greater⟩ := pause_by_timeout {} s "${n}"
  obtain ⟨waits, set, reply⟩ := accepted 5 five
  obtain ⟨waits', set', reply'⟩ := soon 0 zero
  refine ⟨five, waits, ?_, waits', ?_, ?_, fun timeout => ?_⟩
  · rw [reply, if_neg fun interrupted => absurd (set.1 interrupted) (by decide)]
  · rw [reply', if_pos (set'.2 (.inr rfl))]
  · have text : s.expand "${n}" = written false 0 18446744073709551616 := by decide +kernel
    have greatest := rejected fun ms timeout => by
      rw [text] at timeout
      exact absurd ((greater _ _ _ _).1 timeout).2 (by decide)
    rwa [text] at greatest
  · exact absurd ((plain _ _ timeout).2 '-' (by decide)) (by decide)

end Step

end Rowscript
