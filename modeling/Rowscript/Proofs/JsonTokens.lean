import Rowscript.Json
import Rowscript.Yaml.Scalar.Quoted

/-!
# Proofs/JsonTokens — JSON text is cut into tokens

                 compact, pretty              Token.cut?
    value ──────────────────────────▸ text ──────────────▸ tokens
      └────────────────────── tokens ────────────────────────▴

A reader of JSON text that knows nothing of who wrote it.  Blanks stand between tokens as they like,
a string may have any escape that there is, a number is a natural number as in `Json`, and what no
token starts with is refused.  However a value is written, its text is cut into the tokens of the
value, as long as no number in it goes on into what stands behind (`cut?_compactChars`,
`cut?_prettyChars`).
-/

namespace Rowscript.Json

/-! ## Strings -/

/-- The character that a letter behind a backslash stands for. -/
def named? : Char → Option Char
  | '"' => some '"'
  | '\\' => some '\\'
  | '/' => some '/'
  | 'b' => some '\x08'
  | 'f' => some '\x0C'
  | 'n' => some '\n'
  | 'r' => some '\r'
  | 't' => some '\t'
  | _ => none

/-- What four hexadecimal digits stand for. -/
def unit? (a b c d : Char) : Option Nat :=
  [a, b, c, d].foldlM (fun n digit => (Yaml.hexDigit? digit).map (16 * n + ·)) 0

/-- The codes in a string, from behind its first quote, and the text behind its last one.  A control
never stands for itself. -/
def codes? : List Char → Option (List Nat × List Char)
  | [] => none
  | '"' :: cs => some ([], cs)
  | '\\' :: 'u' :: a :: b :: c :: d :: cs =>
    (unit? a b c d).bind fun n => (codes? cs).map fun (ns, rest) => (n :: ns, rest)
  | '\\' :: c :: cs =>
    (named? c).bind fun e => (codes? cs).map fun (ns, rest) => (e.toNat :: ns, rest)
  | c :: cs =>
    if c.toNat < 0x20 then none else (codes? cs).map fun (ns, rest) => (c.toNat :: ns, rest)

/-- The character of the two halves of a surrogate pair. -/
def pair? (high low : Nat) : Option Char :=
  if 0xD800 ≤ high ∧ high < 0xDC00 ∧ 0xDC00 ≤ low ∧ low < 0xE000 then
    Yaml.Quoted.ofCode? (0x10000 + 0x400 * (high - 0xD800) + (low - 0xDC00))
  else none

/-- The characters of a row of codes.  Half a surrogate pair counts with the other half behind it,
and for nothing alone. -/
def ofCodes? : List Nat → Option (List Char)
  | [] => some []
  | n :: ns =>
    match Yaml.Quoted.ofCode? n, ns with
    | some c, ns => (ofCodes? ns).map (c :: ·)
    | none, low :: ns => (pair? n low).bind fun c => (ofCodes? ns).map (c :: ·)
    | none, [] => none

/-- A string from behind its first quote, and the text behind its last one. -/
def string? (cs : List Char) : Option (String × List Char) :=
  (codes? cs).bind fun (ns, rest) => (ofCodes? ns).map fun s => (String.ofList s, rest)

theorem hex4_of_lt {n : Nat} (h : n < 0x20) :
    hex4 n = ['0', '0', (n / 16).digitChar, (n % 16).digitChar] := by
  revert n
  decide

theorem unit?_digitChar {n : Nat} (h : n < 0x20) :
    unit? '0' '0' (n / 16).digitChar (n % 16).digitChar = some n := by
  revert n
  decide

/-- **A character as it stands in a string has its code.** -/
theorem codes?_escaped (c : Char) (cs : List Char) :
    codes? (escaped c ++ cs) = (codes? cs).map fun (ns, rest) => (c.toNat :: ns, rest) := by
  unfold escaped
  split
  iterate 7 rfl
  next quote backslash _ _ _ _ _ =>
    split
    case isTrue control =>
      rw [hex4_of_lt control]
      change (unit? '0' '0' (c.toNat / 16).digitChar (c.toNat % 16).digitChar).bind _ = _
      rw [unit?_digitChar control]
      rfl
    case isFalse plain =>
      rw [List.singleton_append, codes?, if_neg plain]
      all_goals simp_all

/-- So the text of a string has the codes of its characters… -/
theorem codes?_literal (s rest : List Char) :
    codes? (s.flatMap escaped ++ '"' :: rest) = some (s.map Char.toNat, rest) := by
  induction s with
  | nil => rw [List.flatMap_nil, List.nil_append, codes?, List.map_nil]
  | cons c s ih => rw [List.flatMap_cons, List.append_assoc, codes?_escaped, ih]; rfl

theorem ofCode?_toNat (c : Char) : Yaml.Quoted.ofCode? c.toNat = some c := by
  have valid : c.toNat.isValidChar := c.valid
  rw [Yaml.Quoted.ofCode?, dif_pos valid]
  exact congrArg some (Char.ext (by rfl))

/-- …and no code of a character is half a surrogate pair. -/
theorem ofCodes?_toNat (s : List Char) : ofCodes? (s.map Char.toNat) = some s := by
  induction s with
  | nil => rfl
  | cons c s ih =>
    unfold ofCodes?
    simp only [List.map_cons, ofCode?_toNat, ih, Option.map_some]

/-- **A string is read as it was written**, whatever its characters. -/
theorem string?_literal (s : String) (rest : List Char) :
    string? (s.toList.flatMap escaped ++ '"' :: rest) = some (s, rest) := by
  rw [string?, codes?_literal]
  simp only [Option.bind_some, ofCodes?_toNat, Option.map_some, String.ofList_toList]

/-- What nobody has to write is read all the same; half a surrogate pair is not. -/
example : string? "\\ud83D\\uDE00\\/\".".toList = some ("😀/", ['.']) ∧
    string? "\\ud83d.\"".toList = none := by decide +kernel

/-! ## Numbers -/

/-- A natural number in front of a text, and the text behind it.  Zero alone starts with a zero. -/
def number? (cs : List Char) : Option (Nat × List Char) :=
  match cs.takeWhile Char.isDigit with
  | [] | '0' :: _ :: _ => none
  | ds => some (Nat.ofDigitChars 10 ds 0, cs.dropWhile Char.isDigit)

/-- A text that no number in front of it goes on into. -/
def EndsNumber (cs : List Char) : Prop := ∀ c ∈ cs.head?, c.isDigit = false

theorem endsNumber_nil : EndsNumber [] := by simp [EndsNumber]

theorem endsNumber_cons {c : Char} {cs : List Char} (h : c.isDigit = false) :
    EndsNumber (c :: cs) := by simp [EndsNumber, h]

/-- What satisfies `p` is taken up to what does not. -/
theorem span_append {p : Char → Bool} {front rest : List Char} (inside : ∀ c ∈ front, p c = true)
    (stops : ∀ c ∈ rest.head?, p c = false) :
    (front ++ rest).takeWhile p = front ∧ (front ++ rest).dropWhile p = rest := by
  have none : rest.takeWhile p = [] ∧ rest.dropWhile p = rest := by
    cases rest with
    | nil => exact ⟨rfl, rfl⟩
    | cons c cs => simp [stops c rfl]
  rw [List.takeWhile_append_of_pos inside, List.dropWhile_append_of_pos inside, none.1, none.2,
    List.append_nil]
  exact ⟨rfl, rfl⟩

/-- Digits that start with a zero are those of zero. -/
theorem eq_nil_of_toDigits_eq_zero_cons {n : Nat} {ds : List Char}
    (h : Nat.toDigits 10 n = '0' :: ds) : ds = [] := by
  induction n using Nat.strongRecOn generalizing ds with
  | _ n ih =>
    rw [Nat.toDigits_eq_if (by decide)] at h
    split at h
    case isTrue => exact (List.cons.inj h).2.symm
    case isFalse large =>
      cases front : Nat.toDigits 10 (n / 10) with
      | nil => exact absurd front Nat.toDigits_ne_nil
      | cons c cs =>
        rw [front, List.cons_append] at h
        obtain ⟨rfl, -⟩ := List.cons.inj h
        have alone := ih (n / 10) (by omega) front
        have zero : n / 10 = 0 := by
          rw [← @Nat.ofDigitChars_ten_toDigits (n / 10), front, alone]
          rfl
        omega

/-- **A number is read as it was written**, if it ends there. -/
theorem number?_toDigits (n : Nat) {rest : List Char} (h : EndsNumber rest) :
    number? (Nat.toDigits 10 n ++ rest) = some (n, rest) := by
  have digits : ∀ c ∈ Nat.toDigits 10 n, c.isDigit = true := fun _ =>
    Nat.isDigit_of_mem_toDigits (by decide) (by decide)
  obtain ⟨front, behind⟩ := span_append digits h
  rw [number?, front, behind]
  split
  next none => exact absurd none Nat.toDigits_ne_nil
  next zero => cases eq_nil_of_toDigits_eq_zero_cons zero
  next => rw [Nat.ofDigitChars_ten_toDigits]

/-! ## Tokens -/

/-- What JSON text is made of. -/
inductive Token where
  | null
  | bool (value : Bool)
  | number (value : Nat)
  | string (text : String)
  | openArray
  | closeArray
  | openObject
  | closeObject
  | comma
  | colon
  deriving DecidableEq, Repr

namespace Token

/-- The token in front of a text, and the text behind it. -/
def next? : List Char → Option (Token × List Char)
  | '[' :: cs => some (openArray, cs)
  | ']' :: cs => some (closeArray, cs)
  | '{' :: cs => some (openObject, cs)
  | '}' :: cs => some (closeObject, cs)
  | ',' :: cs => some (comma, cs)
  | ':' :: cs => some (colon, cs)
  | 'n' :: 'u' :: 'l' :: 'l' :: cs => some (null, cs)
  | 't' :: 'r' :: 'u' :: 'e' :: cs => some (bool true, cs)
  | 'f' :: 'a' :: 'l' :: 's' :: 'e' :: cs => some (bool false, cs)
  | '"' :: cs => (string? cs).map fun (s, rest) => (string s, rest)
  | cs => (number? cs).map fun (n, rest) => (number n, rest)

/-- What may stand between tokens. -/
def isBlank (c : Char) : Bool := c == ' ' || c == '\t' || c == '\n' || c == '\r'

end Token

/-- Whatever becomes of what is read, the text behind it is the same. -/
theorem exists_of_map {α β : Type} {x : Option (α × List Char)} {f : α → β} {b : β}
    {rest : List Char} (h : (x.map fun (a, rest) => (f a, rest)) = some (b, rest)) :
    ∃ a, x = some (a, rest) := by
  obtain ⟨⟨a, rest'⟩, found, same⟩ := Option.map_eq_some_iff.1 h
  obtain ⟨-, rfl⟩ := Prod.mk.inj same
  exact ⟨a, found⟩

theorem length_lt_of_codes? {cs rest : List Char} {ns : List Nat}
    (h : codes? cs = some (ns, rest)) : rest.length < cs.length := by
  fun_induction codes? cs generalizing ns with
  | case1 => cases h
  | case2 cs => cases h; exact Nat.lt_succ_self _
  | case3 a b c d cs ih =>
    obtain ⟨n, -, h⟩ := Option.bind_eq_some_iff.1 h
    obtain ⟨ns, found⟩ := exists_of_map h
    exact Nat.lt_of_lt_of_le (ih found) (Nat.le_add_right _ 6)
  | case4 c cs _ ih =>
    obtain ⟨e, -, h⟩ := Option.bind_eq_some_iff.1 h
    obtain ⟨ns, found⟩ := exists_of_map h
    exact Nat.lt_of_lt_of_le (ih found) (Nat.le_add_right _ 2)
  | case5 => cases h
  | case6 c cs _ _ _ _ ih =>
    obtain ⟨ns, found⟩ := exists_of_map h
    exact Nat.lt_succ_of_lt (ih found)

theorem length_lt_of_string? {cs rest : List Char} {s : String}
    (h : string? cs = some (s, rest)) : rest.length < cs.length := by
  obtain ⟨⟨ns, rest'⟩, found, h⟩ := Option.bind_eq_some_iff.1 h
  obtain ⟨_, -, same⟩ := Option.map_eq_some_iff.1 h
  obtain ⟨-, rfl⟩ := Prod.mk.inj same
  exact length_lt_of_codes? found

theorem length_lt_of_number? {cs rest : List Char} {n : Nat}
    (h : number? cs = some (n, rest)) : rest.length < cs.length := by
  have parts := congrArg List.length (List.takeWhile_append_dropWhile (p := Char.isDigit) (l := cs))
  rw [List.length_append] at parts
  unfold number? at h
  split at h
  case h_1 => cases h
  case h_2 => cases h
  case h_3 present _ =>
    obtain ⟨-, rfl⟩ := Prod.mk.inj (Option.some.inj h)
    have digits := List.length_pos_iff.2 present
    omega

/-- **A token is some of the text**, so what is behind it is shorter. -/
theorem length_lt_of_next? {cs rest : List Char} {t : Token}
    (h : Token.next? cs = some (t, rest)) : rest.length < cs.length := by
  unfold Token.next? at h
  split at h
  iterate 9
    obtain ⟨-, rfl⟩ := Prod.mk.inj (Option.some.inj h)
    simp only [List.length_cons]
    omega
  · obtain ⟨s, found⟩ := exists_of_map h
    exact Nat.lt_succ_of_lt (length_lt_of_string? found)
  · obtain ⟨n, found⟩ := exists_of_map h
    exact length_lt_of_number? found

namespace Token

/-- **Cuts a text into tokens**, if it is made of nothing else. -/
def cut? (cs : List Char) : Option (List Token) :=
  match cs with
  | [] => some []
  | c :: cs =>
    if isBlank c then cut? cs
    else
      match _h : next? (c :: cs) with
      | none => none
      | some (t, rest) => (cut? rest).map (t :: ·)
termination_by cs.length
decreasing_by
  · exact Nat.lt_succ_self _
  · exact length_lt_of_next? _h

@[simp] theorem cut?_nil : cut? [] = some [] := by rw [cut?]

/-- A blank is passed over… -/
theorem cut?_blank {c : Char} (blank : isBlank c = true) (cs : List Char) :
    cut? (c :: cs) = cut? cs := by
  rw [cut?, if_pos blank]

/-- …since no token starts with one. -/
theorem next?_blank {c : Char} (blank : isBlank c = true) (cs : List Char) :
    next? (c :: cs) = none := by
  simp only [isBlank, Bool.or_eq_true, beq_iff_eq] at blank
  obtain ((rfl | rfl) | rfl) | rfl := blank <;> rfl

/-- A token is cut off where it stands. -/
theorem cut?_of_next? {cs rest : List Char} {t : Token} {ts : List Token}
    (h : next? cs = some (t, rest)) (behind : cut? rest = some ts) : cut? cs = some (t :: ts) := by
  cases cs with
  | nil => cases h
  | cons c cs =>
    have solid : ¬isBlank c = true := fun blank => by
      rw [next?_blank blank] at h
      cases h
    rw [cut?, if_neg solid]
    split
    next none => rw [none] at h; cases h
    next found =>
      obtain ⟨rfl, rfl⟩ := Prod.mk.inj (Option.some.inj (found.symm.trans h))
      rw [behind, Option.map_some]

end Token

/-! ## The tokens of a value -/

mutual

/-- The tokens of a value, in order. -/
def tokens : Json → List Token
  | null => [.null]
  | bool b => [.bool b]
  | number n => [.number n]
  | string s => [.string s]
  | array [] => [.openArray, .closeArray]
  | array (x :: xs) => .openArray :: (tokens x ++ (itemTokens xs ++ [.closeArray]))
  | object [] => [.openObject, .closeObject]
  | object ((k, x) :: xs) =>
    .openObject :: .string k :: .colon :: (tokens x ++ (memberTokens xs ++ [.closeObject]))

/-- The tokens of further items. -/
def itemTokens : List Json → List Token
  | [] => []
  | x :: xs => .comma :: (tokens x ++ itemTokens xs)

/-- The tokens of further members. -/
def memberTokens : List (String × Json) → List Token
  | [] => []
  | (k, x) :: xs => .comma :: .string k :: .colon :: (tokens x ++ memberTokens xs)

end

open Token (cut?)

section Cut

variable {rest : List Char} {ts : List Token}

/-- A string is one token… -/
theorem cut?_literal (s : String) (h : cut? rest = some ts) :
    cut? (literal s ++ rest) = some (.string s :: ts) := by
  have shape : literal s ++ rest = '"' :: (s.toList.flatMap escaped ++ '"' :: rest) := by
    simp [literal]
  refine Token.cut?_of_next? ?_ h
  rw [shape, Token.next?, string?_literal]
  rfl

/-- …and so is a number, where it ends. -/
theorem cut?_toDigits (n : Nat) (ends : EndsNumber rest) (h : cut? rest = some ts) :
    cut? (Nat.toDigits 10 n ++ rest) = some (.number n :: ts) := by
  refine Token.cut?_of_next? ?_ h
  have read := number?_toDigits n ends
  cases digits : Nat.toDigits 10 n with
  | nil => exact absurd digits Nat.toDigits_ne_nil
  | cons c cs =>
    have digit : c.isDigit = true :=
      Nat.isDigit_of_mem_toDigits (b := 10) (n := n) (by decide) (by decide) (by simp [digits])
    rw [digits] at read
    rw [List.cons_append] at read ⊢
    rw [Token.next?, read]
    · rfl
    all_goals
      intro rest same
      rw [(List.cons.inj same).1] at digit
      exact absurd digit (by decide)

/-- A mark is a token wherever it stands. -/
theorem cut?_mark (c : Char) (t : Token) (mark : ∀ cs, Token.next? (c :: cs) = some (t, cs))
    (h : cut? rest = some ts) : cut? (c :: rest) = some (t :: ts) :=
  Token.cut?_of_next? (mark rest) h

/-- The start of a line is passed over. -/
theorem cut?_newline (level : Nat) (cs : List Char) : cut? (newline level ++ cs) = cut? cs := by
  rw [newline, List.cons_append, Token.cut?_blank rfl]
  induction 2 * level with
  | zero => rfl
  | succ n ih => rw [List.replicate_succ, List.cons_append, Token.cut?_blank rfl, ih]

end Cut

/-! ## Both written forms have these tokens -/

section Written

variable {rest : List Char}

theorem endsNumber_compactItems (xs : List Json) (h : EndsNumber rest) :
    EndsNumber (compactItems xs ++ rest) := by
  cases xs with
  | nil => exact h
  | cons x xs => rw [compactItems]; exact endsNumber_cons rfl

theorem endsNumber_compactMembers (xs : List (String × Json)) (h : EndsNumber rest) :
    EndsNumber (compactMembers xs ++ rest) := by
  cases xs with
  | nil => exact h
  | cons x xs => rw [compactMembers]; exact endsNumber_cons rfl

theorem endsNumber_prettyItems (level : Nat) (xs : List Json) (h : EndsNumber rest) :
    EndsNumber (prettyItems level xs ++ rest) := by
  cases xs with
  | nil => exact h
  | cons x xs => rw [prettyItems]; exact endsNumber_cons rfl

theorem endsNumber_prettyMembers (level : Nat) (xs : List (String × Json)) (h : EndsNumber rest) :
    EndsNumber (prettyMembers level xs ++ rest) := by
  cases xs with
  | nil => exact h
  | cons x xs => rw [prettyMembers]; exact endsNumber_cons rfl

theorem endsNumber_newline (level : Nat) : EndsNumber (newline level ++ rest) :=
  endsNumber_cons rfl

end Written

mutual

/-- **A value without blanks is cut into its tokens**, in front of any tokens at all. -/
theorem cut?_compactChars : (v : Json) → {rest : List Char} → {ts : List Token} →
    EndsNumber rest → cut? rest = some ts → cut? (compactChars v ++ rest) = some (tokens v ++ ts)
  | null, _, _, _, h | bool true, _, _, _, h | bool false, _, _, _, h => Token.cut?_of_next? rfl h
  | number n, _, _, ends, h => cut?_toDigits n ends h
  | string s, _, _, _, h => cut?_literal s h
  | array [], _, _, _, h | object [], _, _, _, h =>
    Token.cut?_of_next? rfl (Token.cut?_of_next? rfl h)
  | array (x :: xs), _, _, _, h => by
    have items := cut?_compactItems xs (endsNumber_cons rfl)
      (cut?_mark ']' .closeArray (fun _ => rfl) h)
    have first := cut?_compactChars x (endsNumber_compactItems xs (endsNumber_cons rfl)) items
    simpa [compactChars, tokens] using cut?_mark '[' .openArray (fun _ => rfl) first
  | object ((k, x) :: xs), _, _, _, h => by
    have members := cut?_compactMembers xs (endsNumber_cons rfl)
      (cut?_mark '}' .closeObject (fun _ => rfl) h)
    have first := cut?_compactChars x (endsNumber_compactMembers xs (endsNumber_cons rfl)) members
    have key := cut?_literal k (cut?_mark ':' .colon (fun _ => rfl) first)
    simpa [compactChars, tokens] using cut?_mark '{' .openObject (fun _ => rfl) key

theorem cut?_compactItems : (xs : List Json) → {rest : List Char} → {ts : List Token} →
    EndsNumber rest → cut? rest = some ts →
      cut? (compactItems xs ++ rest) = some (itemTokens xs ++ ts)
  | [], _, _, _, h => h
  | x :: xs, _, _, ends, h => by
    have items := cut?_compactItems xs ends h
    have first := cut?_compactChars x (endsNumber_compactItems xs ends) items
    simpa [compactItems, itemTokens] using cut?_mark ',' .comma (fun _ => rfl) first

theorem cut?_compactMembers : (xs : List (String × Json)) → {rest : List Char} →
    {ts : List Token} → EndsNumber rest → cut? rest = some ts →
      cut? (compactMembers xs ++ rest) = some (memberTokens xs ++ ts)
  | [], _, _, _, h => h
  | (k, x) :: xs, _, _, ends, h => by
    have members := cut?_compactMembers xs ends h
    have first := cut?_compactChars x (endsNumber_compactMembers xs ends) members
    have key := cut?_literal k (cut?_mark ':' .colon (fun _ => rfl) first)
    simpa [compactMembers, memberTokens] using cut?_mark ',' .comma (fun _ => rfl) key

end

mutual

/-- **…and so is a value with a line for every member and item**, whatever its level. -/
theorem cut?_prettyChars : (v : Json) → (level : Nat) → {rest : List Char} → {ts : List Token} →
    EndsNumber rest → cut? rest = some ts →
      cut? (prettyChars level v ++ rest) = some (tokens v ++ ts)
  | null, _, _, _, _, h | bool true, _, _, _, _, h | bool false, _, _, _, _, h =>
    Token.cut?_of_next? rfl h
  | number n, _, _, _, ends, h => cut?_toDigits n ends h
  | string s, _, _, _, _, h => cut?_literal s h
  | array [], _, _, _, _, h | object [], _, _, _, _, h =>
    Token.cut?_of_next? rfl (Token.cut?_of_next? rfl h)
  | array (x :: xs), level, _, _, _, h => by
    have closed := (cut?_newline level _).trans (cut?_mark ']' .closeArray (fun _ => rfl) h)
    have items := cut?_prettyItems xs (level + 1) (endsNumber_newline level) closed
    have first := (cut?_newline (level + 1) _).trans (cut?_prettyChars x (level + 1)
      (endsNumber_prettyItems (level + 1) xs (endsNumber_newline level)) items)
    simpa [prettyChars, tokens] using cut?_mark '[' .openArray (fun _ => rfl) first
  | object ((k, x) :: xs), level, _, _, _, h => by
    have closed := (cut?_newline level _).trans (cut?_mark '}' .closeObject (fun _ => rfl) h)
    have members := cut?_prettyMembers xs (level + 1) (endsNumber_newline level) closed
    have first := (Token.cut?_blank (c := ' ') rfl _).trans (cut?_prettyChars x (level + 1)
      (endsNumber_prettyMembers (level + 1) xs (endsNumber_newline level)) members)
    have key := (cut?_newline (level + 1) _).trans
      (cut?_literal k (cut?_mark ':' .colon (fun _ => rfl) first))
    simpa [prettyChars, tokens] using cut?_mark '{' .openObject (fun _ => rfl) key

theorem cut?_prettyItems : (xs : List Json) → (level : Nat) → {rest : List Char} →
    {ts : List Token} → EndsNumber rest → cut? rest = some ts →
      cut? (prettyItems level xs ++ rest) = some (itemTokens xs ++ ts)
  | [], _, _, _, _, h => h
  | x :: xs, level, _, _, ends, h => by
    have items := cut?_prettyItems xs level ends h
    have first := (cut?_newline level _).trans
      (cut?_prettyChars x level (endsNumber_prettyItems level xs ends) items)
    simpa [prettyItems, itemTokens] using cut?_mark ',' .comma (fun _ => rfl) first

theorem cut?_prettyMembers : (xs : List (String × Json)) → (level : Nat) → {rest : List Char} →
    {ts : List Token} → EndsNumber rest → cut? rest = some ts →
      cut? (prettyMembers level xs ++ rest) = some (memberTokens xs ++ ts)
  | [], _, _, _, _, h => h
  | (k, x) :: xs, level, _, _, ends, h => by
    have members := cut?_prettyMembers xs level ends h
    have first := (Token.cut?_blank (c := ' ') rfl _).trans
      (cut?_prettyChars x level (endsNumber_prettyMembers level xs ends) members)
    have key := (cut?_newline level _).trans
      (cut?_literal k (cut?_mark ':' .colon (fun _ => rfl) first))
    simpa [prettyMembers, memberTokens] using cut?_mark ',' .comma (fun _ => rfl) key

end

end Rowscript.Json
