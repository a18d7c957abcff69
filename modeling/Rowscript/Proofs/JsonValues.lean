import Rowscript.Proofs.JsonTokens

/-!
# Proofs/JsonValues — JSON text is read back

    text ──Token.cut?──▸ tokens ──value?──▸ value

The grammar of JSON over tokens, and the reader of a whole text (`ofText?`).  The tokens of a value
are read as that value, whatever stands behind them (`value?_tokens`), so **a value that is written is
the value that is read**, in either form (`ofText?_compact`, `ofText?_pretty`).
-/

namespace Rowscript.Json

/-! ## The grammar -/

mutual

/-- A value, and the tokens behind it.  The number bounds how deep and how far is read. -/
def value? : Nat → List Token → Option (Json × List Token)
  | _ + 1, .null :: ts => some (null, ts)
  | _ + 1, .bool b :: ts => some (bool b, ts)
  | _ + 1, .number n :: ts => some (number n, ts)
  | _ + 1, .string s :: ts => some (string s, ts)
  | _ + 1, .openArray :: .closeArray :: ts => some (array [], ts)
  | fuel + 1, .openArray :: ts => (items? fuel ts).map fun (xs, ts) => (array xs, ts)
  | _ + 1, .openObject :: .closeObject :: ts => some (object [], ts)
  | fuel + 1, .openObject :: ts => (members? fuel ts).map fun (xs, ts) => (object xs, ts)
  | _, _ => none

/-- One item or more, up to the end of the array. -/
def items? : Nat → List Token → Option (List Json × List Token)
  | 0, _ => none
  | fuel + 1, ts =>
    match value? fuel ts with
    | some (x, .comma :: ts) => (items? fuel ts).map fun (xs, ts) => (x :: xs, ts)
    | some (x, .closeArray :: ts) => some ([x], ts)
    | _ => none

/-- One member or more, up to the end of the object. -/
def members? : Nat → List Token → Option (List (String × Json) × List Token)
  | fuel + 1, .string k :: .colon :: ts =>
    match value? fuel ts with
    | some (x, .comma :: ts) => (members? fuel ts).map fun (xs, ts) => ((k, x) :: xs, ts)
    | some (x, .closeObject :: ts) => some ([(k, x)], ts)
    | _ => none
  | _, _ => none

end

/-- **Reads a JSON text**: one value, and nothing but blanks around it. -/
def ofText? (text : String) : Option Json :=
  (Token.cut? text.toList).bind fun ts =>
    match value? ts.length ts with
    | some (v, []) => some v
    | _ => none

/-! ## Tokens of a value are read as that value -/

/-- The value is what its tokens are read as, given as many steps as there are tokens. -/
def IsRead (v : Json) : Prop :=
  ∀ (fuel : Nat) (rest : List Token), (tokens v).length ≤ fuel →
    value? fuel (tokens v ++ rest) = some (v, rest)

/-- The first token of a value does not end an array. -/
theorem tokens_append_ne (v : Json) (rest ts : List Token) :
    tokens v ++ rest ≠ .closeArray :: ts := by
  cases v with
  | array xs => cases xs <;> simp [tokens]
  | object ms => cases ms <;> simp [tokens]
  | _ => simp [tokens]

mutual

/-- **The tokens of a value are read as the value.** -/
theorem value?_tokens : (v : Json) → IsRead v
  | null | bool _ | number _ | string _ | array [] | object [] => by
    intro fuel rest enough
    cases fuel with
    | zero => simp [tokens] at enough
    | succ fuel => rfl
  | array (x :: xs) => by
    intro fuel rest enough
    cases fuel with
    | zero => simp [tokens] at enough
    | succ fuel =>
      have fits : (tokens x).length + (itemTokens xs).length < fuel := by
        simp only [tokens, List.length_cons, List.length_append, List.length_nil] at enough
        omega
      have items := items?_tokens xs x (value?_tokens x) fuel rest fits
      simp only [tokens, List.cons_append, List.append_assoc, List.nil_append]
      rw [value?, items]
      · rfl
      · exact fun ts => tokens_append_ne x _ ts
  | object ((k, x) :: xs) => by
    intro fuel rest enough
    cases fuel with
    | zero => simp [tokens] at enough
    | succ fuel =>
      have fits : (tokens x).length + (memberTokens xs).length < fuel := by
        simp only [tokens, List.length_cons, List.length_append, List.length_nil] at enough
        omega
      have members := members?_tokens xs k x (value?_tokens x) fuel rest fits
      simp only [tokens, List.cons_append, List.append_assoc, List.nil_append]
      rw [value?, members]
      · rfl
      · exact nofun

/-- …items up to the end of their array… -/
theorem items?_tokens : (xs : List Json) → (x : Json) → IsRead x → (fuel : Nat) →
    (rest : List Token) → (tokens x).length + (itemTokens xs).length < fuel →
      items? fuel (tokens x ++ (itemTokens xs ++ .closeArray :: rest)) = some (x :: xs, rest)
  | _, _, _, 0, _, fits => absurd fits (Nat.not_lt_zero _)
  | [], x, read, fuel + 1, rest, fits => by
    rw [items?, read fuel _ (by omega)]
    rfl
  | y :: ys, x, read, fuel + 1, rest, fits => by
    have enough : (tokens y).length + (itemTokens ys).length < fuel := by
      simp only [itemTokens, List.length_cons, List.length_append] at fits
      omega
    have items := items?_tokens ys y (value?_tokens y) fuel rest enough
    rw [items?, read fuel _ (by omega)]
    simp only [itemTokens, List.cons_append, List.append_assoc, items, Option.map_some]

/-- …and members up to the end of their object. -/
theorem members?_tokens : (xs : List (String × Json)) → (k : String) → (x : Json) → IsRead x →
    (fuel : Nat) → (rest : List Token) → (tokens x).length + (memberTokens xs).length < fuel →
      members? fuel (.string k :: .colon :: (tokens x ++ (memberTokens xs ++ .closeObject :: rest)))
        = some ((k, x) :: xs, rest)
  | _, _, _, _, 0, _, fits => absurd fits (Nat.not_lt_zero _)
  | [], k, x, read, fuel + 1, rest, fits => by
    rw [members?, read fuel _ (by omega)]
    rfl
  | (l, y) :: ys, k, x, read, fuel + 1, rest, fits => by
    have enough : (tokens y).length + (memberTokens ys).length < fuel := by
      simp only [memberTokens, List.length_cons, List.length_append] at fits
      omega
    have members := members?_tokens ys l y (value?_tokens y) fuel rest enough
    rw [members?, read fuel _ (by omega)]
    simp only [memberTokens, List.cons_append, List.append_assoc, members, Option.map_some]

end

/-! ## Texts -/

/-- A text that is cut into the tokens of a value is read as that value. -/
theorem ofText?_of_cut? {text : String} {v : Json}
    (h : Token.cut? text.toList = some (tokens v)) : ofText? text = some v := by
  have read := value?_tokens v (tokens v).length [] (Nat.le_refl _)
  rw [List.append_nil] at read
  rw [ofText?, h, Option.bind_some, read]

/-- **A value without blanks is read back.** -/
@[simp] theorem ofText?_compact (v : Json) : ofText? v.compact = some v := by
  have cut := cut?_compactChars v endsNumber_nil Token.cut?_nil
  rw [List.append_nil, List.append_nil] at cut
  exact ofText?_of_cut? (by rw [compact, String.toList_ofList, cut])

/-- So is a value with a line for every member and item… -/
@[simp] theorem ofText?_pretty (v : Json) : ofText? v.pretty = some v := by
  have cut := cut?_prettyChars v 0 endsNumber_nil Token.cut?_nil
  rw [List.append_nil, List.append_nil] at cut
  exact ofText?_of_cut? (by rw [pretty, String.toList_ofList, cut])

/-- …with the end of the last line. -/
@[simp] theorem ofText?_pretty_newline (v : Json) : ofText? (v.pretty ++ "\n") = some v := by
  have cut := cut?_prettyChars v 0 (endsNumber_cons rfl)
    ((Token.cut?_blank (c := '\n') rfl []).trans Token.cut?_nil)
  rw [List.append_nil] at cut
  exact ofText?_of_cut? (by rw [pretty, String.toList_append, String.toList_ofList]; exact cut)

/-- A text that is not JSON is not read. -/
example : ["[1,]", "[01]", "[1] 2", "[nul]"].all (fun text => (ofText? text).isNone) = true := by
  decide +kernel

end Rowscript.Json
