import Rowscript.Variables

/-!
# Template — texts with placeholders

A placeholder is `${`, a name and the first `}` behind it; the name is taken as it stands.  Read from
the left, a text is a row of literal pieces, each with the placeholder behind it, and a tail without
one (`Template.ofChars`).  `fill` puts the values in; a placeholder without a value stays as it is
written, and a value is never read again.
-/

namespace Rowscript

/-- A text cut at its placeholders. -/
structure Template where
  /-- Literal text and the name in the placeholder behind it. -/
  pieces : List (List Char × List Char)
  /-- What stands behind the last placeholder. -/
  tail : List Char
  deriving DecidableEq, Repr

namespace Template

/-! ## Cutting -/

/-- The text before and behind the first `${`. -/
def opening? : List Char → Option (List Char × List Char)
  | '$' :: '{' :: cs => some ([], cs)
  | [] => none
  | c :: cs => (opening? cs).map fun (before, behind) => (c :: before, behind)

/-- The text before and behind the first `}`. -/
def closing? : List Char → Option (List Char × List Char)
  | [] => none
  | '}' :: cs => some ([], cs)
  | c :: cs => (closing? cs).map fun (before, behind) => (c :: before, behind)

theorem eq_of_opening? {cs before behind : List Char} (h : opening? cs = some (before, behind)) :
    cs = before ++ '$' :: '{' :: behind := by
  fun_induction opening? cs generalizing before with
  | case1 cs => simp_all
  | case2 => simp at h
  | case3 c cs _ ih =>
    obtain ⟨⟨b, r⟩, hb, he⟩ := Option.map_eq_some_iff.1 h
    simp only [Prod.mk.injEq] at he
    obtain ⟨rfl, rfl⟩ := he
    rw [ih hb, List.cons_append]

theorem eq_of_closing? {cs before behind : List Char} (h : closing? cs = some (before, behind)) :
    cs = before ++ '}' :: behind := by
  fun_induction closing? cs generalizing before with
  | case1 => simp at h
  | case2 cs => simp_all
  | case3 c cs _ ih =>
    obtain ⟨⟨b, r⟩, hb, he⟩ := Option.map_eq_some_iff.1 h
    simp only [Prod.mk.injEq] at he
    obtain ⟨rfl, rfl⟩ := he
    rw [ih hb, List.cons_append]

/-- The text before the first placeholder, the name in it and the text behind it. -/
def first? (cs : List Char) : Option (List Char × List Char × List Char) :=
  (opening? cs).bind fun (literal, inner) =>
    (closing? inner).map fun (name, rest) => (literal, name, rest)

theorem eq_of_first? {cs literal name rest : List Char}
    (h : first? cs = some (literal, name, rest)) :
    cs = literal ++ '$' :: '{' :: (name ++ '}' :: rest) := by
  obtain ⟨⟨l, inner⟩, ho, h⟩ := Option.bind_eq_some_iff.1 h
  obtain ⟨⟨n, r⟩, hc, he⟩ := Option.map_eq_some_iff.1 h
  simp only [Prod.mk.injEq] at he
  obtain ⟨rfl, rfl, rfl⟩ := he
  rw [eq_of_opening? ho, eq_of_closing? hc]

theorem length_lt_of_first? {cs literal name rest : List Char}
    (h : first? cs = some (literal, name, rest)) : rest.length < cs.length := by
  rw [eq_of_first? h]
  simp only [List.length_append, List.length_cons]
  omega

/-- **Cuts a text at its placeholders**, from the left. -/
def ofChars (cs : List Char) : Template :=
  match _h : first? cs with
  | none => ⟨[], cs⟩
  | some (literal, name, rest) =>
    let t := ofChars rest
    ⟨(literal, name) :: t.pieces, t.tail⟩
termination_by cs.length
decreasing_by exact length_lt_of_first? _h

/-! ## Filling -/

/-- A placeholder as it is written. -/
def placeholder (name : List Char) : List Char := '$' :: '{' :: name ++ ['}']

/-- The value of a placeholder, or the placeholder itself. -/
def fillName (value : String → Option String) (name : List Char) : List Char :=
  match value (String.ofList name) with
  | some text => text.toList
  | none => placeholder name

/-- **The text with the values in it.** -/
def fill (value : String → Option String) (t : Template) : List Char :=
  (t.pieces.flatMap fun (literal, name) => literal ++ fillName value name) ++ t.tail

/-- The names in the placeholders, from left to right. -/
def names (t : Template) : List String := t.pieces.map fun piece => String.ofList piece.2

end Template

/-- **A text with its placeholders replaced** by what their names stand for. -/
def Variables.expand (v : Variables) (text : String) : String :=
  String.ofList ((Template.ofChars text.toList).fill v.get?)

end Rowscript
