import Rowscript.Proofs.Variables

/-!
# Proofs/Placeholders — the one way to cut a text at its placeholders

    text = literal ${name} literal ${name} … tail

A cut is said without the scanner: no literal holds an opener, no name holds a `}`, and the tail has
no opener, or no `}` behind its first one (`Template.Cuts`).  Every text is cut in exactly one way,
and that is how the scanner cuts it (`Template.cuts_iff`).  So an expansion is the cut text with the
values in the places of the names (`Variables.expand_by_cut`).
-/

namespace Rowscript

namespace Template

/-! ## Openers -/

/-- What a placeholder starts with. -/
def opener : List Char := ['$', '{']

/-- Somewhere in the text stands an opener. -/
def Opens (cs : List Char) : Prop := opener <:+: cs

instance (cs : List Char) : Decidable (Opens cs) := inferInstanceAs (Decidable (opener <:+: cs))

theorem not_opens_nil : ¬Opens [] := by simp [Opens, opener]

/-- An opener stands at the front, or behind. -/
theorem opens_cons {c : Char} {cs : List Char} :
    Opens (c :: cs) ↔ c = '$' ∧ cs.head? = some '{' ∨ Opens cs := by
  rw [Opens, List.infix_cons_iff, ← Opens, opener, List.cons_prefix_cons, eq_comm]
  cases cs with
  | nil => simp
  | cons d ds => simp [eq_comm]

/-- **Two texts open nothing new where they meet**, unless a dollar meets a brace. -/
theorem opens_append {a b : List Char} :
    Opens (a ++ b) ↔
      Opens a ∨ Opens b ∨ a.getLast? = some '$' ∧ b.head? = some '{' := by
  induction a with
  | nil => simp [not_opens_nil]
  | cons c a ih =>
    rw [List.cons_append, opens_cons, opens_cons, ih]
    cases a with
    | nil => simp [not_opens_nil, or_comm]
    | cons d a => simp [or_assoc]

theorem opens_opener (before behind : List Char) : Opens (before ++ opener ++ behind) :=
  ⟨before, behind, rfl⟩

/-! ## The two searches -/

theorem opening?_eq_none_iff {cs : List Char} : opening? cs = none ↔ ¬Opens cs := by
  fun_induction opening? cs with
  | case1 cs => simp [opens_cons]
  | case2 => simp [not_opens_nil]
  | case3 c cs other ih =>
    have here : ¬(c = '$' ∧ cs.head? = some '{') := by
      rintro ⟨rfl, head⟩
      obtain ⟨ds, rfl⟩ := List.head?_eq_some_iff.1 head
      exact other ds rfl rfl
    rw [Option.map_eq_none_iff, ih, opens_cons, or_iff_right here]

/-- **The first opener is found**: what it is found by has none in front of it. -/
theorem opening?_eq_some_iff {cs before behind : List Char} :
    opening? cs = some (before, behind) ↔ cs = before ++ opener ++ behind ∧ ¬Opens before := by
  constructor
  · intro h
    refine ⟨by simpa [opener] using eq_of_opening? h, ?_⟩
    fun_induction opening? cs generalizing before with
    | case1 cs => cases h; exact not_opens_nil
    | case2 => cases h
    | case3 c cs other ih =>
      obtain ⟨⟨b, r⟩, found, same⟩ := Option.map_eq_some_iff.1 h
      obtain ⟨rfl, rfl⟩ := Prod.mk.inj same
      rw [opens_cons, not_or]
      refine ⟨?_, ih found⟩
      rintro ⟨rfl, head⟩
      obtain ⟨ds, rfl⟩ := List.head?_eq_some_iff.1 head
      exact other _ rfl (eq_of_opening? found)
  · rintro ⟨rfl, closed⟩
    induction before with
    | nil => rfl
    | cons c before ih =>
      rw [opens_cons, not_or] at closed
      rw [List.cons_append, List.cons_append, opening?, ih closed.2]
      · rfl
      · rintro ds rfl same
        refine closed.1 ⟨rfl, ?_⟩
        cases before with
        | nil => cases same
        | cons d before => cases same; rfl

theorem closing?_eq_none_iff {cs : List Char} : closing? cs = none ↔ '}' ∉ cs := by
  fun_induction closing? cs with
  | case1 => simp
  | case2 cs => simp
  | case3 c cs other ih =>
    have here : '}' ≠ c := fun same => other same.symm
    rw [Option.map_eq_none_iff, ih, List.mem_cons, or_iff_right here]

/-- **The first `}` is found.** -/
theorem closing?_eq_some_iff {cs before behind : List Char} :
    closing? cs = some (before, behind) ↔ cs = before ++ '}' :: behind ∧ '}' ∉ before := by
  constructor
  · intro h
    refine ⟨eq_of_closing? h, ?_⟩
    fun_induction closing? cs generalizing before with
    | case1 => cases h
    | case2 cs => cases h; exact List.not_mem_nil
    | case3 c cs other ih =>
      obtain ⟨⟨b, r⟩, found, same⟩ := Option.map_eq_some_iff.1 h
      obtain ⟨rfl, rfl⟩ := Prod.mk.inj same
      rw [List.mem_cons, not_or]
      exact ⟨fun same => other same.symm, ih found⟩
  · rintro ⟨rfl, absent⟩
    induction before with
    | nil => rfl
    | cons c before ih =>
      rw [List.mem_cons, not_or] at absent
      rw [List.cons_append, closing?, ih absent.2]
      · rfl
      · exact fun same => absent.1 same.symm

/-! ## Cuts -/

/-- **No placeholder is complete**: there is no opener, or no `}` behind the first one. -/
def IsTail (cs : List Char) : Prop :=
  ¬Opens cs ∨ ∃ before behind, cs = before ++ opener ++ behind ∧ ¬Opens before ∧ '}' ∉ behind

/-- The text that a template was cut from. -/
def chars (t : Template) : List Char :=
  (t.pieces.flatMap fun (literal, name) => literal ++ placeholder name) ++ t.tail

/-- **The template is a cut of the text** at its placeholders, each of them an opener and the first
`}` behind it. -/
structure Cuts (t : Template) (cs : List Char) : Prop where
  chars : t.chars = cs
  literals : ∀ piece ∈ t.pieces, ¬Opens piece.1
  names : ∀ piece ∈ t.pieces, '}' ∉ piece.2
  tail : IsTail t.tail

theorem first?_eq_some_iff {cs literal name rest : List Char} :
    first? cs = some (literal, name, rest) ↔
      cs = literal ++ placeholder name ++ rest ∧ ¬Opens literal ∧ '}' ∉ name := by
  constructor
  · intro h
    refine ⟨by simpa [placeholder] using eq_of_first? h, ?_⟩
    obtain ⟨⟨l, inner⟩, opened, h⟩ := Option.bind_eq_some_iff.1 h
    obtain ⟨⟨n, r⟩, closed, same⟩ := Option.map_eq_some_iff.1 h
    cases same
    exact ⟨(opening?_eq_some_iff.1 opened).2, (closing?_eq_some_iff.1 closed).2⟩
  · rintro ⟨rfl, closed, absent⟩
    have opened : opening? (literal ++ placeholder name ++ rest)
        = some (literal, name ++ '}' :: rest) :=
      opening?_eq_some_iff.2 ⟨by simp [placeholder, opener], closed⟩
    rw [first?, opened, Option.bind_some]
    dsimp only
    rw [closing?_eq_some_iff.2 ⟨rfl, absent⟩]
    rfl

theorem first?_eq_none_iff {cs : List Char} : first? cs = none ↔ IsTail cs := by
  cases opened : opening? cs with
  | none =>
    have closed := opening?_eq_none_iff.1 opened
    simp [first?, opened, IsTail, closed]
  | some found =>
    obtain ⟨before, behind⟩ := found
    obtain ⟨rfl, closed⟩ := opening?_eq_some_iff.1 opened
    rw [first?, opened, Option.bind_some, Option.map_eq_none_iff, closing?_eq_none_iff]
    constructor
    · exact fun absent => .inr ⟨before, behind, rfl, closed, absent⟩
    · rintro (none | ⟨b, r, same, closed', absent⟩)
      · exact absurd (opens_opener before behind) none
      · rw [same, opening?_eq_some_iff.2 ⟨rfl, closed'⟩] at opened
        cases opened
        exact absent

theorem ofChars_of_isTail {cs : List Char} (h : IsTail cs) : ofChars cs = ⟨[], cs⟩ := by
  rw [ofChars]
  split
  · rfl
  · rename_i found
    rw [first?_eq_none_iff.2 h] at found
    cases found

theorem ofChars_placeholder {literal name : List Char} (closed : ¬Opens literal)
    (absent : '}' ∉ name) (rest : List Char) :
    ofChars (literal ++ placeholder name ++ rest)
      = ⟨(literal, name) :: (ofChars rest).pieces, (ofChars rest).tail⟩ := by
  have first : first? (literal ++ placeholder name ++ rest) = some (literal, name, rest) :=
    first?_eq_some_iff.2 ⟨rfl, closed, absent⟩
  rw [ofChars]
  split
  · rename_i none
    rw [first] at none
    cases none
  · rename_i found
    rw [first] at found
    cases found
    rfl

/-- **The scanner's template is a cut**… -/
theorem cuts_ofChars (cs : List Char) : (ofChars cs).Cuts cs := by
  fun_induction ofChars cs with
  | case1 cs none =>
    exact ⟨rfl, by simp, by simp, first?_eq_none_iff.1 none⟩
  | case2 cs literal name rest found t ih =>
    obtain ⟨rfl, closed, absent⟩ := first?_eq_some_iff.1 found
    refine ⟨?_, ?_, ?_, ih.tail⟩
    · rw [chars, List.flatMap_cons, List.append_assoc, ← chars, ih.chars]
    · exact List.forall_mem_cons.2 ⟨closed, ih.literals⟩
    · exact List.forall_mem_cons.2 ⟨absent, ih.names⟩

/-- **…and there is no other.** -/
theorem cuts_iff {t : Template} {cs : List Char} : t.Cuts cs ↔ t = ofChars cs := by
  refine ⟨fun h => ?_, fun h => h ▸ cuts_ofChars cs⟩
  obtain ⟨pieces, tail⟩ := t
  induction pieces generalizing cs with
  | nil =>
    obtain rfl : tail = cs := h.chars
    exact (ofChars_of_isTail h.tail).symm
  | cons piece pieces ih =>
    obtain ⟨literal, name⟩ := piece
    obtain ⟨closed, literals⟩ := List.forall_mem_cons.1 h.literals
    obtain ⟨absent, names⟩ := List.forall_mem_cons.1 h.names
    have rest := ih ⟨rfl, literals, names, h.tail⟩
    have text : cs = literal ++ placeholder name ++ chars ⟨pieces, tail⟩ := by
      rw [← h.chars, chars, List.flatMap_cons, List.append_assoc]
      rfl
    rw [text, ofChars_placeholder closed absent, ← rest]

/-- Where no name has a value the text comes back. -/
theorem fill_of_none {value : String → Option String} (h : ∀ name, value name = none)
    (t : Template) : t.fill value = t.chars := by
  have same : ∀ name, fillName value name = placeholder name := fun name => by rw [fillName, h]
  simp only [fill, same]
  rfl

end Template

namespace Variables

open Template

theorem toList_expand (v : Variables) (text : String) :
    (v.expand text).toList = (ofChars text.toList).fill v.get? := by
  rw [expand, String.toList_ofList]

/-- **An expansion is read off the one cut of the text.**  There is one cut; in the expansion the
literals and the tail stand as they are, and each name has given way to its value, taken as it
stands, or is left in its placeholder.  So the first `${` of a text goes with the first `}` behind
it: the text in front stands as it is and the text behind expands by itself, whatever the value is.
Without variables nothing changes. -/
theorem expand_by_cut (text : String) :
    (∃! t : Template, t.Cuts text.toList) ∧
    (∀ (v : Variables) (t : Template), t.Cuts text.toList →
      (v.expand text).toList =
        (t.pieces.flatMap fun (literal, name) =>
          literal ++
            match v.get? (String.ofList name) with
            | some value => value.toList
            | none => opener ++ name ++ ['}']) ++ t.tail) ∧
    (∀ (v : Variables) (literal name rest : List Char), ¬Opens literal → '}' ∉ name →
      text.toList = literal ++ opener ++ name ++ '}' :: rest →
        (v.expand text).toList =
          literal ++ fillName v.get? name ++ (v.expand (String.ofList rest)).toList) ∧
    ({} : Variables).expand text = text := by
  refine ⟨⟨_, cuts_ofChars _, fun t => cuts_iff.1⟩, fun v t cut => ?_,
    fun v literal name rest closed absent split => ?_, ?_⟩
  · rw [toList_expand, ← cuts_iff.1 cut]
    rfl
  · have written : text.toList = literal ++ placeholder name ++ rest := by
      simp [split, placeholder, opener]
    rw [toList_expand, toList_expand, String.toList_ofList, written,
      ofChars_placeholder closed absent, fill, List.flatMap_cons, List.append_assoc]
    rfl
  · refine String.toList_injective ?_
    rw [toList_expand, fill_of_none get?_empty]
    exact (cuts_ofChars _).chars

/-- A dollar in front of an opener, a name with an opener in it, an empty name, a `}` too many, and
an opener that is left open; and a value that looks like a placeholder. -/
theorem expand_by_cut_nested :
    let v := Variables.ofList [("x", "${}"), ("", "empty"), ("a$\x7bb", "odd")]
    let text := "$${x}\x7d$\x7ba${b}${}${no}$\x7bx"
    let t : Template :=
      ⟨[(['$'], ['x']), (['}'], ['a', '$', '{', 'b']), ([], []), ([], ['n', 'o'])],
        ['$', '{', 'x']⟩
    t.Cuts text.toList ∧ v.expand text = "$${}\x7doddempty${no}$\x7bx" ∧
      (v.expand text).toList
        = "$${}".toList ++ (v.expand "\x7d$\x7ba${b}${}${no}$\x7bx").toList ∧
      ({} : Variables).expand text = text := by
  intro v text t
  have cut : t.Cuts text.toList :=
    ⟨by decide, by decide, by decide, .inr ⟨[], ['x'], by decide, by decide, by decide⟩⟩
  obtain ⟨-, reads, pairs, unchanged⟩ := expand_by_cut text
  refine ⟨cut, String.toList_injective ?_, ?_, unchanged⟩
  · rw [reads v t cut]
    decide
  · exact pairs v ['$'] ['x'] "\x7d$\x7ba${b}${}${no}$\x7bx".toList (by decide) (by decide)
      (by decide)

end Variables

end Rowscript
