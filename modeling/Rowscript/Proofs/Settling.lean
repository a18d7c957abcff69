import Rowscript.Proofs.Joining

/-!
# Proofs/Settling — when there is nothing left to expand

    literal ${known} literal ${unknown} tail
      ──fill──▸  literal value literal ${unknown} tail

A value that is inert makes no opener, neither in itself nor where it meets its neighbours
(`Template.Inert`).  So the filled text is cut where a placeholder was left (`Template.cuts_settle`):
the placeholders of the outcome are those without a value, as they were, and they still have none.
To expand once more changes nothing (`Variables.expand_expand`).
-/

namespace Rowscript

namespace Template

/-- **The value makes no opener**: there is none in it, nor can one arise at its ends, and it keeps
its neighbours apart. -/
structure Inert (value : String) : Prop where
  nonempty : value ≠ ""
  closed : ¬Opens value.toList
  first : value.toList.head? ≠ some '{'
  last : value.toList.getLast? ≠ some '$'

instance (value : String) : Decidable (Inert value) :=
  decidable_of_iff
    (value ≠ "" ∧ ¬Opens value.toList ∧ value.toList.head? ≠ some '{' ∧
      value.toList.getLast? ≠ some '$')
    ⟨fun ⟨nonempty, closed, first, last⟩ => ⟨nonempty, closed, first, last⟩,
      fun h => ⟨h.nonempty, h.closed, h.first, h.last⟩⟩

variable {value : String → Option String} {t : Template} {cs : List Char}

theorem Inert.closed_behind {text : String} (h : Inert text) {literal : List Char}
    (closed : ¬Opens literal) : ¬Opens (literal ++ text.toList) := by
  intro opens
  obtain here | here | ⟨-, first⟩ := opens_append.1 opens
  · exact closed here
  · exact h.closed here
  · exact h.first first

/-- What stands in front of a value does not matter to what it ends with. -/
theorem Inert.getLast?_behind {text : String} (h : Inert text) (literal : List Char) :
    (literal ++ text.toList).getLast? ≠ some '$' := by
  have nonempty : text.toList ≠ [] := fun none => h.nonempty (String.toList_eq_nil_iff.1 none)
  rw [List.getLast?_append_of_ne_nil _ nonempty]
  exact h.last

/-! ## What is left of a template -/

/-- What is left of a piece: a literal if its name has a value, or else the piece. -/
def settlePiece (value : String → Option String) (piece : List Char × List Char) : Template :=
  match value (String.ofList piece.2) with
  | some text => ⟨[], piece.1 ++ text.toList⟩
  | none => ⟨[piece], []⟩

/-- **What is left of a template when it is filled**: the placeholders without a value. -/
def settle (value : String → Option String) (t : Template) : Template :=
  t.pieces.foldr (fun piece rest => (settlePiece value piece).join rest) ⟨[], t.tail⟩

theorem names_join (t u : Template) : (t.join u).names = t.names ++ u.names := by
  obtain ⟨_ | ⟨⟨literal, name⟩, pieces⟩, tail⟩ := u <;> simp [join, names]

/-- A name that is left has no value. -/
theorem eq_none_of_mem_settle {name : String} (h : name ∈ (t.settle value).names) :
    value name = none := by
  obtain ⟨pieces, tail⟩ := t
  induction pieces with
  | nil => cases h
  | cons piece pieces ih =>
    rw [settle, List.foldr_cons, names_join, List.mem_append] at h
    obtain here | there := h
    · unfold settlePiece at here
      split at here
      case h_1 => cases here
      case h_2 unknown => rwa [List.mem_singleton.1 here]
    · exact ih there

/-- A piece whose literal opens nothing leaves a cut, in which nothing is open, nor ready to be opened
by what comes behind. -/
theorem cuts_settlePiece (inert : ∀ name text, value name = some text → Inert text)
    {piece : List Char × List Char} (closed : ¬Opens piece.1) (unbraced : '}' ∉ piece.2) :
    (settlePiece value piece).Cuts (piece.1 ++ fillName value piece.2) ∧
      ¬Opens (settlePiece value piece).tail ∧
      (settlePiece value piece).tail.getLast? ≠ some '$' := by
  cases known : value (String.ofList piece.2) with
  | none =>
    simp only [settlePiece, fillName, known]
    refine ⟨⟨by simp [chars], ?_, ?_, .inl not_opens_nil⟩, not_opens_nil, by simp⟩
    · exact fun other same => List.mem_singleton.1 same ▸ closed
    · exact fun other same => List.mem_singleton.1 same ▸ unbraced
  | some text =>
    simp only [settlePiece, fillName, known]
    have whole := inert _ text known
    have still := whole.closed_behind closed
    exact ⟨⟨rfl, by simp, by simp, .inl still⟩, still, whole.getLast?_behind _⟩

/-- **The filled text is cut at the placeholders that are left.** -/
theorem cuts_settle (inert : ∀ name text, value name = some text → Inert text) (h : t.Cuts cs) :
    (t.settle value).Cuts (t.fill value) := by
  obtain ⟨pieces, tail⟩ := t
  induction pieces generalizing cs with
  | nil => exact ⟨rfl, h.literals, h.names, h.tail⟩
  | cons piece pieces ih =>
    obtain ⟨first, literals⟩ := List.forall_mem_cons.1 h.literals
    obtain ⟨unbraced, names⟩ := List.forall_mem_cons.1 h.names
    have rest := ih ⟨rfl, literals, names, h.tail⟩
    obtain ⟨here, closed, last⟩ := cuts_settlePiece inert first unbraced
    have joined := here.join rest closed fun meet => last meet.1
    rwa [fill, List.flatMap_cons, List.append_assoc]

/-- Where no name of the template has a value its text comes back. -/
theorem fill_of_unknown (h : ∀ name ∈ t.names, value name = none) : t.fill value = t.chars :=
  (fill_congr h).trans (fill_of_none (fun _ => rfl) t)

end Template

namespace Variables

open Template

/-- **A second expansion changes nothing**, as long as all values are inert. -/
theorem expand_expand (v : Variables) (inert : ∀ name value, v.get? name = some value → Inert value)
    (text : String) : v.expand (v.expand text) = v.expand text := by
  have cut := cuts_settle inert (cuts_ofChars text.toList)
  refine String.toList_injective ?_
  calc (v.expand (v.expand text)).toList
      = (ofChars ((ofChars text.toList).fill v.get?)).fill v.get? := by
        rw [toList_expand, toList_expand]
    _ = ((ofChars text.toList).settle v.get?).fill v.get? := by rw [← cuts_iff.1 cut]
    _ = ((ofChars text.toList).settle v.get?).chars := fill_of_unknown fun _ => eq_none_of_mem_settle
    _ = (ofChars text.toList).fill v.get? := cut.chars
    _ = (v.expand text).toList := (toList_expand v text).symm

/-- Values that hold a `}` and a dollar, one of them under a name with an opener in it; names without
a value, and an opener that is left open. -/
theorem expand_expand_nested :
    let v := Variables.ofList [("x", "\x7d$1"), ("y$\x7bx", "$ \x7b")]
    let text := "$${x}$\x7by${x}\x7d$\x7bz${x}${no}$\x7by"
    (∀ name value, v.get? name = some value → Inert value) ∧
      v.expand text = "$\x7d$1$ \x7b\x7d$\x7bz${x}${no}$\x7by" ∧
      v.expand (v.expand text) = v.expand text := by
  intro v text
  have entries : ∀ entry ∈ v.entries, Inert entry.2 := by decide +kernel
  have inert : ∀ name value, v.get? name = some value → Inert value := fun name value known =>
    entries (name, value) ((lookup_eq_some_iff_mem v.nodup_names).1 known)
  exact ⟨inert, by decide +kernel, expand_expand v inert text⟩

/-- Each of the four conditions is needed. -/
example :
    let v (value : String) := Variables.ofList [("v", value), ("x", "1")]
    ∀ value ∈ ["", "${x}", "{x}", "$"],
      (v value).expand ((v value).expand "$${v}{x}") ≠ (v value).expand "$${v}{x}" := by
  decide +kernel

end Variables

end Rowscript
