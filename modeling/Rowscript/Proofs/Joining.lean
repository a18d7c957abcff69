import Rowscript.Proofs.Placeholders

/-!
# Proofs/Joining — two texts that are joined expand one by one

    cut of a           cut of b              cut of a ++ b
    … ${name} tail  ·  literal ${name} …  =  … ${name} (tail literal) ${name} …

Cuts are put together where a tail meets a literal (`Template.join`).  The outcome is a cut of the
joined text as long as nothing new is opened or closed there (`Template.Cuts.join`), so the
expansions are joined in the same way (`Variables.expand_append`).
-/

namespace Rowscript

namespace Template

variable {t u : Template} {a b : List Char}

/-- **Two templates, one behind the other**: the tail of the first goes in front of what the second
starts with. -/
def join (t u : Template) : Template :=
  match u.pieces with
  | [] => ⟨t.pieces, t.tail ++ u.tail⟩
  | (literal, name) :: pieces => ⟨t.pieces ++ (t.tail ++ literal, name) :: pieces, u.tail⟩

theorem chars_join (t u : Template) : (t.join u).chars = t.chars ++ u.chars := by
  obtain ⟨_ | ⟨⟨literal, name⟩, pieces⟩, tail⟩ := u <;> simp [join, chars]

theorem fill_join (value : String → Option String) (t u : Template) :
    (t.join u).fill value = t.fill value ++ u.fill value := by
  obtain ⟨_ | ⟨⟨literal, name⟩, pieces⟩, tail⟩ := u <;> simp [join, fill]

/-- A tail stays a tail behind a text that opens nothing, with nothing opened where they meet. -/
theorem IsTail.behind (h : IsTail b) (closed : ¬Opens a)
    (meet : ¬(a.getLast? = some '$' ∧ b.head? = some '{')) : IsTail (a ++ b) := by
  obtain none | ⟨before, behind, rfl, first, absent⟩ := h
  · exact .inl fun joined => (opens_append.1 joined).elim closed (·.elim none meet)
  · refine .inr ⟨a ++ before, behind, by simp, fun joined => ?_, absent⟩
    obtain here | here | ⟨last, head⟩ := opens_append.1 joined
    · exact closed here
    · exact first here
    · refine meet ⟨last, ?_⟩
      rw [List.append_assoc, List.head?_append, head, Option.some_or]

/-- An open tail stays one in front of a text that closes nothing. -/
theorem IsTail.inFront (h : IsTail a) (opened : Opens a) (unclosed : '}' ∉ b) : IsTail (a ++ b) := by
  obtain none | ⟨before, behind, rfl, first, absent⟩ := h
  · exact absurd opened none
  · refine .inr ⟨before, behind ++ b, by simp, first, ?_⟩
    rw [List.mem_append, not_or]
    exact ⟨absent, unclosed⟩

/-- **Cuts are joined to a cut of the joined text**, unless an opener is made where they meet. -/
theorem Cuts.join (ht : t.Cuts a) (hu : u.Cuts b) (closed : ¬Opens t.tail)
    (meet : ¬(t.tail.getLast? = some '$' ∧ b.head? = some '{')) : (t.join u).Cuts (a ++ b) := by
  have text : (t.join u).chars = a ++ b := by rw [chars_join, ht.chars, hu.chars]
  obtain ⟨_ | ⟨⟨literal, name⟩, pieces⟩, tail⟩ := u
  · obtain rfl : tail = b := hu.chars
    exact ⟨text, ht.literals, ht.names, hu.tail.behind closed meet⟩
  · obtain ⟨first, literals⟩ := List.forall_mem_cons.1 hu.literals
    have joined : ¬Opens (t.tail ++ literal) := fun opens => by
      obtain here | here | ⟨last, head⟩ := opens_append.1 opens
      · exact closed here
      · exact first here
      · have front : b.head? = some '{' := by simp [← hu.chars, Template.chars, head]
        exact meet ⟨last, front⟩
    exact ⟨text, List.forall_mem_append.2 ⟨ht.literals, List.forall_mem_cons.2 ⟨joined, literals⟩⟩,
      List.forall_mem_append.2 ⟨ht.names, List.forall_mem_cons.2 (List.forall_mem_cons.1 hu.names)⟩,
      hu.tail⟩

/-- Behind an open tail a text without a `}` belongs to the tail. -/
theorem Cuts.extend (ht : t.Cuts a) (opened : Opens t.tail) (unclosed : '}' ∉ b) :
    (t.join ⟨[], b⟩).Cuts (a ++ b) :=
  ⟨by rw [chars_join, ht.chars]; rfl, ht.literals, ht.names, ht.tail.inFront opened unclosed⟩

end Template

namespace Variables

open Template

/-- **Texts expand one by one.**  With nothing open at the end of the first text, and no opener made
where they meet, the joined text expands to the joined expansions; with an opener left open there
and no `}` in the second text, the second text stands as it is. -/
theorem expand_append (v : Variables) (a b : String) (t : Template) (cut : t.Cuts a.toList) :
    (¬Opens t.tail → ¬(t.tail.getLast? = some '$' ∧ b.toList.head? = some '{') →
      v.expand (a ++ b) = v.expand a ++ v.expand b) ∧
    (Opens t.tail → '}' ∉ b.toList → v.expand (a ++ b) = v.expand a ++ b) := by
  have joined : ∀ u : Template, (t.join u).Cuts (a.toList ++ b.toList) →
      (v.expand (a ++ b)).toList = (v.expand a).toList ++ u.fill v.get? := by
    intro u h
    rw [toList_expand, toList_expand, String.toList_append, ← cuts_iff.1 h, ← cuts_iff.1 cut,
      fill_join]
  refine ⟨fun closed meet => ?_, fun opened unclosed => ?_⟩ <;> refine String.toList_injective ?_
  · rw [joined _ (cut.join (cuts_ofChars b.toList) closed meet), String.toList_append,
      toList_expand v b]
  · rw [joined _ (cut.extend opened unclosed), String.toList_append]
    rfl

/-- A dollar at the end that meets no brace, and an opener left open that a dollar and a name do not
close; in either case the values are in their places. -/
theorem expand_append_open :
    let v := Variables.ofList [("x", "1"), ("y", "2")]
    v.expand ("${x}$" ++ "$${y}") = v.expand "${x}$" ++ v.expand "$${y}" ∧
      v.expand ("${x}$\x7by" ++ "$\x7bx") = v.expand "${x}$\x7by" ++ "$\x7bx" := by
  intro v
  have done : Cuts ⟨[([], ['x'])], ['$']⟩ "${x}$".toList :=
    ⟨by decide, by decide, by decide, .inl (by decide)⟩
  have left : Cuts ⟨[([], ['x'])], ['$', '{', 'y']⟩ "${x}$\x7by".toList :=
    ⟨by decide, by decide, by decide, .inr ⟨[], ['y'], by decide, by decide, by decide⟩⟩
  exact ⟨(expand_append v "${x}$" "$${y}" _ done).1 (by decide) (by decide),
    (expand_append v "${x}$\x7by" "$\x7bx" _ left).2 (by decide) (by decide)⟩

/-- A dollar that meets a brace makes a placeholder. -/
example :
    let v := Variables.ofList [("x", "1")]
    v.expand ("$" ++ "{x}") ≠ v.expand "$" ++ v.expand "{x}" := by decide +kernel

end Variables

end Rowscript
