import Rowscript.Assignment

/-!
# Proofs/Assignment — which name a text gives which value

    blanks name blanks = value

`Assignment.Assigns` says it of a text without reading it.  A text gives a value to one name at most,
and reading it comes to that name and that value, if there is anything left of the name
(`Assignment.parse_eq_ok_iff`).
-/

namespace Rowscript.Assignment

/-- **The text gives the name the value**: behind its first equals sign stands the value, and before
it the name, between blanks. -/
def Assigns (text name value : String) : Prop :=
  ∃ before, text.toList = before ++ '=' :: value.toList ∧ '=' ∉ before ∧
    Text.trim before = name.toList

theorem halves?_cons_of_ne {c : Char} (h : c ≠ '=') (cs : List Char) :
    halves? (c :: cs) = (halves? cs).map fun (name, value) => (c :: name, value) := by
  rw [halves?]
  exact fun sign => absurd sign h

/-- A text is split at its first sign. -/
theorem halves?_eq_some_iff {cs before behind : List Char} :
    halves? cs = some (before, behind) ↔ cs = before ++ '=' :: behind ∧ '=' ∉ before := by
  induction cs generalizing before with
  | nil => simp [halves?]
  | cons c cs ih =>
    by_cases sign : c = '='
    · subst sign
      cases before with
      | nil => simp [halves?]
      | cons d ds => simp +contextual [halves?, eq_comm]
    · rw [halves?_cons_of_ne sign]
      cases before with
      | nil => simp [sign]
      | cons d ds =>
        have behindFirst : ((halves? cs).map fun (name, value) => (c :: name, value))
            = some (d :: ds, behind) ↔ c = d ∧ halves? cs = some (ds, behind) := by
          cases halves? cs <;> simp [Prod.ext_iff, and_assoc]
        rw [behindFirst, ih, List.cons_append, List.cons.injEq, List.mem_cons, not_or]
        constructor
        · rintro ⟨rfl, rest, first⟩
          exact ⟨⟨rfl, rest⟩, Ne.symm sign, first⟩
        · rintro ⟨⟨rfl, rest⟩, -, first⟩
          exact ⟨rfl, rest, first⟩

/-- **A text gives one value to one name.** -/
theorem Assigns.unique {text name value name' value' : String} (h : Assigns text name value)
    (k : Assigns text name' value') : name = name' ∧ value = value' := by
  obtain ⟨before, whole, first, named⟩ := h
  obtain ⟨before', whole', first', named'⟩ := k
  have split := (halves?_eq_some_iff.2 ⟨whole, first⟩).symm.trans
    (halves?_eq_some_iff.2 ⟨whole', first'⟩)
  obtain ⟨rfl, same⟩ := Prod.mk.inj (Option.some.inj split)
  exact ⟨String.toList_inj.1 (named.symm.trans named'), String.toList_inj.1 same⟩

/-- **What reading a text comes to.** -/
theorem parse_eq_ok_iff {text : String} {a : Assignment} :
    parse text = .ok a ↔ Assigns text a.name a.value ∧ a.name ≠ "" := by
  obtain ⟨name, value⟩ := a
  constructor
  · intro h
    rw [parse] at h
    split at h
    case h_1 => cases h
    case h_2 before behind split =>
      split at h
      case h_1 => cases h
      case h_2 c cs trimmed =>
        cases h
        obtain ⟨whole, first⟩ := halves?_eq_some_iff.1 split
        refine ⟨⟨before, ?_, first, ?_⟩, ?_⟩
        · rw [whole, String.toList_ofList]
        · rw [trimmed, String.toList_ofList]
        · simp
  · rintro ⟨⟨before, whole, first, trimmed⟩, left⟩
    rw [parse, halves?_eq_some_iff.2 ⟨whole, first⟩]
    have named : Text.trim before ≠ [] := by
      rw [trimmed]
      exact fun none => left (String.toList_eq_nil_iff.1 none)
    dsimp only
    split
    case h_1 none => exact absurd none named
    case h_2 c cs here =>
      rw [← here, trimmed, String.ofList_toList, String.ofList_toList]

/-- A text that does not give anything to a name is refused as it stands. -/
theorem eq_invalidVariable_of_parse {text : String} {fault : Fault}
    (h : parse text = .error fault) : fault = .invalidVariable text := by
  rw [parse] at h
  split at h
  case h_1 => exact (Except.error.inj h).symm
  case h_2 =>
    split at h
    case h_1 => exact (Except.error.inj h).symm
    case h_2 => cases h

end Rowscript.Assignment
