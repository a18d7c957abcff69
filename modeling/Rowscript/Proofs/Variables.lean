import Mathlib.Data.List.Basic
import Mathlib.Data.List.Induction
import Rowscript.Template

/-!
# Proofs/Variables — what a map of variables says, and in what order it comes to say it

A map is looked at through `get?` alone.  Two maps in which each name stands for the same are as good
as each other (`Variables.Resembles`): texts expand alike, and what is written into both is found in
both.  Of many values given to one name the last one counts (`Variables.get?_foldl_insert`), so in
maps laid over each other the upper one counts (`Variables.get?_overlay`), and the order in which the
entries of a map are gone through counts for nothing (`Variables.resembles_of_perm`).  A text asks for
the names in its placeholders alone, and a value for any other name leaves it as it expands
(`Variables.expand_insert_of_notMem`).
-/

namespace Rowscript

/-- A template asks for the names in its placeholders, and for no others. -/
theorem Template.fill_congr {value value' : String → Option String} {t : Template}
    (h : ∀ name ∈ t.names, value name = value' name) : t.fill value = t.fill value' := by
  have same : ∀ piece ∈ t.pieces, fillName value piece.2 = fillName value' piece.2 := by
    intro piece hp
    rw [fillName, fillName, h _ (List.mem_map_of_mem hp)]
  have filled := List.flatMap_congr fun piece hp => congrArg (piece.1 ++ ·) (same piece hp)
  exact congrArg (· ++ t.tail) filled

namespace Variables

/-! ## Entries -/

/-- Where no name stands twice, the entry of a name is its value. -/
theorem lookup_eq_some_iff_mem {entries : List (String × String)}
    (nodup : (entries.map Prod.fst).Nodup) {name value : String} :
    entries.lookup name = some value ↔ (name, value) ∈ entries := by
  induction entries with
  | nil => simp
  | cons entry entries ih =>
    obtain ⟨key, text⟩ := entry
    obtain ⟨fresh, nodup⟩ := List.nodup_cons.1 nodup
    rw [List.lookup_cons, List.mem_cons, Prod.mk.injEq]
    by_cases named : name = key
    · subst named
      have only : (name, value) ∉ entries := fun h =>
        fresh (List.mem_map.2 ⟨(name, value), h, rfl⟩)
      simp [only, eq_comm]
    · have other : (name == key) = false := by simpa using named
      simp [other, named, ih nodup]

/-- So the order of the entries makes no difference. -/
theorem lookup_eq_of_perm {entries others : List (String × String)} (h : entries.Perm others)
    (nodup : (entries.map Prod.fst).Nodup) (name : String) :
    entries.lookup name = others.lookup name := by
  refine Option.ext fun value => ?_
  rw [lookup_eq_some_iff_mem nodup, lookup_eq_some_iff_mem ((h.map Prod.fst).nodup nodup),
    h.mem_iff]

/-- The last entry of a name is the one with none of that name behind it. -/
theorem lookup_reverse_eq_some_iff {entries : List (String × String)} {name value : String} :
    entries.reverse.lookup name = some value ↔
      ∃ before behind, entries = before ++ (name, value) :: behind ∧
        ∀ entry ∈ behind, entry.1 ≠ name := by
  rw [List.lookup_eq_some_iff]
  constructor
  · rintro ⟨behind, before, split, last⟩
    refine ⟨before.reverse, behind.reverse, ?_, fun entry he => ?_⟩
    · rw [List.reverse_eq_append_iff.1 split, List.reverse_cons, List.append_assoc]
      rfl
    · exact Ne.symm (bne_iff_ne.1 (last entry (List.mem_reverse.1 he)))
  · rintro ⟨before, behind, rfl, last⟩
    refine ⟨behind.reverse, before.reverse, by simp, fun entry he => ?_⟩
    exact bne_iff_ne.2 (last entry (List.mem_reverse.1 he)).symm

/-- **Of many values for a name the last one counts**, and without any the old one stays. -/
theorem get?_foldl_insert (v : Variables) (entries : List (String × String)) (name : String) :
    (entries.foldl (fun v entry => v.insert entry.1 entry.2) v).get? name
      = (entries.reverse.lookup name).or (v.get? name) := by
  induction entries using List.reverseRecOn with
  | nil => rfl
  | append_singleton entries entry ih =>
    rw [List.foldl_append, List.foldl_cons, List.foldl_nil, get?_insert, ih, List.reverse_concat,
      List.lookup_cons]
    by_cases named : name = entry.1
    · simp [named]
    · have other : (name == entry.1) = false := by simpa using named
      simp [named, other]

/-- **In maps laid over each other the upper one counts** for the names that it knows. -/
theorem get?_overlay (v w : Variables) (name : String) :
    (v.overlay w).get? name = (w.get? name).or (v.get? name) := by
  rw [overlay, get?_foldl_insert,
    ← lookup_eq_of_perm (List.reverse_perm _).symm w.nodup_names name]
  rfl

/-- **A value for a name that no placeholder of a text holds leaves the text as it expands.** -/
theorem expand_insert_of_notMem (v : Variables) {name text : String}
    (h : name ∉ (Template.ofChars text.toList).names) (value : String) :
    (v.insert name value).expand text = v.expand text := by
  refine congrArg String.ofList (Template.fill_congr fun other ho => ?_)
  exact get?_insert_of_ne v value fun named => h (named ▸ ho)

/-! ## Maps that say the same -/

/-- **The maps say the same**: each name stands for the same in both, or for nothing in both. -/
def Resembles (v w : Variables) : Prop := ∀ name, v.get? name = w.get? name

/-- A map with the same entries in another order says the same. -/
theorem resembles_of_perm {v w : Variables} (h : v.entries.Perm w.entries) : v.Resembles w :=
  lookup_eq_of_perm h v.nodup_names

/-- Nor does it matter which of two names is given its value first. -/
theorem insert_comm (v : Variables) {name other : String} (h : name ≠ other)
    (value text : String) :
    ((v.insert name value).insert other text).Resembles
      ((v.insert other text).insert name value) := by
  intro n
  simp only [get?_insert]
  split
  case isTrue here => rw [if_neg (here.trans_ne h.symm)]
  case isFalse elsewhere => rfl

namespace Resembles

variable {v w v' w' : Variables}

theorem refl (v : Variables) : v.Resembles v := fun _ => rfl

theorem symm (h : v.Resembles w) : w.Resembles v := fun name => (h name).symm

theorem trans {u : Variables} (h : v.Resembles w) (k : w.Resembles u) : v.Resembles u :=
  fun name => (h name).trans (k name)

theorem insert (h : v.Resembles w) (name value : String) :
    (v.insert name value).Resembles (w.insert name value) := by
  intro other
  rw [get?_insert, get?_insert, h other]

theorem overlay (h : v.Resembles w) (h' : v'.Resembles w') :
    (v.overlay v').Resembles (w.overlay w') := by
  intro name
  rw [get?_overlay, get?_overlay, h name, h' name]

/-- **A text expands to the same** with either map. -/
theorem expand (h : v.Resembles w) (text : String) : v.expand text = w.expand text := by
  have same : v.get? = w.get? := funext h
  rw [Variables.expand, same]
  rfl

end Resembles

end Variables

end Rowscript
