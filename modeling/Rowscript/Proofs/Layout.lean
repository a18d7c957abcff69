import Mathlib.Data.List.Basic
import Mathlib.Data.List.Induction
import Mathlib.Data.List.TakeWhile
import Rowscript.Proofs.Assignment

/-!
# Proofs/Layout — the one way to lay an assignment out

    blanks name blanks = value

The blanks at the ends of a text are taken away and nothing else is: what stands between blanks, with
no blank at its own ends, is what is left (`Text.trim_between`, `Text.exists_trim`).  So an assignment
can be read exactly if there is something before its first equals sign that is not blank, and it is
read as the name and the value of its one layout (`Assignment.parse_by_layout`).
-/

namespace Rowscript

namespace Text

/-- There is nothing but blanks. -/
def AllBlank (cs : List Char) : Prop := ∀ c ∈ cs, isBlank c = true

/-- There is no blank at either end. -/
structure Trimmed (cs : List Char) : Prop where
  first : ∀ c ∈ cs.head?, isBlank c = false
  last : ∀ c ∈ cs.getLast?, isBlank c = false

variable {cs u name w : List Char}

instance (cs : List Char) : Decidable (AllBlank cs) :=
  decidable_of_iff (cs.all isBlank = true) List.all_eq_true

instance (cs : List Char) : Decidable (Trimmed cs) :=
  decidable_of_iff
    ((cs.head?.all (!isBlank ·) && cs.getLast?.all (!isBlank ·)) = true) (by
      rw [Bool.and_eq_true, Option.all_eq_true, Option.all_eq_true]
      simp only [Bool.not_eq_true']
      exact ⟨fun ⟨first, last⟩ => ⟨first, last⟩, fun h => ⟨h.first, h.last⟩⟩)

/-! ## In front -/

/-- What is in front of a text that does not start with a blank is dropped if it is blank. -/
theorem trimStart_append (blank : AllBlank u) (first : ∀ c ∈ cs.head?, isBlank c = false) :
    trimStart (u ++ cs) = cs := by
  rw [trimStart, List.dropWhile_append_of_pos blank]
  cases cs with
  | nil => rfl
  | cons c cs => exact List.dropWhile_cons_of_neg (by simp [first c rfl])

theorem exists_trimStart (cs : List Char) :
    ∃ u, cs = u ++ trimStart cs ∧ AllBlank u ∧ ∀ c ∈ (trimStart cs).head?, isBlank c = false := by
  refine ⟨cs.takeWhile isBlank, List.takeWhile_append_dropWhile.symm,
    fun c => List.mem_takeWhile_imp, fun c head => ?_⟩
  have solid := List.head?_dropWhile_not isBlank cs
  rwa [show (cs.dropWhile isBlank).head? = some c from head] at solid

/-! ## At the end -/

theorem trimEnd_concat (cs : List Char) (c : Char) :
    trimEnd (cs ++ [c]) = if isBlank c then trimEnd cs else cs ++ [c] := by
  induction cs with
  | nil => simp [trimEnd_cons]
  | cons d cs ih =>
    rw [List.cons_append, trimEnd_cons, ih, trimEnd_cons]
    split <;> simp

theorem trimEnd_of_last (last : ∀ c ∈ cs.getLast?, isBlank c = false) : trimEnd cs = cs := by
  induction cs using List.reverseRecOn with
  | nil => rfl
  | append_singleton cs c =>
    have solid := last c (by simp)
    rw [trimEnd_concat, if_neg (by simp [solid])]

/-- What is behind a text that does not end with a blank is dropped if it is blank. -/
theorem trimEnd_append (blank : AllBlank w) (last : ∀ c ∈ cs.getLast?, isBlank c = false) :
    trimEnd (cs ++ w) = cs := by
  induction w using List.reverseRecOn with
  | nil => rw [List.append_nil, trimEnd_of_last last]
  | append_singleton w c ih =>
    obtain ⟨front, back⟩ := List.forall_mem_append.1 blank
    rw [← List.append_assoc, trimEnd_concat, if_pos (back c List.mem_cons_self), ih front]

theorem exists_trimEnd (cs : List Char) :
    ∃ w, cs = trimEnd cs ++ w ∧ AllBlank w ∧ ∀ c ∈ (trimEnd cs).getLast?, isBlank c = false := by
  induction cs using List.reverseRecOn with
  | nil => exact ⟨[], rfl, by simp [AllBlank], by simp⟩
  | append_singleton cs c ih =>
    rw [trimEnd_concat]
    split
    case isTrue blank =>
      obtain ⟨w, split, blanks, last⟩ := ih
      refine ⟨w ++ [c], ?_, ?_, last⟩
      · rw [← List.append_assoc, ← split]
      · exact List.forall_mem_append.2 ⟨blanks, by simpa using blank⟩
    case isFalse solid =>
      exact ⟨[], by simp, by simp [AllBlank], by simpa using solid⟩

/-! ## At both ends -/

/-- Whatever stands behind a name, it starts like the name. -/
theorem Trimmed.first_append (h : Trimmed name) (some : name ≠ []) (w : List Char) :
    ∀ c ∈ (name ++ w).head?, isBlank c = false := by
  rw [List.head?_append_of_ne_nil _ some]
  exact h.first

/-- **What stands between blanks is left of them**, if there is no blank at its ends. -/
theorem trim_between (before : AllBlank u) (trimmed : Trimmed name) (behind : AllBlank w)
    (some : name ≠ []) : trim (u ++ (name ++ w)) = name := by
  rw [trim, trimStart_append before (trimmed.first_append some w),
    trimEnd_append behind trimmed.last]

/-- **Every text is what is left of it between blanks.** -/
theorem exists_trim (cs : List Char) :
    ∃ u w, cs = u ++ (trim cs ++ w) ∧ AllBlank u ∧ Trimmed (trim cs) ∧ AllBlank w := by
  obtain ⟨u, front, before, first⟩ := exists_trimStart cs
  obtain ⟨w, back, behind, last⟩ := exists_trimEnd (trimStart cs)
  refine ⟨u, w, by rw [trim, ← back, ← front], before, ⟨?_, last⟩, behind⟩
  intro c (head : (trimEnd (trimStart cs)).head? = some c)
  refine first c ?_
  rw [back, List.head?_append, head]
  rfl

/-- Nothing is left of blanks alone. -/
theorem trim_eq_nil_iff : trim cs = [] ↔ AllBlank cs := by
  constructor
  · intro none
    obtain ⟨u, w, split, before, -, behind⟩ := exists_trim cs
    rw [split, none, List.nil_append]
    exact List.forall_mem_append.2 ⟨before, behind⟩
  · intro blank
    rw [trim, trimStart, List.dropWhile_eq_nil_iff.2 blank]
    rfl

/-- The blanks around a text that starts and ends with others are the same wherever they stand. -/
theorem blanks_unique {u' w' : List Char} (before : AllBlank u) (before' : AllBlank u')
    (trimmed : Trimmed name) (some : name ≠ []) (h : u ++ (name ++ w) = u' ++ (name ++ w')) :
    u = u' ∧ w = w' := by
  have dropped : ∀ {v x : List Char}, AllBlank v → trimStart (v ++ (name ++ x)) = name ++ x :=
    fun blank => trimStart_append blank (trimmed.first_append some _)
  have rest : name ++ w = name ++ w' := by rw [← dropped before, h, dropped before']
  rw [rest] at h
  exact ⟨List.append_cancel_right h, List.append_cancel_left rest⟩

end Text

namespace Assignment

open Text (isBlank AllBlank Trimmed)

/-- **An assignment as it may be written**: a name between blanks, an equals sign and a value. -/
@[ext]
structure Layout where
  before : String
  name : String
  behind : String
  value : String
  named : name ≠ ""
  unsigned : '=' ∉ name.toList
  trimmed : Trimmed name.toList
  blank_before : AllBlank before.toList
  blank_behind : AllBlank behind.toList

namespace Layout

/-- What stands before the sign. -/
def front (l : Layout) : String := l.before ++ l.name ++ l.behind

def text (l : Layout) : String := l.front ++ "=" ++ l.value

def assignment (l : Layout) : Assignment := ⟨l.name, l.value⟩

theorem toList_front (l : Layout) :
    l.front.toList = l.before.toList ++ (l.name.toList ++ l.behind.toList) := by simp [front]

theorem toList_text (l : Layout) : l.text.toList = l.front.toList ++ '=' :: l.value.toList := by
  simp [text]

theorem name_ne_nil (l : Layout) : l.name.toList ≠ [] :=
  fun none => l.named (String.toList_eq_nil_iff.1 none)

theorem sign_notMem_front (l : Layout) : '=' ∉ l.front.toList := by
  have blank : ∀ {cs : List Char}, AllBlank cs → '=' ∉ cs := fun h here =>
    absurd (h '=' here) (by decide)
  simp only [toList_front, List.mem_append, not_or]
  exact ⟨blank l.blank_before, l.unsigned, blank l.blank_behind⟩

theorem trim_front (l : Layout) : Text.trim l.front.toList = l.name.toList := by
  rw [toList_front]
  exact Text.trim_between l.blank_before l.trimmed l.blank_behind l.name_ne_nil

/-- There is something before the sign that is not blank. -/
theorem exists_solid (l : Layout) : ∃ c ∈ l.front.toList, isBlank c = false := by
  obtain ⟨c, cs, name⟩ := List.exists_cons_of_ne_nil l.name_ne_nil
  refine ⟨c, by simp [toList_front, name], l.trimmed.first c ?_⟩
  rw [name]
  rfl

/-- **What is laid out is read.** -/
theorem parse_text (l : Layout) : parse l.text = .ok l.assignment :=
  parse_eq_ok_iff.2 ⟨⟨l.front.toList, l.toList_text, l.sign_notMem_front, l.trim_front⟩, l.named⟩

/-- **No two layouts have the same text.** -/
theorem text_injective {l l' : Layout} (h : l.text = l'.text) : l = l' := by
  have read : l.assignment = l'.assignment :=
    Except.ok.inj (l.parse_text.symm.trans ((congrArg parse h).trans l'.parse_text))
  obtain ⟨name, value⟩ := Assignment.mk.inj read
  have chars := congrArg String.toList h
  rw [toList_text, toList_text, value] at chars
  have fronts : l.front.toList = l'.front.toList := List.append_cancel_right chars
  rw [toList_front, toList_front, ← name] at fronts
  obtain ⟨before, behind⟩ := Text.blanks_unique l.blank_before l'.blank_before l.trimmed
    l.name_ne_nil fronts
  exact Layout.ext (String.toList_injective before) name (String.toList_injective behind) value

/-- **What is read was laid out.** -/
theorem exists_of_parse {text : String} {a : Assignment} (h : parse text = .ok a) :
    ∃ l : Layout, l.text = text ∧ l.assignment = a := by
  obtain ⟨⟨front, whole, unsigned, named⟩, some⟩ := parse_eq_ok_iff.1 h
  obtain ⟨u, w, split, before, trimmed, behind⟩ := Text.exists_trim front
  obtain ⟨u, rfl⟩ : ∃ s : String, s.toList = u := ⟨.ofList u, String.toList_ofList⟩
  obtain ⟨w, rfl⟩ : ∃ s : String, s.toList = w := ⟨.ofList w, String.toList_ofList⟩
  rw [named] at split trimmed
  have name : '=' ∉ a.name.toList := fun here => unsigned (by simp [split, here])
  refine ⟨⟨u, a.name, w, a.value, some, name, trimmed, before, behind⟩, ?_, rfl⟩
  refine String.toList_injective ?_
  rw [whole, toList_text, toList_front, split]

end Layout

/-- The first equals sign of a text splits it in one way. -/
theorem split_unique {before before' behind behind' : String} (first : '=' ∉ before.toList)
    (first' : '=' ∉ before'.toList) (h : before ++ "=" ++ behind = before' ++ "=" ++ behind') :
    before = before' ∧ behind = behind' := by
  have halves : ∀ {front back : String}, '=' ∉ front.toList →
      halves? (front ++ "=" ++ back).toList = some (front.toList, back.toList) := fun unsigned =>
    halves?_eq_some_iff.2 ⟨by simp, unsigned⟩
  obtain ⟨front, back⟩ := Prod.mk.inj
    (Option.some.inj ((halves first).symm.trans (h ▸ halves first')))
  exact ⟨String.toList_injective front, String.toList_injective back⟩

/-- **An assignment is read as the name and the value of its one layout.**  It can be read exactly if
there is something before its first equals sign that is not blank.  What it is read as has that part
as its name, without the blanks at its ends and nowhere else, and everything behind the sign as its
value; a text that cannot be read is refused as it stands.  Every layout is read as its name and its
value, and every text that can be read has one layout. -/
theorem parse_by_layout (text : String) :
    ((∃ a, parse text = .ok a) ↔
      ∃ before behind : String, text = before ++ "=" ++ behind ∧ '=' ∉ before.toList ∧
        ∃ c ∈ before.toList, isBlank c = false) ∧
    (∀ a (before behind : String), parse text = .ok a → text = before ++ "=" ++ behind →
      '=' ∉ before.toList →
        (∃ u w : String, before = u ++ a.name ++ w ∧ AllBlank u.toList ∧ AllBlank w.toList ∧
          Trimmed a.name.toList) ∧ a.value = behind) ∧
    (∀ fault, parse text = .error fault → fault = .invalidVariable text) ∧
    (∀ l : Layout, parse l.text = .ok ⟨l.name, l.value⟩) ∧
    ∀ a, parse text = .ok a →
      ∃ l : Layout, (l.text = text ∧ l.name = a.name ∧ l.value = a.value) ∧
        ∀ l' : Layout, l'.text = text → l' = l := by
  refine ⟨⟨?_, ?_⟩, fun a before behind h split first => ?_,
    fun fault => eq_invalidVariable_of_parse, Layout.parse_text, fun a h => ?_⟩
  · rintro ⟨a, h⟩
    obtain ⟨l, rfl, rfl⟩ := Layout.exists_of_parse h
    exact ⟨l.front, l.value, rfl, l.sign_notMem_front, l.exists_solid⟩
  · rintro ⟨before, behind, rfl, first, c, here, solid⟩
    refine ⟨⟨.ofList (Text.trim before.toList), behind⟩, parse_eq_ok_iff.2
      ⟨⟨before.toList, by simp, first, String.toList_ofList.symm⟩, fun none => ?_⟩⟩
    have blank : AllBlank before.toList := Text.trim_eq_nil_iff.1 (by simpa using none)
    exact absurd (blank c here) (by simp [solid])
  · obtain ⟨l, rfl, rfl⟩ := Layout.exists_of_parse h
    obtain ⟨rfl, rfl⟩ := split_unique l.sign_notMem_front first split
    exact ⟨⟨l.before, l.behind, rfl, l.blank_before, l.blank_behind, l.trimmed⟩, rfl⟩
  · obtain ⟨l, rfl, rfl⟩ := Layout.exists_of_parse h
    exact ⟨l, ⟨rfl, rfl, rfl⟩, fun l' => Layout.text_injective⟩

/-- A name with a blank in it, between blanks of several kinds, and a value with another equals sign
and with blanks at its ends; and a text with nothing but blanks for a name. -/
theorem parse_by_layout_blanks :
    let text := "\u00a0\tbase url\u3000= a=b "
    let bare := " \u2028=base=url"
    parse text = .ok ⟨"base url", " a=b "⟩ ∧
      (∃ l : Layout, (l.text = text ∧ l.before = "\u00a0\t" ∧ l.behind = "\u3000") ∧
        ∀ l' : Layout, l'.text = text → l' = l) ∧
      (∃ u w : String, "\u00a0\tbase url\u3000" = u ++ "base url" ++ w ∧ AllBlank u.toList ∧
        AllBlank w.toList ∧ Trimmed "base url".toList) ∧
      parse bare = .error (.invalidVariable bare) := by
  intro text bare
  let l : Layout := {
    before := "\u00a0\t", name := "base url", behind := "\u3000", value := " a=b "
    named := by decide
    unsigned := by decide
    trimmed := by decide
    blank_before := by decide
    blank_behind := by decide }
  have written : l.text = text := by decide
  obtain ⟨-, parts, -, reads, one⟩ := parse_by_layout text
  obtain ⟨-, -, refused, -⟩ := parse_by_layout bare
  have read : parse text = .ok ⟨"base url", " a=b "⟩ := written ▸ reads l
  obtain ⟨k, -, only⟩ := one _ read
  have unread : (parse bare).toBool = false := by decide +kernel
  refine ⟨read, ⟨l, ⟨written, rfl, rfl⟩, fun l' same => ?_⟩,
    (parts _ _ " a=b " read (by decide) (by decide)).1, ?_⟩
  · rw [only l' same, only l written]
  · cases h : parse bare with
    | ok a => cases h ▸ unread
    | error fault => rw [refused fault h]

end Assignment

end Rowscript
