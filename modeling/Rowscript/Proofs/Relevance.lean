import Rowscript.CommandLine.Invocation
import Rowscript.Proofs.Assignment
import Rowscript.Proofs.Placeholders
import Rowscript.Proofs.State

/-!
# Proofs/Relevance — which variables a text asks for

    name without a }   ──▸ its placeholder asks for it
    name with a }      ──▸ no text asks for it

A text asks for the names in its placeholders (`Template.Asks`), and what other names stand for makes
no difference to it (`Variables.expand_congr`).  A placeholder ends at the first `}`, so a name with a
`}` in it is asked for by no text: it can be given a value, by whatever gives values to names, but the
value never shows (`Variables.Hides`).  Every other name is a text that expands to itself, and its
placeholder gives way to what was stored.
-/

namespace Rowscript

namespace Template

/-- **The text asks for the name**: there is a placeholder with it. -/
def Asks (text name : String) : Prop := ∃ t : Template, t.Cuts text.toList ∧ name ∈ t.names

theorem asks_iff {text name : String} : Asks text name ↔ name ∈ (ofChars text.toList).names := by
  refine ⟨fun ⟨t, cut, asked⟩ => ?_, fun asked => ⟨_, cuts_ofChars _, asked⟩⟩
  rwa [← cuts_iff.1 cut]

instance (text name : String) : Decidable (Asks text name) := decidable_of_iff _ asks_iff.symm

/-- **No text asks for a name with a `}` in it.** -/
theorem Asks.unbraced {text name : String} (h : Asks text name) : '}' ∉ name.toList := by
  obtain ⟨t, cut, asked⟩ := h
  obtain ⟨piece, here, rfl⟩ := List.mem_map.1 asked
  rw [String.toList_ofList]
  exact cut.names piece here

/-- Nothing is closed where there is no `}`. -/
theorem isTail_of_notMem {cs : List Char} (h : '}' ∉ cs) : IsTail cs := by
  rw [← first?_eq_none_iff, Option.eq_none_iff_forall_ne_some]
  rintro ⟨literal, name, rest⟩ first
  obtain ⟨rfl, -⟩ := first?_eq_some_iff.1 first
  simp [placeholder] at h

theorem fill_placeholder (value : String → Option String) {literal name : List Char}
    (closed : ¬Opens literal) (unbraced : '}' ∉ name) (rest : List Char) :
    (ofChars (literal ++ placeholder name ++ rest)).fill value
      = literal ++ fillName value name ++ (ofChars rest).fill value := by
  rw [ofChars_placeholder closed unbraced, fill, List.flatMap_cons, List.append_assoc]
  rfl

end Template

namespace Variables

open Template

/-- **Maps that say the same of the names that a text asks for expand it alike.** -/
theorem expand_congr {v v' : Variables} {text : String}
    (h : ∀ name, Asks text name → v.get? name = v'.get? name) : v.expand text = v'.expand text :=
  congrArg String.ofList (fill_congr fun name asked => h name (asks_iff.2 asked))

theorem expand_of_isTail (v : Variables) {text : String} (h : IsTail text.toList) :
    v.expand text = text := by
  refine String.toList_injective ?_
  rw [toList_expand, ofChars_of_isTail h]
  rfl

/-- Behind a text that opens nothing a placeholder gives way to its value, and what is behind it
expands by itself. -/
theorem expand_placeholder (v : Variables) {before name value : String} (behind : String)
    (closed : ¬Opens before.toList) (unbraced : '}' ∉ name.toList)
    (known : v.get? name = some value) :
    v.expand (before ++ "$\x7b" ++ name ++ "\x7d" ++ behind)
      = before ++ value ++ v.expand behind := by
  refine String.toList_injective ?_
  have text : (before ++ "$\x7b" ++ name ++ "\x7d" ++ behind).toList
      = before.toList ++ placeholder name.toList ++ behind.toList := by simp [placeholder]
  have filled : fillName v.get? name.toList = value.toList := by
    rw [fillName, String.ofList_toList, known]
  rw [toList_expand, text, fill_placeholder v.get? closed unbraced, filled, ← toList_expand,
    String.toList_append, String.toList_append]

/-! ## Names that no text asks for -/

/-- **The second map has a value for the name, and no text shows it**: all texts expand as they do
with the first map. -/
def Hides (v v' : Variables) (name value : String) : Prop :=
  v'.get? name = some value ∧ ∀ text, v'.expand text = v.expand text

/-- A map hides what it has under a name with a `}` in it, if that is all that it has more. -/
theorem hides_of_braced {v v' : Variables} {name value : String} (braced : '}' ∈ name.toList)
    (here : v'.get? name = some value)
    (elsewhere : ∀ other, other ≠ name → v'.get? other = v.get? other) :
    v.Hides v' name value := by
  refine ⟨here, fun text => expand_congr fun other asked => elsewhere other ?_⟩
  rintro rfl
  exact asked.unbraced braced

theorem hides_insert (v : Variables) {name : String} (braced : '}' ∈ name.toList)
    (value : String) : v.Hides (v.insert name value) name value :=
  hides_of_braced braced (v.get?_insert_self name value) fun _ => v.get?_insert_of_ne value

theorem hides_overlay (v own : Variables) {name : String} (braced : '}' ∈ name.toList)
    (value : String) :
    (v.overlay own).Hides (v.overlay (own.insert name value)) name value := by
  refine hides_of_braced braced ?_ fun other named => ?_
  · rw [get?_overlay, get?_insert_self, Option.some_or]
  · rw [get?_overlay, get?_overlay, get?_insert_of_ne own value named]

end Variables

namespace State

open Template CommandLine

/-- **A variable shows where it is asked for, and only there.**  Maps that say the same of the names
that a text asks for expand it alike; so a store to another name leaves the text as it expands.  A
name without a `}` expands to itself, and behind a store to it each placeholder with it gives way to
what the cell expanded to, whatever that looks like, as long as nothing is open in front.  A name
with a `}` can be given a value directly, by a row, among the variables of a script, and on the
command line if it can be written there; and no text ever shows it. -/
theorem shown_where_asked (w : World) (s : State) (text : String) :
    (∀ v v' : Variables, (∀ name, Asks text name → v.get? name = v'.get? name) →
      v.expand text = v'.expand text) ∧
    (∀ name value, ¬Asks text name → (s.store name value).expand text = s.expand text) ∧
    (∀ name : String, '}' ∉ name.toList →
      let stored := (Step.store name text).perform w s
      s.expand name = name ∧ stored.1 = .ok .silent ∧
        ∀ before behind : String, ¬Opens before.toList →
          stored.2.expand (before ++ "$\x7b" ++ name ++ "\x7d" ++ behind)
            = before ++ s.expand text ++ stored.2.expand behind) ∧
    ∀ name value : String, '}' ∈ name.toList →
      s.vars.Hides (s.store name value).vars name value ∧
      (∀ locator cell, s.expand locator = name →
        let stored := (Step.store locator cell).perform w s
        stored.1 = .ok .silent ∧ s.vars.Hides stored.2.vars name (s.expand cell)) ∧
      (∀ own : Variables,
        (s.seed own).vars.Hides (s.seed (own.insert name value)).vars name value) ∧
      (∀ (p : Plan) (script : Script),
        let more : Plan := { p with assignments := p.assignments ++ [⟨name, value⟩] }
        (p.startVars script).Hides (more.startVars script) name value) ∧
      ('=' ∉ name.toList → Text.trim name.toList = name.toList →
        Assignment.parse (name ++ "=" ++ value) = .ok ⟨name, value⟩) := by
  refine ⟨fun v v' same => Variables.expand_congr same, fun name value unasked => ?_,
    fun name unbraced => ?_, fun name value braced => ?_⟩
  · exact s.vars.expand_insert_of_notMem (fun asked => unasked (asks_iff.2 asked)) value
  · intro stored
    have named : s.expand name = name := s.vars.expand_of_isTail (isTail_of_notMem unbraced)
    refine ⟨named, rfl, fun before behind closed =>
      stored.2.vars.expand_placeholder behind closed unbraced ?_⟩
    have known : stored.2.vars.get? (s.expand name) = some (s.expand text) :=
      s.vars.get?_insert_self _ _
    rwa [named] at known
  · refine ⟨s.vars.hides_insert braced value, ?_, fun own => ?_, ?_, ?_⟩
    · rintro locator cell rfl
      exact ⟨rfl, s.vars.hides_insert braced _⟩
    · rw [seed_vars, seed_vars]
      exact s.vars.hides_overlay own braced value
    · intro p script more
      have last : more.startVars script = (p.startVars script).insert name value :=
        List.foldl_append
      rw [last]
      exact (p.startVars script).hides_insert braced value
    · intro unsigned trimmed
      refine Assignment.parse_eq_ok_iff.2 ⟨⟨name.toList, by simp, unsigned, trimmed⟩, ?_⟩
      rintro rfl
      cases braced

/-- A name with an opener and blanks in it, whose value is its own placeholder; a text that asks for
one of two names; and a name with a `}`, which a row stores although a text seems to ask for it. -/
theorem shown_where_asked_odd :
    let s : State := { vars := Variables.ofList [("x", "$\x7b $\x7b\x7d"), ("y", "a\x7db")] }
    let other := Variables.ofList [("x", "$\x7b $\x7b\x7d"), ("y", "new")]
    let stored := (Step.store " $\x7b" "<${x}>").perform {} s
    s.expand "${x}$\x7by" = other.expand "${x}$\x7by" ∧
      (s.store "y" "1").expand "${x}$\x7by" = s.expand "${x}$\x7by" ∧
      s.expand " $\x7b" = " $\x7b" ∧
      stored.2.expand ("$" ++ "$\x7b" ++ " $\x7b" ++ "\x7d" ++ "${x}")
        = "$" ++ "<$\x7b $\x7b\x7d>" ++ "$\x7b $\x7b\x7d" ∧
      (let braced := ((Step.store "${y}" "new").perform {} s).2
       braced.vars.get? "a\x7db" = some "new" ∧
         braced.expand "$\x7ba\x7db\x7d" = s.expand "$\x7ba\x7db\x7d") ∧
      Assignment.parse "a\x7db=new" = .ok ⟨"a\x7db", "new"⟩ := by
  intro s other stored
  obtain ⟨alike, unasked, shown, hidden⟩ := shown_where_asked {} s "${x}$\x7by"
  obtain ⟨-, -, shown, -⟩ := shown_where_asked {} s "<${x}>"
  obtain ⟨named, -, gives⟩ := shown " $\x7b" (by decide)
  obtain ⟨-, row, -, -, line⟩ := hidden "a\x7db" "new" (by decide)
  obtain ⟨-, there, unseen⟩ := row "${y}" "new" (by decide +kernel)
  refine ⟨alike s.vars other fun name asked => ?_, unasked "y" "1" (by decide +kernel), named,
    (gives "$" "${x}" (by decide)).trans (by decide +kernel),
    ⟨there.trans (by decide +kernel), unseen _⟩, line (by decide) (by decide)⟩
  have x : name = "x" := by
    have asks := asks_iff.1 asked
    have names : (ofChars "${x}$\x7by".toList).names = ["x"] := by decide +kernel
    rwa [names, List.mem_singleton] at asks
  rw [x]
  decide +kernel

end State

end Rowscript
