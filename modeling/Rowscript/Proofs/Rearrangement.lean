import Mathlib.Data.List.Perm.Basic
import Rowscript.Proofs.DocumentTree
import Rowscript.Proofs.WrittenScripts

/-!
# Proofs/Rearrangement — in what order a script names its fields is no part of it

    { name: n, commands: [{ command: c, locator: l }] }
    { commands: [{ note: …, locator: l, command: c }], name: n, author: … }     the same script

The tree of a script is rearranged by putting the entries of its mapping, of its rows or of its
variables in another order, and by adding entries to the mapping and to rows under names that are no
fields there (`Script.Rearranged`).  What stands under the name of a field is what has been there
(`Tree.Rearranges.under`), and a field looks at nothing else.  So the same script is read, or none
as before (`Script.load_rearranged`), as long as it is not the limit on nodes that stand for others
that decides (`Script.Overruns`): the trees do not show how many of these there are.
-/

namespace Rowscript

open Yaml Tree

/-! ## Rearranging -/

/-- The names of the fields of a row. -/
def Row.fieldNames : List String := ["command", "locator", "value"]

/-- The names of the fields of a script. -/
def Script.fieldNames : List String := ["name", "description", "variables", "commands"]

namespace Yaml.Tree

/-- An entry has its key, and its value as well unless that may change under its name. -/
def Keeps (changes : String → Tree → Tree → Prop) (e e' : Tree × Tree) : Prop :=
  e'.1 = e.1 ∧ (e'.2 = e.2 ∨ ∃ name, e.1.text? = some name ∧ changes name e.2 e'.2)

/-- **Entries in another order, with others among them** whose names are no fields. -/
inductive Rearranges (fields : List String) (changes : String → Tree → Tree → Prop)
    (es es' : List (Tree × Tree)) : Prop where
  | intro {kept added : List (Tree × Tree)} (keeps : List.Forall₂ (Keeps changes) es kept)
    (strange : ∀ e ∈ added, ∃ name ∉ fields, e.1.text? = some name)
    (order : es'.Perm (kept ++ added))

end Yaml.Tree

/-- The tree of a row is rearranged. -/
inductive Row.Rearranged : Tree → Tree → Prop where
  | same (t : Tree) : Rearranged t t
  | entries {es es' : List (Tree × Tree)} (h : Rearranges fieldNames (fun _ _ _ => False) es es') :
    Rearranged (.mapping es) (.mapping es')

/-- What stands under the name of a field of a script is rearranged: the rows, each by itself, and
variables whose names are distinct. -/
inductive Script.FieldRearranged (name : String) : Tree → Tree → Prop where
  | rows (field : name = "commands") {ts us : List Tree} (h : List.Forall₂ Row.Rearranged ts us) :
    FieldRearranged name (.sequence ts) (.sequence us)
  | vars (field : name = "variables") {es es' : List (Tree × Tree)} (order : es'.Perm es)
    (distinct : (es.filterMap fun e => e.1.text?).Nodup) :
    FieldRearranged name (.mapping es) (.mapping es')

/-- **The tree of a script is rearranged.** -/
inductive Script.Rearranged : Tree → Tree → Prop where
  | entries {es es' : List (Tree × Tree)} (h : Rearranges fieldNames FieldRearranged es es') :
    Rearranged (.mapping es) (.mapping es')

/-- **The tree of a document is that of another one, rearranged**, as far as it is seen to a depth
at which the cells of rows are seen. -/
def Yaml.Document.Rearranges (d d' : Document) : Prop :=
  ∃ depth ≥ 4, Script.Rearranged (d.tree depth d.root) (d'.tree depth d'.root)

/-! ## What stands under a name -/

namespace Yaml.Tree

theorem under_append (name : String) (es fs : List (Tree × Tree)) :
    under name (es ++ fs) = under name es ++ under name fs := by
  rw [under, List.filter_append, List.map_append]
  rfl

theorem under_perm (name : String) {es fs : List (Tree × Tree)} (h : es.Perm fs) :
    (under name es).Perm (under name fs) :=
  (h.filter _).map _

theorem under_eq_nil {name : String} {es : List (Tree × Tree)}
    (h : ∀ e ∈ es, e.1.text? ≠ some name) : under name es = [] := by
  rw [under, List.filter_eq_nil_iff.2 fun e he => by simpa using h e he]
  rfl

section Entries

variable {fields : List String} {changes : String → Tree → Tree → Prop}
  {es es' kept : List (Tree × Tree)}

theorem under_keeps (name : String) (h : List.Forall₂ (Keeps changes) es kept) :
    List.Forall₂ (fun t u => u = t ∨ changes name t u) (under name es) (under name kept) := by
  induction h with
  | nil => exact .nil
  | @cons e e' es kept first _ ih =>
    obtain ⟨key, value⟩ := first
    rw [under_cons, under_cons name e']
    refine List.rel_append ?_ ih
    by_cases named : e.1.text? = some name
    · have here : ∀ f : Tree × Tree, f.1.text? = some name → under name [f] = [f.2] :=
        fun f hf => (under_singleton hf f.2).trans (if_pos rfl)
      rw [here e named, here e' (key ▸ named)]
      refine .cons (value.imp_right ?_) .nil
      rintro ⟨other, hother, change⟩
      rwa [Option.some.inj (named.symm.trans hother)]
    · have none : ∀ f : Tree × Tree, f.1 = e.1 → under name [f] = [] := fun f hf =>
        under_eq_nil (by simpa [hf] using named)
      rw [none e rfl, none e' key]
      exact .nil

/-- **Under the name of a field there is what has been there**, as it may change. -/
theorem Rearranges.under {name : String} (h : Rearranges fields changes es es')
    (field : name ∈ fields) :
    ∃ us, List.Forall₂ (fun t u => u = t ∨ changes name t u) (under name es) us ∧
      (under name es').Perm us := by
  cases h with
  | @intro kept added keeps strange order =>
    have nothing : Tree.under name added = [] := by
      refine under_eq_nil fun e he named => ?_
      obtain ⟨other, notField, hother⟩ := strange e he
      exact notField (Option.some.inj (named.symm.trans hother) ▸ field)
    refine ⟨_, under_keeps name keeps, ?_⟩
    simpa only [under_append, nothing, List.append_nil] using under_perm name order

theorem areKeyed_keeps (h : List.Forall₂ (Keeps changes) es kept) :
    areKeyed kept = areKeyed es := by
  induction h with
  | nil => rfl
  | cons first _ ih => exact congrArg₂ and (congrArg (·.text?.isSome) first.1) ih

/-- The keys are texts as before. -/
theorem Rearranges.areKeyed (h : Rearranges fields changes es es') :
    areKeyed es' = areKeyed es := by
  cases h with
  | @intro kept added keeps strange order =>
    have texts : Tree.areKeyed added = true := List.all_eq_true.2 fun e he => by
      obtain ⟨name, -, key⟩ := strange e he
      rw [key]
      rfl
    calc Tree.areKeyed es'
      _ = Tree.areKeyed (kept ++ added) := order.all_eq
      _ = (Tree.areKeyed kept && Tree.areKeyed added) := List.all_append
      _ = Tree.areKeyed es := by rw [areKeyed_keeps keeps, texts, Bool.and_true]

end Entries

/-! ## What a field is given -/

theorem rel_eq {α : Type} : Option.Rel (Eq : α → α → Prop) = Eq := by
  refine funext₂ fun x y => propext ⟨fun h => ?_, ?_⟩
  · cases h with
    | some same => exact congrArg some same
    | none => rfl
  · rintro rfl
    cases x with
    | some _ => exact .some rfl
    | none => exact .none

/-- What is done with what is alike is alike. -/
theorem rel_bind {α β γ δ : Type} {R : α → β → Prop} {S : γ → δ → Prop} {x : Option α}
    {y : Option β} {f : α → Option γ} {g : β → Option δ} (h : Option.Rel R x y)
    (alike : ∀ {a b}, R a b → Option.Rel S (f a) (g b)) : Option.Rel S (x.bind f) (y.bind g) := by
  cases h with
  | some r => exact alike r
  | none => exact .none

section Filling

variable {α : Type} {read : Tree → Option α} {R : α → α → Prop}

/-- Two values are one too many. -/
theorem fill_cons_cons (t u : Tree) (ts : List Tree) : fill read none (t :: u :: ts) = none := by
  rw [fill]
  cases read t <;> rfl

/-- **A field is given alike what is alike**, in whatever order. -/
theorem fill_rel {ts us vs : List Tree}
    (h : List.Forall₂ (fun t u => Option.Rel R (read t) (read u)) ts us) (order : vs.Perm us) :
    Option.Rel (Option.Rel R) (fill read none ts) (fill read none vs) := by
  cases h with
  | nil =>
    rw [List.perm_nil.1 order]
    exact .some .none
  | @cons t u ts us first rest =>
    cases rest with
    | nil =>
      rw [List.perm_singleton.1 order]
      exact rel_bind first fun r => .some (.some r)
    | cons =>
      match vs, order.length_eq with
      | _ :: _ :: _, _ =>
        rw [fill_cons_cons, fill_cons_cons]
        exact .none

end Filling

section Fields

variable {α : Type} {read : Tree → Option α} {fields : List String}
  {changes : String → Tree → Tree → Prop} {es es' : List (Tree × Tree)} {name : String}

/-- **A field that is rearranged is given alike what is alike.** -/
theorem Rearranges.fill_rel {R : α → α → Prop} (h : Rearranges fields changes es es')
    (field : name ∈ fields)
    (alike : ∀ t u, u = t ∨ changes name t u → Option.Rel R (read t) (read u)) :
    Option.Rel (Option.Rel R) (fill read none (Tree.under name es))
      (fill read none (Tree.under name es')) := by
  obtain ⟨us, values, order⟩ := h.under field
  exact Tree.fill_rel (values.imp alike) order

/-- It is given the same if nothing else is read in what has changed. -/
theorem Rearranges.fill_eq (h : Rearranges fields changes es es') (field : name ∈ fields)
    (same : ∀ t u, changes name t u → read u = read t) :
    fill read none (Tree.under name es') = fill read none (Tree.under name es) := by
  have alike : ∀ t u, u = t ∨ changes name t u → Option.Rel Eq (read t) (read u) :=
    fun t u change => by rw [rel_eq, change.elim (congrArg read) (same t u)]
  have rel := h.fill_rel field alike
  rw [rel_eq, rel_eq] at rel
  exact rel.symm

end Fields

/-! ## Rows and variables -/

/-- **A row is what its fields are**, in whatever order they stand. -/
theorem row?_rearranged {t u : Tree} (h : Row.Rearranged t u) : row? u = row? t := by
  cases h with
  | same => rfl
  | @entries es es' h =>
    have fields : ∀ name ∈ Row.fieldNames,
        fill text? none (under name es') = fill text? none (under name es) :=
      fun name field => h.fill_eq field fun _ _ => False.elim
    have gathered : RowDraft.gather {} es' = RowDraft.gather {} es := by
      simp only [RowDraft.gather, fields "command" (by decide), fields "locator" (by decide),
        fields "value" (by decide)]
    change (if areKeyed es' then _ else none) = if areKeyed es then _ else none
    rw [h.areKeyed, gathered]

theorem rows?_rearranged {ts us : List Tree} (h : List.Forall₂ Row.Rearranged ts us) :
    rows? (sequence us) = rows? (sequence ts) := by
  change us.mapM row? = ts.mapM row?
  induction h with
  | nil => rfl
  | cons first _ ih => rw [List.mapM_cons, List.mapM_cons, row?_rearranged first, ih]

/-- The names that are read are among those that are there. -/
theorem names_sublist (es : List (Tree × Tree)) :
    ((es.filterMap assignment?).map Prod.fst).Sublist (es.filterMap fun e => e.1.text?) := by
  induction es with
  | nil => exact .slnil
  | cons e es ih =>
    simp only [List.filterMap_cons, assignment?]
    cases e.1.text? with
    | none => exact ih
    | some name =>
      cases e.2.text? with
      | none => exact ih.cons name
      | some text => exact ih.cons_cons name

/-- **Variables with distinct names say the same in any order.** -/
theorem vars?_rearranged {es es' : List (Tree × Tree)} (order : es'.Perm es)
    (distinct : (es.filterMap fun e => e.1.text?).Nodup) :
    Option.Rel Variables.Resembles (vars? (mapping es)) (vars? (mapping es')) := by
  let v : Variables := ⟨es.filterMap assignment?, (names_sublist es).nodup distinct⟩
  have before : (Variables.ofList (es.filterMap assignment?)).Resembles v :=
    Variables.resembles_ofList (.refl _)
  have after : (Variables.ofList (es'.filterMap assignment?)).Resembles v :=
    Variables.resembles_ofList (order.filterMap _)
  change Option.Rel _ ((assignments? es).map _) ((assignments? es').map _)
  rw [assignments?, assignments?, order.all_eq]
  split
  · exact .some (before.trans after.symm)
  · exact .none

end Yaml.Tree

/-! ## Scripts -/

/-- **The same script**, whatever the order of its variables. -/
def Script.Resembles (s t : Script) : Prop :=
  ∃ vars : Variables, vars.Resembles s.vars ∧ t = { s with vars := vars }

namespace Yaml.Tree

section Fields

variable {α : Type} {read : Tree → Option α} {es es' : List (Tree × Tree)}
  (h : Rearranges Script.fieldNames Script.FieldRearranged es es')

include h

theorem fill_text_rearranged {name : String} (field : name ∈ Script.fieldNames)
    (notRows : name ≠ "commands") (notVars : name ≠ "variables") :
    fill read none (under name es') = fill read none (under name es) := by
  refine h.fill_eq field fun t u change => ?_
  cases change with
  | rows rows => exact absurd rows notRows
  | vars vars => exact absurd vars notVars

theorem fill_rows_rearranged :
    fill rows? none (under "commands" es') = fill rows? none (under "commands" es) := by
  refine h.fill_eq (by decide) fun t u change => ?_
  cases change with
  | rows _ rows => exact rows?_rearranged rows
  | vars vars => exact absurd vars (by decide)

theorem fill_vars_rearranged :
    Option.Rel (Option.Rel Variables.Resembles) (fill vars? none (under "variables" es))
      (fill vars? none (under "variables" es')) := by
  refine h.fill_rel (by decide) fun t u change => ?_
  rcases change with rfl | change
  · cases vars? u with
    | some v => exact .some (.refl v)
    | none => exact .none
  · cases change with
    | rows rows => exact absurd rows (by decide)
    | vars _ order distinct => exact vars?_rearranged order distinct

end Fields

theorem scriptOf?_resembles (name : Option String) (description : Option (Option String))
    (rows : Option (List Row)) {w w' : Option Variables}
    (h : Option.Rel Variables.Resembles w w') :
    Option.Rel Script.Resembles (scriptOf? ⟨name, description, w, rows⟩)
      (scriptOf? ⟨name, description, w', rows⟩) := by
  have vars : (w'.getD {}).Resembles (w.getD {}) := by
    cases h with
    | some h => exact h.symm
    | none => exact .refl _
  cases name with
  | none => exact .none
  | some name =>
    cases rows with
    | none => exact .none
    | some rows => exact .some ⟨_, vars, rfl⟩

/-- **A script is what its fields are**, in whatever order they stand. -/
theorem script?_rearranged {t u : Tree} (h : Script.Rearranged t u) :
    Option.Rel Script.Resembles (script? t) (script? u) := by
  cases h with
  | @entries es es' h =>
    have name : fill text? none (under "name" es') = fill text? none (under "name" es) :=
      fill_text_rearranged h (by decide) (by decide) (by decide)
    have description : fill optionalText? none (under "description" es') =
        fill optionalText? none (under "description" es) :=
      fill_text_rearranged h (by decide) (by decide) (by decide)
    change Option.Rel _ (if areKeyed es then _ else none) (if areKeyed es' then _ else none)
    rw [h.areKeyed]
    split
    · simp only [ScriptDraft.gather, name, description, fill_rows_rearranged h, Option.bind_assoc]
      cases fill text? none (under "name" es) with
      | none => exact .none
      | some name =>
        cases fill optionalText? none (under "description" es) with
        | none => exact .none
        | some description =>
          simp only [Option.bind_some]
          refine rel_bind (fill_vars_rearranged h) fun vars => ?_
          cases fill rows? none (under "commands" es) with
          | none => exact .none
          | some rows => exact scriptOf?_resembles name description rows vars
    · exact .none

end Yaml.Tree

/-- **What is read in a document that is rearranged is the same script**, or none as before. -/
theorem Script.reading_rearranged {text text' : String}
    (whole : (Document.ofText text).isWhole) (whole' : (Document.ofText text').isWhole)
    (changed : (Document.ofText text).Rearranges (Document.ofText text')) :
    Option.Rel Resembles (reading (Document.ofText text)).toOption
      (reading (Document.ofText text')).toOption := by
  obtain ⟨depth, deep, h⟩ := changed
  obtain ⟨more, rfl⟩ := Nat.exists_eq_add_of_le' deep
  rw [toOption_reading _ more (Document.root_isWhole whole) whole,
    toOption_reading _ more (Document.root_isWhole whole') whole']
  exact script?_rearranged h

section Loading

variable {files : Files} {path text : String} (file : files path = .ok text)

include file

/-- No script is loaded over the limit, whatever it would be… -/
theorem Script.load_of_overruns (overruns : Overruns (Document.ofText text)) :
    load files path = .error (.refused path .repetitive) := by
  simp only [load, file, ofText]
  rw [ofDocument, if_pos overruns]

/-- …and within the limit one is loaded that has rows. -/
theorem Script.toOption_load (within : ¬Overruns (Document.ofText text)) :
    (load files path).toOption =
      (reading (Document.ofText text)).toOption.bind fun s =>
        if s.rows.isEmpty then none else some s := by
  simp only [load, file, ofText]
  rw [ofDocument, if_neg within, Reading.toOption]
  cases (reading (Document.ofText text)).result with
  | error refusal => rfl
  | ok s =>
    change Except.toOption (if _ then _ else _) = if _ then _ else _
    split <;> rfl

end Loading

/-- What comes out alike comes out for both or for neither. -/
theorem exists_of_rel_toOption {ε α : Type} {R : α → α → Prop} {x y : Except ε α}
    (h : Option.Rel R x.toOption y.toOption) :
    (∀ a, x = .ok a → ∃ b, y = .ok b ∧ R a b) ∧
      ((∃ fault, x = .error fault) → ∃ fault, y = .error fault) := by
  cases x with
  | error fault =>
    cases y with
    | error fault' => exact ⟨nofun, fun _ => ⟨fault', rfl⟩⟩
    | ok b => nomatch h
  | ok a =>
    cases y with
    | error fault' => nomatch h
    | ok b =>
      refine ⟨?_, nofun⟩
      rintro _ ⟨⟩
      exact ⟨b, rfl, Option.rel_some_some.1 h⟩

/-- **The order in which a script names its fields makes no difference, and other names make none
either**, within the limit on nodes that stand for others: of two well-formed files, one of which
holds the tree of the other rearranged, either both are loaded as the same script or neither is
loaded.  Over the limit a file is not loaded, whatever its tree is. -/
theorem Script.load_rearranged {files files' : Files} {path path' text text' : String}
    (file : files path = .ok text) (file' : files' path' = .ok text')
    (whole : (Document.ofText text).isWhole) (whole' : (Document.ofText text').isWhole)
    (changed : (Document.ofText text).Rearranges (Document.ofText text')) :
    (¬Overruns (Document.ofText text') →
      ∀ s, load files path = .ok s → ∃ s', load files' path' = .ok s' ∧ s.Resembles s') ∧
    (¬Overruns (Document.ofText text) →
      (∃ fault, load files path = .error fault) → ∃ fault, load files' path' = .error fault) ∧
    (Overruns (Document.ofText text') →
      load files' path' = .error (.refused path' .repetitive)) := by
  have alike (within : ¬Overruns (Document.ofText text))
      (within' : ¬Overruns (Document.ofText text')) :
      Option.Rel Resembles (load files path).toOption (load files' path').toOption := by
    rw [toOption_load file within, toOption_load file' within']
    refine rel_bind (reading_rearranged whole whole' changed) ?_
    rintro s _ ⟨vars, resembles, rfl⟩
    by_cases none : s.rows.isEmpty
    · rw [if_pos none, if_pos none]
      exact .none
    · rw [if_neg none, if_neg none]
      exact .some ⟨vars, resembles, rfl⟩
  refine ⟨fun within' s loaded => ?_, fun within failed => ?_, load_of_overruns file'⟩
  · have within : ¬Overruns (Document.ofText text) := fun overruns =>
      nomatch loaded.symm.trans (load_of_overruns file overruns)
    exact (exists_of_rel_toOption (alike within within')).1 s loaded
  · by_cases overruns' : Overruns (Document.ofText text')
    · exact ⟨_, load_of_overruns file' overruns'⟩
    · exact (exists_of_rel_toOption (alike within overruns')).2 failed

/-- A row is repeated, and an entry that is added refers to it. -/
theorem Script.load_rearranged_anchor :
    let text := "name: n\nvariables:\n  a: x\n  b: y\ncommands:\n" ++
      "- &row\n  command: c\n  value: v\n- *row\n"
    let text' := "commands:\n- &row\n  value: v\n  note: [1]\n  command: c\n- command: c\n" ++
      "  value: v\nvariables:\n  b: y\n  a: x\nauthor: *row\nname: n\n"
    (Document.ofText text).isWhole ∧ (Document.ofText text').isWhole ∧
      (Document.ofText text).Rearranges (Document.ofText text') ∧
      ∃ s s', load (fun _ => .ok text) "n.yaml" = .ok s ∧
        load (fun _ => .ok text') "n.yaml" = .ok s' ∧ s.Resembles s' ∧
        s.rows = [⟨"c", "", "v"⟩, ⟨"c", "", "v"⟩] := by
  intro text text'
  have whole : (Document.ofText text).isWhole := by decide +kernel
  have whole' : (Document.ofText text').isWhole := by decide +kernel
  have some_ : (load (fun _ => .ok text) "n.yaml").toOption.map Script.rows =
      some [⟨"c", "", "v"⟩, ⟨"c", "", "v"⟩] := by
    decide +kernel
  let word (text : String) : Tree := .scalar ⟨text, true, none⟩
  let command := (word "command", word "c")
  let value := (word "value", word "v")
  let note := (word "note", sequence [unseen])
  let name := (word "name", word "n")
  let vars := [(word "a", word "x"), (word "b", word "y")]
  let rows := [mapping [command, value], mapping [command, value]]
  let rows' := [mapping [value, note, command], mapping [command, value]]
  let author := (word "author", mapping [value, (note.1, sequence [word "1"]), command])
  have tree : (Document.ofText text).tree 4 (Document.ofText text).root =
      mapping [name, (word "variables", mapping vars), (word "commands", sequence rows)] := by
    decide +kernel
  have tree' : (Document.ofText text').tree 4 (Document.ofText text').root =
      mapping [(word "commands", sequence rows'), (word "variables", mapping vars.reverse), author,
        name] := by
    decide +kernel
  have row : Row.Rearranged (mapping [command, value]) (mapping [value, note, command]) := by
    have keeps : List.Forall₂ (Keeps fun _ _ _ => False) [command, value] [command, value] :=
      .cons ⟨rfl, .inl rfl⟩ (.cons ⟨rfl, .inl rfl⟩ .nil)
    have strange : ∀ e ∈ [note], ∃ name ∉ Row.fieldNames, e.1.text? = some name :=
      List.forall_mem_singleton.2 ⟨"note", by decide, rfl⟩
    exact .entries (.intro keeps strange (by decide +kernel))
  have fields : Script.Rearranged
      (mapping [name, (word "variables", mapping vars), (word "commands", sequence rows)])
      (mapping [(word "commands", sequence rows'), (word "variables", mapping vars.reverse), author,
        name]) := by
    have keeps : List.Forall₂ (Keeps FieldRearranged)
        [name, (word "variables", mapping vars), (word "commands", sequence rows)]
        [name, (word "variables", mapping vars.reverse), (word "commands", sequence rows')] := by
      refine .cons ⟨rfl, .inl rfl⟩ (.cons ⟨rfl, .inr ⟨_, rfl, .vars rfl ?_ ?_⟩⟩
        (.cons ⟨rfl, .inr ⟨_, rfl, .rows rfl ?_⟩⟩ .nil))
      · exact List.reverse_perm vars
      · decide
      · exact .cons row (.cons (.same _) .nil)
    have strange : ∀ e ∈ [author], ∃ name ∉ Script.fieldNames, e.1.text? = some name :=
      List.forall_mem_singleton.2 ⟨"author", by decide, rfl⟩
    exact .entries (.intro keeps strange (by decide +kernel))
  have changed : (Document.ofText text).Rearranges (Document.ofText text') := by
    refine ⟨4, Nat.le_refl 4, ?_⟩
    rw [tree, tree']
    exact fields
  let files : Files := fun _ => .ok text
  let files' : Files := fun _ => .ok text'
  have file : files "n.yaml" = .ok text := rfl
  have file' : files' "n.yaml" = .ok text' := rfl
  cases loaded : load files "n.yaml" with
  | error fault => rw [loaded] at some_; cases some_
  | ok s =>
    rw [loaded] at some_
    obtain ⟨s', loaded', same⟩ :=
      (load_rearranged file file' whole whole' changed).1 (by decide +kernel) s loaded
    exact ⟨whole, whole', changed, s, s', rfl, loaded', same, Option.some.inj some_⟩

end Rowscript
