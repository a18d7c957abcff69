import Rowscript.Proofs.Flow
import Rowscript.Proofs.Variables
import Rowscript.Script.Load

/-!
# Proofs/WrittenScripts — every script can be written down

    script ──WrittenAs──▸ tree ──written──▸ text ──load──▸ script

A script is written as a mapping of its fields, each text between double quotes: the name, the
description if there is one, the variables in any order, and the rows.  Empty cells may be left out,
and so may variables where there are none (`Script.WrittenAs`).  Whatever its texts say, it is
loaded from each of these texts as it was, its variables up to their order; without a row it is
refused as an empty script (`Script.load_written`).
-/

namespace Rowscript

open Yaml (Document Flow KeyPlace Node)
open Yaml.Quoted (written)

/-! ## Writing -/

/-- A cell under its name; it may be left out if it is empty. -/
inductive WritesCell (name text : String) : List (String × Flow) → Prop where
  | given : WritesCell name text [(name, .text text)]
  | leftOut (empty : text = "") : WritesCell name text []

/-- **A row is written as** a mapping of its command and its cells. -/
def Row.WrittenAs (row : Row) (f : Flow) : Prop :=
  ∃ locator value, WritesCell "locator" row.locator locator ∧ WritesCell "value" row.value value ∧
    f = .map (("command", .text row.command) :: (locator ++ value))

/-- Names and texts as a mapping. -/
def Variables.flow (entries : List (String × String)) : Flow :=
  .map (entries.map fun entry => (entry.1, .text entry.2))

/-- The description under its name, if there is one. -/
def Script.descriptionEntry (description : Option String) : List (String × Flow) :=
  description.toList.map fun text => ("description", .text text)

/-- Variables under their name, in any order; where there are none they may be left out. -/
inductive Variables.WrittenAs (v : Variables) : List (String × Flow) → Prop where
  | given {entries : List (String × String)} (order : entries.Perm v.entries) :
    v.WrittenAs [("variables", flow entries)]
  | leftOut (none : v.entries = []) : v.WrittenAs []

/-- **A script is written as** a mapping of its name, its description, its variables and its
rows. -/
def Script.WrittenAs (s : Script) (f : Flow) : Prop :=
  ∃ vars rows, s.vars.WrittenAs vars ∧ List.Forall₂ Row.WrittenAs s.rows rows ∧
    f = .map (("name", .text s.name) ::
      (descriptionEntry s.description ++ (vars ++ [("commands", .list rows)])))

/-- A row with both of its cells. -/
def Row.flow (row : Row) : Flow :=
  .map [("command", .text row.command), ("locator", .text row.locator), ("value", .text row.value)]

/-- **A script with nothing left out.** -/
def Script.flow (s : Script) : Flow :=
  .map (("name", .text s.name) :: (descriptionEntry s.description ++
    [("variables", Variables.flow s.vars.entries), ("commands", .list (s.rows.map Row.flow))]))

theorem Row.writtenAs_flow (row : Row) : row.WrittenAs row.flow :=
  ⟨_, _, .given, .given, rfl⟩

/-- Nothing has to be left out. -/
theorem Script.writtenAs_flow (s : Script) : s.WrittenAs s.flow := by
  have rows : List.Forall₂ Row.WrittenAs s.rows (s.rows.map Row.flow) := by
    induction s.rows with
    | nil => exact .nil
    | cons row _ ih => exact .cons row.writtenAs_flow ih
  exact ⟨_, _, .given (List.Perm.refl _), rows, rfl⟩

/-! ## Keys -/

/-- The names of all fields. -/
def fieldNames : List String :=
  ["name", "description", "variables", "commands", "command", "locator", "value"]

theorem Row.keys_of_writtenAs {row : Row} {f : Flow} (h : row.WrittenAs f) :
    ∀ key ∈ f.keys, key ∈ fieldNames := by
  obtain ⟨_, _, locator, value, rfl⟩ := h
  cases locator <;> cases value <;> simp [Flow.keys, Flow.entryKeys, fieldNames]

theorem Row.itemKeys_of_writtenAs {rows : List Row} {items : List Flow}
    (h : List.Forall₂ Row.WrittenAs rows items) :
    ∀ key ∈ Flow.itemKeys items, key ∈ fieldNames := by
  induction h with
  | nil => exact fun _ h => absurd h List.not_mem_nil
  | cons row _ ih => exact List.forall_mem_append.2 ⟨Row.keys_of_writtenAs row, ih⟩

theorem Variables.keys_flow (entries : List (String × String)) :
    (flow entries).keys = entries.map Prod.fst := by
  rw [flow, Flow.keys]
  induction entries with
  | nil => rfl
  | cons entry entries ih =>
    rw [List.map_cons, Flow.entryKeys, ih]
    rfl

section Keys

variable {p : String → Prop} (fields : ∀ key ∈ fieldNames, p key)

include fields

theorem Variables.WrittenAs.forall_keys {v : Variables} {es : List (String × Flow)}
    (h : v.WrittenAs es) (names : ∀ entry ∈ v.entries, p entry.1) :
    ∀ key ∈ Flow.entryKeys es, p key := by
  cases h with
  | @given entries order =>
    have listed : ∀ key ∈ (flow entries).keys, p key := by
      intro key hk
      rw [keys_flow, List.mem_map] at hk
      obtain ⟨entry, he, rfl⟩ := hk
      exact names entry (order.mem_iff.1 he)
    rw [Flow.entryKeys, Flow.entryKeys, List.append_nil]
    exact List.forall_mem_cons.2 ⟨fields _ (by decide), listed⟩
  | leftOut => exact fun _ h => absurd h List.not_mem_nil

/-- **The keys of a written script** are names of fields and names of its variables. -/
theorem Script.WrittenAs.forall_keys {s : Script} {f : Flow} (h : s.WrittenAs f)
    (names : ∀ entry ∈ s.vars.entries, p entry.1) : ∀ key ∈ f.keys, p key := by
  obtain ⟨_, items, vars, rows, rfl⟩ := h
  have inRows : ∀ key ∈ Flow.itemKeys items, p key := fun key hk =>
    fields key (Row.itemKeys_of_writtenAs rows key hk)
  have description : ∀ key ∈ Flow.entryKeys (descriptionEntry s.description), p key := by
    cases s.description with
    | none => exact fun _ h => absurd h List.not_mem_nil
    | some text => simpa [descriptionEntry, Flow.entryKeys, Flow.keys] using fields _ (by decide)
  have variables_ := vars.forall_keys fields names
  simp only [Flow.keys, Flow.entryKeys, Flow.entryKeys_append, List.nil_append, List.append_nil,
    List.forall_mem_cons, List.forall_mem_append]
  exact ⟨fields _ (by decide), description, variables_, fields _ (by decide), inRows⟩

end Keys

/-! ## Reading -/

theorem Row.ofNode_node (d : Document) (place : Place) {row : Row} {f : Flow}
    (h : row.WrittenAs f) : Row.ofNode d place f.node = .ok row := by
  obtain ⟨command, locator, value⟩ := row
  obtain ⟨_, _, locators, values, rfl⟩ := h
  rcases locators with _ | rfl <;> rcases values with _ | rfl <;> rfl

theorem Row.ofNodes_itemNodes (d : Document) (place : Place) {rows : List Row} {items : List Flow}
    (h : List.Forall₂ Row.WrittenAs rows items) (index : Nat) :
    Row.ofNodes d place index (Flow.itemNodes items) = .ok rows := by
  induction h generalizing index with
  | nil => rfl
  | cons row _ ih =>
    rw [Flow.itemNodes, Row.ofNodes, Row.ofNode_node d _ row, Reading.ok_bind, ih, Reading.map_ok]

theorem Variables.ofEntries_entryNodes (d : Document) (place : Place)
    (entries : List (String × String)) (v : Variables) :
    Variables.ofEntries d place
        (Flow.entryNodes (entries.map fun e => (e.1, Flow.text e.2))) v =
      .ok (entries.foldl (fun v e => v.insert e.1 e.2) v) := by
  induction entries generalizing v with
  | nil => rfl
  | cons e entries ih => exact ih (v.insert e.1 e.2)

/-- In whatever order the entries of a map are gone through, the map comes out. -/
theorem Variables.resembles_ofList {v : Variables} {entries : List (String × String)}
    (order : entries.Perm v.entries) : (Variables.ofList entries).Resembles v := by
  intro name
  have nodup : (entries.reverse.map Prod.fst).Nodup :=
    (((List.reverse_perm entries).trans order).map Prod.fst).nodup_iff.2 v.nodup_names
  rw [ofList, get?_foldl_insert, get?_empty, Option.or_none]
  exact lookup_eq_of_perm ((List.reverse_perm entries).trans order) nodup name

section Fields

variable (d : Document)

namespace ScriptDraft

variable (name : Option String) (description : Option (Option String)) (vars : Option Variables)
  (rows : Option (List Row)) (es : List (Node × Node))

/-- A description that is written is read as it is, the empty one too. -/
theorem readFields_description (text : Option String) :
    readFields d .root (set d) (Flow.entryNodes (Script.descriptionEntry text) ++ es)
        ⟨name, none, vars, rows⟩ =
      readFields d .root (set d) es ⟨name, text.map some, vars, rows⟩ := by
  cases text <;> rfl

theorem set_variables (place : Place) (entries : List (String × String)) :
    set d "variables" place (Variables.flow entries).node ⟨name, description, none, rows⟩ =
      .ok ⟨name, description, some (.ofList entries), rows⟩ := by
  change ((Variables.ofEntries d place (Flow.entryNodes _) {}).map some).map _ = _
  rw [Variables.ofEntries_entryNodes]
  rfl

/-- Variables are read up to their order, and none are where they are left out. -/
theorem readFields_variables {v : Variables} {given : List (String × Flow)}
    (h : v.WrittenAs given) :
    ∃ w : Option Variables, (w.getD {}).Resembles v ∧
      readFields d .root (set d) (Flow.entryNodes given ++ es) ⟨name, description, none, rows⟩ =
        readFields d .root (set d) es ⟨name, description, w, rows⟩ := by
  cases h with
  | @given entries order =>
    have field := set_variables d name description rows (.member .root "variables") entries
    exact ⟨some (.ofList entries), Variables.resembles_ofList order,
      congrArg (Reading.bind · (readFields d .root (set d) es)) field⟩
  | leftOut empty =>
    refine ⟨none, fun other => ?_, rfl⟩
    rw [Variables.get?, Variables.get?, empty]
    rfl

theorem readFields_commands {given : List Row} {items : List Flow}
    (h : List.Forall₂ Row.WrittenAs given items) :
    readFields d .root (set d) (Flow.entryNodes [("commands", .list items)])
        ⟨name, description, vars, none⟩ =
      .ok ⟨name, description, vars, some given⟩ := by
  change (((Row.ofNodes d _ 0 (Flow.itemNodes items)).map some).map _).bind _ = _
  rw [Row.ofNodes_itemNodes d _ h]
  rfl

end ScriptDraft

end Fields

/-- What is read without going from one node to another is within the limit. -/
theorem Script.ofDocument_of_reading {d : Document} {s : Script} (h : Script.reading d = .ok s) :
    Script.ofDocument d = .ok s := by
  have within : ¬Overruns d := by
    rw [Overruns, h]
    exact Nat.not_lt_zero _
  rw [ofDocument, if_neg within, h]
  rfl

/-- **A script is read as it was written**, up to the order of its variables. -/
theorem Script.ofDocument_node {s : Script} {f : Flow} (h : s.WrittenAs f) :
    ∃ vars : Variables, vars.Resembles s.vars ∧
      Script.ofDocument ⟨f.node, true⟩ = .ok { s with vars := vars } := by
  obtain ⟨given, items, vars, rows, rfl⟩ := h
  let further := descriptionEntry s.description ++ (given ++ [("commands", .list items)])
  let entries := ("name", Flow.text s.name) :: further
  let d : Document := ⟨(Flow.map entries).node, true⟩
  obtain ⟨w, resembles, read⟩ := ScriptDraft.readFields_variables d (some s.name)
    (s.description.map some) none (Flow.entryNodes [("commands", .list items)]) vars
  have fields : readFields d .root (ScriptDraft.set d) (Flow.entryNodes entries) {} =
      .ok ⟨some s.name, s.description.map some, w, some s.rows⟩ := by
    change readFields d .root (ScriptDraft.set d) (Flow.entryNodes further)
      ⟨some s.name, none, none, none⟩ = _
    rw [Flow.entryNodes_append, ScriptDraft.readFields_description, Flow.entryNodes_append, read,
      ScriptDraft.readFields_commands d _ _ _ rows]
  have description : (s.description.map some).getD none = s.description := by
    cases s.description <;> rfl
  have reading : Script.reading d = .ok { s with vars := w.getD {} } := by
    change ((readFields d .root (ScriptDraft.set d) (Flow.entryNodes entries) {}).bind _) = _
    rw [fields]
    simp only [ScriptDraft.finish, required, Reading.ok_bind, Reading.map_ok, description]
    rfl
  exact ⟨w.getD {}, resembles, ofDocument_of_reading reading⟩

/-- **Every script can be written down**, with nothing left out or whatever may be left out: the text
is loaded as the script, up to the order of its variables.  Without a row there is nothing to load,
and the script is refused by its name. -/
theorem Script.load_written (s : Script) (capital : Bool)
    (short : ∀ entry ∈ s.vars.entries, (written capital entry.1).length ≤ KeyPlace.reach) :
    s.WrittenAs s.flow ∧ ∀ f, s.WrittenAs f → ∀ (files : Files) (path : String),
      files path = .ok (f.written capital) →
        (s.rows ≠ [] → ∃ vars : Variables, vars.Resembles s.vars ∧
          load files path = .ok { s with vars := vars }) ∧
        (s.rows = [] → load files path = .error (.empty s.name)) := by
  refine ⟨s.writtenAs_flow, fun f h files path file => ?_⟩
  have fields : ∀ key ∈ fieldNames, (written capital key).length ≤ KeyPlace.reach := by
    cases capital <;> decide
  obtain ⟨vars, resembles, read⟩ := Script.ofDocument_node h
  have text : ofText (f.written capital) = .ok { s with vars := vars } := by
    rw [ofText, Flow.ofText_written capital f (h.forall_keys fields short), read]
  constructor
  · intro some
    refine ⟨vars, resembles, ?_⟩
    simp [load, file, text, some]
  · intro none
    simp [load, file, text, none]

/-- What looks like something else is a text all the same, an empty description is one, and the
second row is written without its empty cell. -/
theorem Script.load_written_odd :
    let s : Script :=
      ⟨"\"It's\"\n 😀 ", some "", ⟨[("null", "~"), ("a: \x7bb\x7d", "5")], by decide⟩,
        [⟨"click", "", "true"⟩, ⟨"# no comment", "\x7bx\x7d", ""⟩]⟩
    let f : Flow := .map [("name", .text s.name), ("description", .text ""),
      ("variables", .map [("a: \x7bb\x7d", .text "5"), ("null", .text "~")]),
      ("commands", .list [
        .map [("command", .text "click"), ("locator", .text ""), ("value", .text "true")],
        .map [("command", .text "# no comment"), ("locator", .text "\x7bx\x7d")]])]
    ∃ vars : Variables, vars.Resembles s.vars ∧
      load (fun _ => .ok (f.written true)) "odd.yaml" = .ok { s with vars := vars } := by
  intro s f
  have short : ∀ entry ∈ s.vars.entries, (written true entry.1).length ≤ KeyPlace.reach := by
    decide
  have asTree : s.WrittenAs f :=
    ⟨_, _, .given (List.Perm.swap _ _ _),
      .cons ⟨_, _, .given, .given, rfl⟩ (.cons ⟨_, _, .given, .leftOut rfl, rfl⟩ .nil), rfl⟩
  have loaded :=
    (load_written s true short).2 f asTree (fun _ => .ok (f.written true)) "odd.yaml" rfl
  exact loaded.1 (List.cons_ne_nil _ _)

end Rowscript
