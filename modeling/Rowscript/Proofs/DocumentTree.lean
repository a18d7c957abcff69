import Mathlib.Data.List.Basic
import Rowscript.Proofs.WholeTrees

/-!
# Proofs/DocumentTree — what is read in a script is what its tree holds

    document ──tree──▸ tree ──script?──▸ script

A node of a document may stand for another one; in its tree the other one is in its place.  The
reader goes from entry to entry and stops at the first mismatch.  Whether there is a script, and
which one, can be said without any order: all keys are texts (`Tree.areKeyed`), under the name of a
field there is one value at most (`Tree.under`, `Tree.fill`), and it is one that the field takes.
What stands under other names is not looked at.  A tree in which the cells of rows are seen is deep
enough for the script (`Script.toOption_reading`).
-/

namespace Rowscript

namespace Yaml

/-- **A tree in which nothing stands for anything else.** -/
inductive Tree where
  | scalar (content : Scalar)
  | sequence (items : List Tree)
  | mapping (entries : List (Tree × Tree))
  /-- There is no such node, or it lies too deep to be seen. -/
  | unseen

namespace Tree

mutual

def decEq : (t u : Tree) → Decidable (t = u)
  | .scalar s, .scalar s' => decidable_of_iff (s = s') (by simp)
  | .sequence ts, .sequence us =>
    have := decEqItems ts us
    decidable_of_iff (ts = us) (by simp)
  | .mapping es, .mapping fs =>
    have := decEqEntries es fs
    decidable_of_iff (es = fs) (by simp)
  | .unseen, .unseen => isTrue rfl
  | .scalar _, .sequence _ | .scalar _, .mapping _ | .scalar _, .unseen => isFalse nofun
  | .sequence _, .scalar _ | .sequence _, .mapping _ | .sequence _, .unseen => isFalse nofun
  | .mapping _, .scalar _ | .mapping _, .sequence _ | .mapping _, .unseen => isFalse nofun
  | .unseen, .scalar _ | .unseen, .sequence _ | .unseen, .mapping _ => isFalse nofun

def decEqItems : (ts us : List Tree) → Decidable (ts = us)
  | [], [] => isTrue rfl
  | t :: ts, u :: us =>
    have := t.decEq u
    have := decEqItems ts us
    decidable_of_iff (t = u ∧ ts = us) (by simp)
  | [], _ :: _ | _ :: _, [] => isFalse nofun

def decEqEntries : (es fs : List (Tree × Tree)) → Decidable (es = fs)
  | [], [] => isTrue rfl
  | (k, v) :: es, (k', v') :: fs =>
    have := k.decEq k'
    have := v.decEq v'
    have := decEqEntries es fs
    decidable_of_iff ((k = k' ∧ v = v') ∧ es = fs) (by simp)
  | [], _ :: _ | _ :: _, [] => isFalse nofun

end

instance : DecidableEq Tree := decEq

end Tree

/-- **The tree under a node, as it is seen to a depth**: in the place of a node that stands for
another one there is the other one. -/
def Document.tree (d : Document) : Nat → Node → Tree
  | 0, _ => .unseen
  | depth + 1, n =>
    match d.follow n with
    | .scalar _ s => .scalar s
    | .sequence _ items => .sequence (items.map (d.tree depth))
    | .mapping _ entries =>
      .mapping (entries.map fun e => (d.tree depth e.1, d.tree depth e.2))
    | .reference _ | .torn => .unseen

/-- The trees under the nodes of entries. -/
def Document.entryTrees (d : Document) (depth : Nat) (es : List (Node × Node)) :
    List (Tree × Tree) :=
  es.map fun e => (d.tree depth e.1, d.tree depth e.2)

namespace Tree

/-! ## Looking at trees -/

/-- A text. -/
def text? : Tree → Option String
  | scalar s => some s.text
  | _ => none

/-- The items of a sequence; nothing is a sequence without any. -/
def items? : Tree → Option (List Tree)
  | sequence items => some items
  | scalar s => if s.isBlank then some [] else none
  | _ => none

/-- The entries of a mapping; nothing is a mapping without any. -/
def entries? : Tree → Option (List (Tree × Tree))
  | mapping entries => some entries
  | scalar s => if s.isBlank then some [] else none
  | _ => none

/-- A text that may be missing. -/
def optionalText? : Tree → Option (Option String)
  | scalar ⟨text, true, none⟩ =>
    some (if text.isEmpty || Scalar.isNull text then none else some text)
  | scalar ⟨text, true, some "tag:yaml.org,2002:null"⟩ =>
    if Scalar.isNull text then some none else none
  | t => t.text?.map some

end Tree

end Yaml

section Reading

open Yaml

variable {α β : Type}

/-- What was read, however often a node was asked for that another one stands for. -/
def Reading.toOption (r : Reading α) : Option α := r.result.toOption

theorem toOption_bind (r : Reading α) (f : α → Reading β) :
    (r.bind f).toOption = r.toOption.bind fun a => (f a).toOption := by
  obtain ⟨jumps, _ | a⟩ := r <;> rfl

theorem toOption_map (r : Reading α) (f : α → β) : (r.map f).toOption = r.toOption.map f := by
  obtain ⟨jumps, _ | a⟩ := r <;> rfl

variable (d : Document) (depth : Nat) (place : Place) (wanted : Wanted) (n : Node)

theorem toOption_text : (d.text wanted place n).toOption = (d.tree (depth + 1) n).text? := by
  rw [Document.text, Document.tree]
  cases d.follow n <;> rfl

theorem toOption_items :
    (d.items place n).toOption.map (List.map (d.tree depth)) = (d.tree (depth + 1) n).items? := by
  rw [Document.items, Document.tree]
  cases d.follow n with
  | scalar _ s => simp only [Tree.items?]; split <;> rfl
  | _ => rfl

theorem toOption_entries :
    (d.entries wanted place n).toOption.map (d.entryTrees depth) =
      (d.tree (depth + 1) n).entries? := by
  rw [Document.entries, Document.tree]
  cases d.follow n with
  | scalar _ s => simp only [Tree.entries?]; split <;> rfl
  | _ => rfl

theorem toOption_optionalText :
    (d.optionalText place n).toOption = (d.tree (depth + 1) n).optionalText? := by
  rw [Document.optionalText, Document.text, Document.tree]
  cases d.follow n with
  | scalar _ s =>
    rcases s with ⟨text, _ | _, _ | tag⟩
    · rfl
    · rfl
    · rfl
    · by_cases null : tag = "tag:yaml.org,2002:null"
      · subst null
        change Except.toOption (if _ then _ else _) = if _ then _ else _
        split <;> rfl
      · simp [Tree.optionalText?, null, Tree.text?]
        rfl
  | _ => rfl

end Reading

/-! ## Fields -/

namespace Yaml.Tree

variable {α : Type}

/-- Every key is a text. -/
def areKeyed (es : List (Tree × Tree)) : Bool := es.all fun e => e.1.text?.isSome

/-- The values under a name. -/
def under (name : String) (es : List (Tree × Tree)) : List Tree :=
  (es.filter fun e => e.1.text? == some name).map Prod.snd

/-- **A field is given values**, and takes one at most. -/
def fill (read : Tree → Option α) : Option α → List Tree → Option (Option α)
  | old, [] => some old
  | none, t :: ts => (read t).bind fun a => fill read (some a) ts
  | some _, _ :: _ => none

theorem fill_append (read : Tree → Option α) (old : Option α) (ts us : List Tree) :
    fill read old (ts ++ us) = (fill read old ts).bind (fill read · us) := by
  induction ts generalizing old with
  | nil => rfl
  | cons t ts ih =>
    cases old with
    | none => simp only [List.cons_append, fill, ih, Option.bind_assoc]
    | some a => rfl

theorem under_cons (name : String) (e : Tree × Tree) (es : List (Tree × Tree)) :
    under name (e :: es) = under name [e] ++ under name es := by
  simp only [under, List.filter_cons]
  split <;> simp

theorem under_singleton {name key : String} {k : Tree} (h : k.text? = some key) (t : Tree) :
    under name [(k, t)] = if key = name then [t] else [] := by
  simp only [under, List.filter_cons, h]
  split <;> simp_all

end Yaml.Tree

open Yaml Tree

/-- The fields of a row are given their values. -/
def RowDraft.gather (draft : RowDraft) (es : List (Tree × Tree)) : Option RowDraft :=
  (fill text? draft.command (under "command" es)).bind fun command =>
    (fill text? draft.locator (under "locator" es)).bind fun locator =>
      (fill text? draft.value (under "value" es)).bind fun value =>
        some ⟨command, locator, value⟩

theorem RowDraft.gather_nil (draft : RowDraft) : draft.gather [] = some draft := rfl

theorem RowDraft.gather_cons (draft : RowDraft) (e : Tree × Tree) (es : List (Tree × Tree)) :
    draft.gather (e :: es) = (draft.gather [e]).bind (·.gather es) := by
  simp only [gather, under_cons _ e es, fill_append]
  cases fill text? draft.command (under "command" [e]) <;>
    cases fill text? draft.locator (under "locator" [e]) <;>
    cases fill text? draft.value (under "value" [e]) <;>
    simp

/-- A field that is read is given its value. -/
theorem toOption_once {α δ : Type} (place : Place) (name : String) (old : Option α)
    {read : Reading α} {read' : Tree → Option α} {t : Tree} (h : read.toOption = read' t)
    (set : Option α → δ) :
    ((once place name old read).map set).toOption =
      (fill read' old [t]).bind fun a => some (set a) := by
  cases old with
  | none =>
    rw [once, toOption_map, toOption_map, h, fill, Option.map_map, Option.map_eq_bind,
      Option.bind_assoc]
    rfl
  | some a => rfl

section Fields

variable (d : Document) (depth : Nat)

theorem RowDraft.toOption_set (row : Place) {name : String} {place : Place} {k : Tree} {v : Node}
    {draft : RowDraft} (hk : k.text? = some name) (whole : v.isWhole) :
    (RowDraft.set d row name place v draft).toOption =
      draft.gather [(k, d.tree (depth + 1) v)] := by
  have text := toOption_text d depth place .text v
  simp only [gather, under_singleton hk]
  rw [RowDraft.set.eq_def]
  split
  case h_4 notCommand notLocator notValue =>
    rw [if_neg notCommand, if_neg notLocator, if_neg notValue, leaveOut, if_pos whole]
    rfl
  all_goals
    rw [toOption_once _ _ _ text]
    simp [fill]

/-- **Entries are read one by one as they are gathered by name.** -/
theorem toOption_readFields {δ : Type} (place : Place)
    (set : String → Place → Node → δ → Reading δ)
    {gather : δ → List (Tree × Tree) → Option δ} (nil : ∀ draft, gather draft [] = some draft)
    (cons : ∀ draft e es, gather draft (e :: es) = (gather draft [e]).bind (gather · es))
    (step : ∀ {name place k v draft}, k.text? = some name → v.isWhole →
      (set name place v draft).toOption = gather draft [(k, d.tree (depth + 1) v)])
    {es : List (Node × Node)} (whole : ∀ e ∈ es, Node.EntryIsWhole e) (draft : δ) :
    (readFields d place set es draft).toOption =
      if areKeyed (d.entryTrees (depth + 1) es) then
        gather draft (d.entryTrees (depth + 1) es)
      else none := by
  induction es generalizing draft with
  | nil => exact (nil draft).symm
  | cons e es ih =>
    obtain ⟨k, v⟩ := e
    obtain ⟨here, there⟩ := List.forall_mem_cons.1 whole
    rw [readFields, toOption_bind, toOption_text d depth]
    change _ = if areKeyed ((_, _) :: d.entryTrees (depth + 1) es) then
      gather draft ((_, _) :: d.entryTrees (depth + 1) es) else none
    cases key : (d.tree (depth + 1) k).text? with
    | none => simp [areKeyed, key]
    | some name =>
      have keyed : areKeyed ((d.tree (depth + 1) k, d.tree (depth + 1) v) ::
          d.entryTrees (depth + 1) es) = areKeyed (d.entryTrees (depth + 1) es) := by
        simp [areKeyed, key]
      rw [Option.bind_some, toOption_bind, step key here.2, keyed, cons _ _ (d.entryTrees _ es)]
      simp only [ih there]
      by_cases all : areKeyed (d.entryTrees (depth + 1) es) <;> simp [all]

/-- **A structure is read as it is gathered.** -/
theorem toOption_record {δ β : Type} (wanted : Wanted) (place : Place)
    (set : String → Place → Node → δ → Reading δ)
    {gather : δ → List (Tree × Tree) → Option δ} (nil : ∀ draft, gather draft [] = some draft)
    (cons : ∀ draft e es, gather draft (e :: es) = (gather draft [e]).bind (gather · es))
    (step : ∀ {name place k v draft}, k.text? = some name → v.isWhole →
      (set name place v draft).toOption = gather draft [(k, d.tree (depth + 1) v)])
    (init : δ) {finish : δ → Reading β} {finish' : δ → Option β}
    (done : ∀ draft, (finish draft).toOption = finish' draft)
    (whole : d.root.isWhole) {n : Node} (h : n.isWhole) :
    ((d.entries wanted place n).bind fun es =>
        (readFields d place set es init).bind finish).toOption =
      (d.tree (depth + 2) n).entries?.bind fun es =>
        if areKeyed es then (gather init es).bind finish' else none := by
  rw [toOption_bind, ← toOption_entries d (depth + 1) place wanted n]
  rw [Reading.toOption]
  cases read : (d.entries wanted place n).result with
  | error refusal => rfl
  | ok es =>
    have fields := toOption_readFields d depth place set nil cons step
      (Document.entries_areWhole whole h read) init
    change (Reading.bind _ _).toOption = if areKeyed (d.entryTrees (depth + 1) es) then _ else none
    rw [toOption_bind, fields]
    split
    · exact congrArg _ (funext done)
    · rfl

end Fields

/-! ## Rows -/

namespace Yaml.Tree

/-- The row of fields that are there. -/
def rowOf? (draft : RowDraft) : Option Row :=
  draft.command.map fun command => ⟨command, draft.locator.getD "", draft.value.getD ""⟩

/-- **The row of a tree.** -/
def row? (t : Tree) : Option Row :=
  t.entries?.bind fun es => if areKeyed es then (RowDraft.gather {} es).bind rowOf? else none

/-- The rows of a tree. -/
def rows? (t : Tree) : Option (List Row) := t.items?.bind (·.mapM row?)

/-- A name and a text. -/
def assignment? (e : Tree × Tree) : Option (String × String) :=
  e.1.text?.bind fun name => e.2.text?.map fun text => (name, text)

/-- The texts that names are given. -/
def assignments? (es : List (Tree × Tree)) : Option (List (String × String)) :=
  if es.all fun e => (assignment? e).isSome then some (es.filterMap assignment?) else none

theorem assignments?_cons (e : Tree × Tree) (es : List (Tree × Tree)) :
    assignments? (e :: es) = (assignment? e).bind fun a => (assignments? es).map (a :: ·) := by
  cases h : assignment? e with
  | none => simp [assignments?, h]
  | some a => simp only [assignments?, List.all_cons, List.filterMap_cons, h]; split <;> simp_all

/-- The variables of a tree. -/
def vars? (t : Tree) : Option Variables :=
  t.entries?.bind fun es => (assignments? es).map Variables.ofList

end Yaml.Tree

/-- The fields of a script are given their values. -/
def ScriptDraft.gather (draft : ScriptDraft) (es : List (Tree × Tree)) : Option ScriptDraft :=
  (fill text? draft.name (under "name" es)).bind fun name =>
    (fill optionalText? draft.description (under "description" es)).bind fun description =>
      (fill vars? draft.vars (under "variables" es)).bind fun vars =>
        (fill rows? draft.rows (under "commands" es)).bind fun rows =>
          some ⟨name, description, vars, rows⟩

namespace Yaml.Tree

/-- The script of fields that are there. -/
def scriptOf? (draft : ScriptDraft) : Option Script :=
  draft.name.bind fun name => draft.rows.map fun rows =>
    ⟨name, draft.description.getD none, draft.vars.getD {}, rows⟩

/-- **The script of a tree.** -/
def script? (t : Tree) : Option Script :=
  t.entries?.bind fun es =>
    if areKeyed es then (ScriptDraft.gather {} es).bind scriptOf? else none

end Yaml.Tree

theorem toOption_required {α : Type} (place : Place) (name : String) (a : Option α) :
    (required place name a).toOption = a := by
  cases a <;> rfl

theorem RowDraft.toOption_finish (place : Place) (draft : RowDraft) :
    (draft.finish place).toOption = rowOf? draft := by
  rw [finish, toOption_map, toOption_required, rowOf?]

theorem ScriptDraft.toOption_finish (draft : ScriptDraft) :
    draft.finish.toOption = scriptOf? draft := by
  simp only [finish, toOption_bind, toOption_map, toOption_required, scriptOf?]

theorem ScriptDraft.gather_nil (draft : ScriptDraft) : draft.gather [] = some draft := rfl

theorem ScriptDraft.gather_cons (draft : ScriptDraft) (e : Tree × Tree) (es : List (Tree × Tree)) :
    draft.gather (e :: es) = (draft.gather [e]).bind (·.gather es) := by
  simp only [gather, under_cons _ e es, fill_append]
  cases fill text? draft.name (under "name" [e]) <;>
    cases fill optionalText? draft.description (under "description" [e]) <;>
    cases fill vars? draft.vars (under "variables" [e]) <;>
    cases fill rows? draft.rows (under "commands" [e]) <;>
    simp

section Scripts

variable (d : Document) (depth : Nat)

theorem toOption_ofEntries (place : Place) (es : List (Node × Node)) (v : Variables) :
    (Variables.ofEntries d place es v).toOption =
      (assignments? (d.entryTrees (depth + 1) es)).map
        (List.foldl (fun v entry => v.insert entry.1 entry.2) v) := by
  induction es generalizing v with
  | nil => rfl
  | cons e es ih =>
    obtain ⟨k, n⟩ := e
    change _ = (assignments? ((_, _) :: d.entryTrees (depth + 1) es)).map _
    simp only [Variables.ofEntries, toOption_bind, toOption_text d depth, ih, assignments?_cons,
      assignment?]
    cases (d.tree (depth + 1) k).text? <;> cases (d.tree (depth + 1) n).text? <;> simp
    rfl

theorem toOption_vars (place : Place) (n : Node) :
    ((d.entries .map place n).bind (Variables.ofEntries d place · {})).toOption =
      (d.tree (depth + 2) n).vars? := by
  rw [toOption_bind, vars?, ← toOption_entries d (depth + 1) place .map n]
  rw [Reading.toOption]
  cases (d.entries .map place n).result with
  | error refusal => rfl
  | ok es => exact toOption_ofEntries d depth place es {}

variable (whole : d.root.isWhole)

include whole

/-- **A row is read as its tree says.** -/
theorem toOption_rowOfNode (place : Place) {n : Node} (h : n.isWhole) :
    (Row.ofNode d place n).toOption = (d.tree (depth + 2) n).row? :=
  toOption_record d depth (.record "ScriptCommand") place (RowDraft.set d place)
    RowDraft.gather_nil RowDraft.gather_cons (RowDraft.toOption_set d depth place) {}
    (RowDraft.toOption_finish place) whole h

theorem toOption_rowsOfNodes (place : Place) {ns : List Node} (h : ∀ n ∈ ns, n.isWhole)
    (index : Nat) :
    (Row.ofNodes d place index ns).toOption = (ns.map (d.tree (depth + 2))).mapM row? := by
  induction ns generalizing index with
  | nil => rfl
  | cons n ns ih =>
    obtain ⟨here, there⟩ := List.forall_mem_cons.1 h
    rw [Row.ofNodes, toOption_bind, toOption_rowOfNode d depth whole _ here, List.map_cons,
      List.mapM_cons]
    simp only [toOption_map, ih there, Option.map_eq_bind]
    rfl

theorem toOption_rows (place : Place) {n : Node} (h : n.isWhole) :
    ((d.items place n).bind (Row.ofNodes d place 0)).toOption = (d.tree (depth + 3) n).rows? := by
  rw [toOption_bind, rows?, ← toOption_items d (depth + 2) place n]
  rw [Reading.toOption]
  cases read : (d.items place n).result with
  | error refusal => rfl
  | ok ns => exact toOption_rowsOfNodes d depth whole place (Document.items_areWhole whole h read) 0

theorem ScriptDraft.toOption_set {name : String} {place : Place} {k : Tree} {v : Node}
    {draft : ScriptDraft} (hk : k.text? = some name) (h : v.isWhole) :
    (ScriptDraft.set d name place v draft).toOption =
      draft.gather [(k, d.tree (depth + 3) v)] := by
  simp only [gather, under_singleton hk]
  rw [ScriptDraft.set.eq_def]
  split
  case h_5 notName notDescription notVariables notCommands =>
    rw [if_neg notName, if_neg notDescription, if_neg notVariables, if_neg notCommands, leaveOut,
      if_pos h]
    rfl
  case h_1 =>
    rw [toOption_once _ _ _ (toOption_text d (depth + 2) place .text v)]
    simp [fill]
  case h_2 =>
    rw [toOption_once _ _ _ (toOption_optionalText d (depth + 2) place v)]
    simp [fill]
  case h_3 =>
    rw [toOption_once _ _ _ (toOption_vars d (depth + 1) place v)]
    simp [fill]
  case h_4 =>
    rw [toOption_once _ _ _ (toOption_rows d depth whole place h)]
    simp [fill]

/-- **A script is read as its tree says.** -/
theorem Script.toOption_reading (ends : d.isWhole) :
    (Script.reading d).toOption = (d.tree (depth + 4) d.root).script? := by
  refine toOption_record d (depth + 2) (.record "TestScript") .root (ScriptDraft.set d)
    ScriptDraft.gather_nil ScriptDraft.gather_cons (ScriptDraft.toOption_set d depth whole) {}
    (fun draft => ?_) whole whole
  simp only [toOption_bind, ScriptDraft.toOption_finish, if_pos ends]
  exact Option.bind_fun_some _

end Scripts

end Rowscript
