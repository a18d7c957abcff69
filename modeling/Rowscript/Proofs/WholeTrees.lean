import Rowscript.Script.Reader

/-!
# Proofs/WholeTrees — what is read to its end is whole

    tokens ──read──▸ tree, tokens behind it        the tree is whole
    tokens ──read──▸ tree, nothing                 the tree is torn somewhere

Reading breaks off at the place where a tree is torn, so where there are tokens behind a tree it is
whole: each reader keeps this, if the readers that it is given do (`Part.IsSound`).  A document that
is well-formed to its end is therefore whole (`Document.root_isWhole`), and so is every node that
another one stands for (`Document.follow_isWhole`).
-/

namespace Rowscript.Yaml

/-- **What was read is as it should be**, unless reading broke off. -/
def Part.IsSound {α : Type} (good : α → Prop) (p : Part α) : Prop := p.rest ≠ none → good p.value

namespace Part

variable {α β : Type} {good : α → Prop} {p : Part α}

theorem isSound_torn (good : Node → Prop) : torn.IsSound good := fun h => absurd rfl h

theorem isSound_of_rest (h : p.rest = none) : p.IsSound good := fun some => absurd h some

theorem IsSound.map (h : p.IsSound good) {good' : β → Prop} {f : α → β}
    (keeps : ∀ a, good a → good' (f a)) : (p.map f).IsSound good' :=
  fun rest => keeps _ (h rest)

end Part

namespace Node

/-- Both nodes of an entry are whole. -/
def EntryIsWhole (e : Node × Node) : Prop := e.1.isWhole ∧ e.2.isWhole

theorem areWhole_iff {ns : List Node} : areWhole ns ↔ ∀ n ∈ ns, n.isWhole := by
  induction ns with
  | nil => simp [areWhole]
  | cons n ns ih => simp [areWhole, ih]

theorem entriesAreWhole_iff {es : List (Node × Node)} :
    entriesAreWhole es ↔ ∀ e ∈ es, EntryIsWhole e := by
  induction es with
  | nil => simp [entriesAreWhole]
  | cons e es ih => simp [entriesAreWhole, ih, EntryIsWhole]

/-! ## Readers -/

/-- A reader of nodes is sound. -/
def Reads (read : List Token → Part Node) : Prop := ∀ ts, (read ts).IsSound (·.isWhole)

/-- The next element of a collection is sound, if there is one. -/
def Next.IsSound {α : Type} (good : α → Prop) : Next α → Prop
  | element part => part.IsSound good
  | done _ => True

theorem collect_isSound {α : Type} {good : α → Prop} {next : Bool → List Token → Next α}
    (sound : ∀ first ts, (next first ts).IsSound good) (fuel : Nat) (first : Bool)
    (ts : List Token) : (collect next fuel first ts).IsSound (∀ a ∈ ·, good a) := by
  induction fuel generalizing first ts with
  | zero => exact Part.isSound_of_rest rfl
  | succ fuel ih =>
    have here := sound first ts
    rw [collect]
    split
    · exact fun _ _ h => absurd h List.not_mem_nil
    · exact Part.isSound_of_rest rfl
    · rename_i a rest element
      rw [element] at here
      exact (ih false rest).map fun _ more =>
        List.forall_mem_cons.2 ⟨here (Option.some_ne_none rest), more⟩

theorem isSound_empty (ts : Option (List Token)) : Part.IsSound (·.isWhole) ⟨empty, ts⟩ :=
  fun _ => rfl

theorem entry_isSound {key : Part Node} {value : List Token → Part Node}
    (hk : key.IsSound (·.isWhole)) (hv : Reads value) : (key.entry value).IsSound EntryIsWhole := by
  rw [Part.entry]
  split
  · exact Part.isSound_of_rest rfl
  · rename_i ts rest
    exact (hv ts).map fun v whole => ⟨hk (by rw [rest]; exact Option.some_ne_none ts), whole⟩

section

variable {read : List Token → Part Node} (sound : Reads read) (stops : Token → Bool)

include sound

theorem Reads.orEmpty : Reads (orEmpty stops read) := by
  intro ts
  cases ts with
  | nil => exact Part.isSound_torn _
  | cons t ts =>
    rw [Node.orEmpty]
    split
    · exact isSound_empty _
    · exact sound (t :: ts)

theorem Reads.valueOf : Reads (valueOf stops read) := by
  intro ts
  fun_cases Node.valueOf stops read ts with
  | case1 => exact Part.isSound_torn _
  | case2 ts => exact sound.orEmpty stops ts
  | case3 => exact isSound_empty _

theorem blockItem_isSound (first : Bool) (ts : List Token) :
    (blockItem read first ts).IsSound (·.isWhole) := by
  fun_cases blockItem read first ts with
  | case1 ts => exact sound.orEmpty _ ts
  | case2 => trivial
  | case3 => exact fun rest => absurd rfl rest

theorem indentlessItem_isSound (first : Bool) (ts : List Token) :
    (indentlessItem read first ts).IsSound (·.isWhole) := by
  fun_cases indentlessItem read first ts with
  | case1 ts => exact sound.orEmpty _ ts
  | case2 => exact fun rest => absurd rfl rest
  | case3 => trivial

theorem blockEntry_isSound (first : Bool) (ts : List Token) :
    (blockEntry read first ts).IsSound EntryIsWhole := by
  fun_cases blockEntry read first ts with
  | case1 ts => exact entry_isSound (sound.orEmpty _ ts) (sound.valueOf _)
  | case2 => trivial
  | case3 => exact Part.isSound_of_rest rfl

theorem pairKey_isSound : Reads (pairKey read) := by
  intro ts
  fun_cases pairKey read ts with
  | case1 => exact Part.isSound_torn _
  | case2 => exact isSound_empty _
  | case3 t ts => exact sound (t :: ts)

theorem pair_isSound : Reads (pair read) := by
  intro ts
  have entry := entry_isSound (pairKey_isSound sound ts) (sound.valueOf endsFlowItem)
  fun_cases pair read ts with
  | case1 e t ts read =>
    rw [read] at entry
    have whole := entry (Option.some_ne_none _)
    exact fun _ => entriesAreWhole_iff.2 (List.forall_mem_singleton.2 whole)
  | case2 => exact Part.isSound_of_rest rfl
  | case3 => exact Part.isSound_of_rest rfl

theorem flowItem_isSound (first : Bool) (ts : List Token) :
    (flowItem read first ts).IsSound (·.isWhole) := by
  rw [flowItem.eq_def]
  split
  · trivial
  · split
    · exact pair_isSound sound _
    · trivial
    · exact sound _
    · exact fun rest => absurd rfl rest

theorem flowEntry_isSound (first : Bool) (ts : List Token) :
    (flowEntry read first ts).IsSound EntryIsWhole := by
  rw [flowEntry.eq_def]
  split
  · trivial
  · split
    · exact entry_isSound (sound.orEmpty _ _) (sound.valueOf _)
    · trivial
    · exact entry_isSound (sound _) (sound.orEmpty _)
    · exact Part.isSound_of_rest rfl

end

theorem sequence_isSound {next : Bool → List Token → Next Node}
    (sound : ∀ first ts, (next first ts).IsSound (·.isWhole)) (fuel : Nat) (first : Bool)
    (ts : List Token) (anchor : Option Nat) :
    ((collect next fuel first ts).map (sequence anchor)).IsSound (·.isWhole) :=
  (collect_isSound sound fuel first ts).map fun _ => areWhole_iff.2

theorem mapping_isSound {next : Bool → List Token → Next (Node × Node)}
    (sound : ∀ first ts, (next first ts).IsSound EntryIsWhole) (fuel : Nat) (first : Bool)
    (ts : List Token) (anchor : Option Nat) :
    ((collect next fuel first ts).map (mapping anchor)).IsSound (·.isWhole) :=
  (collect_isSound sound fuel first ts).map fun _ => entriesAreWhole_iff.2

theorem ofProperties_isSound (p : Properties) (ts : List Token) :
    (ofProperties p ts).IsSound (·.isWhole) := by
  rw [ofProperties]
  split
  · exact fun _ => rfl
  · exact Part.isSound_torn _

/-- **What `read` reads is whole**, unless it broke off. -/
theorem read_isSound (handles : List (String × String)) (fuel : Nat) (block indentless : Bool) :
    Reads (read handles fuel block indentless) := by
  induction fuel generalizing block indentless with
  | zero => exact fun ts => Part.isSound_torn _
  | succ fuel ih =>
    intro ts
    rw [read.eq_def]
    dsimp only
    split
    · exact fun _ => rfl
    · exact Part.isSound_torn _
    · split
      · exact Part.isSound_torn _
      · split
        · exact Part.isSound_torn _
        · exact fun _ => rfl
        · exact sequence_isSound (flowItem_isSound (ih false false)) _ true _ _
        · exact mapping_isSound (flowEntry_isSound (ih false false)) _ true _ _
        · split
          · exact sequence_isSound (indentlessItem_isSound (ih true false)) _ true _ _
          · exact ofProperties_isSound _ _
        · split
          · exact sequence_isSound (blockItem_isSound (ih true false)) _ true _ _
          · exact ofProperties_isSound _ _
        · split
          · exact mapping_isSound (blockEntry_isSound (ih true true)) _ true _ _
          · exact ofProperties_isSound _ _
        · exact ofProperties_isSound _ _

/-! ## Numbered nodes -/

theorem isWhole_of_mem_numbered {anchor : Option Nat} {n : Node} (whole : n.isWhole) :
    ∀ entry ∈ numbered anchor n, entry.2.isWhole := by
  intro entry h
  obtain ⟨number, -, rfl⟩ := List.mem_map.1 h
  exact whole

mutual

/-- Whatever has a number in a whole node is whole. -/
theorem isWhole_of_mem_anchored {n : Node} (whole : n.isWhole) :
    ∀ entry ∈ n.anchored, entry.2.isWhole := by
  cases n with
  | scalar => exact isWhole_of_mem_numbered whole
  | sequence _ items =>
    exact List.forall_mem_append.2
      ⟨isWhole_of_mem_numbered whole, isWhole_of_mem_allAnchored (areWhole_iff.1 whole)⟩
  | mapping _ entries =>
    exact List.forall_mem_append.2
      ⟨isWhole_of_mem_numbered whole, isWhole_of_mem_entriesAnchored (entriesAreWhole_iff.1 whole)⟩
  | reference => exact fun _ h => absurd h List.not_mem_nil
  | torn => cases whole

theorem isWhole_of_mem_allAnchored {ns : List Node} (whole : ∀ n ∈ ns, n.isWhole) :
    ∀ entry ∈ allAnchored ns, entry.2.isWhole := by
  cases ns with
  | nil => exact fun _ h => absurd h List.not_mem_nil
  | cons n ns =>
    obtain ⟨here, there⟩ := List.forall_mem_cons.1 whole
    exact List.forall_mem_append.2
      ⟨isWhole_of_mem_anchored here, isWhole_of_mem_allAnchored there⟩

theorem isWhole_of_mem_entriesAnchored {es : List (Node × Node)}
    (whole : ∀ e ∈ es, EntryIsWhole e) :
    ∀ entry ∈ entriesAnchored es, entry.2.isWhole := by
  cases es with
  | nil => exact fun _ h => absurd h List.not_mem_nil
  | cons e es =>
    obtain ⟨⟨key, value⟩, there⟩ := List.forall_mem_cons.1 whole
    exact List.forall_mem_append.2
      ⟨List.forall_mem_append.2 ⟨isWhole_of_mem_anchored key, isWhole_of_mem_anchored value⟩,
        isWhole_of_mem_entriesAnchored there⟩

end

end Node

namespace Document

theorem first_isSound : Node.Reads first := by
  intro ts
  fun_cases first ts with
  | case1 => exact Part.isSound_torn _
  | case2 => exact Node.isSound_empty _
  | case3 t ts _ _ p ts read =>
    exact (Node.read_isSound _ _ true false).orEmpty _ ts
  | case4 => exact Part.isSound_torn _
  | case5 t ts => exact Node.read_isSound _ _ true false _

/-- **A document that is well-formed to its end is whole.** -/
theorem root_isWhole {text : String} (h : (ofText text).isWhole) : (ofText text).root.isWhole := by
  refine first_isSound (Token.scan text.toList) fun none => ?_
  rw [ofText, ofTokens, none] at h
  cases h

section

variable {d : Document} (whole : d.root.isWhole) {n : Node} (h : n.isWhole)

include whole h

/-- **What a node stands for is whole**, if there is such a node. -/
theorem follow_isWhole : (d.follow n).isWhole ∨ d.follow n = .torn := by
  cases n with
  | reference number =>
    rw [follow, target?]
    cases found : d.root.anchored.reverse.lookup number with
    | none => exact .inr rfl
    | some target =>
      obtain ⟨before, behind, split, -⟩ := List.lookup_eq_some_iff.1 found
      have listed : (number, target) ∈ d.root.anchored.reverse := by rw [split]; simp
      exact .inl (Node.isWhole_of_mem_anchored whole _ (List.mem_reverse.1 listed))
  | _ => exact .inl h

theorem items_areWhole {place : Place} {items : List Node}
    (read : (d.items place n).result = .ok items) : ∀ item ∈ items, item.isWhole := by
  have followed := follow_isWhole whole h
  cases target : d.follow n with
  | sequence =>
    rw [Document.items, target] at read
    cases read
    rw [target] at followed
    exact Node.areWhole_iff.1 (followed.resolve_right nofun)
  | scalar =>
    rw [Document.items, target] at read
    dsimp only at read
    split at read <;> cases read
    exact fun _ h => absurd h List.not_mem_nil
  | _ => rw [Document.items, target] at read; cases read

theorem entries_areWhole {wanted : Wanted} {place : Place} {entries : List (Node × Node)}
    (read : (d.entries wanted place n).result = .ok entries) :
    ∀ e ∈ entries, Node.EntryIsWhole e := by
  have followed := follow_isWhole whole h
  cases target : d.follow n with
  | mapping =>
    rw [Document.entries, target] at read
    cases read
    rw [target] at followed
    exact Node.entriesAreWhole_iff.1 (followed.resolve_right nofun)
  | scalar =>
    rw [Document.entries, target] at read
    dsimp only at read
    split at read <;> cases read
    exact fun _ h => absurd h List.not_mem_nil
  | _ => rw [Document.entries, target] at read; cases read

end

end Document

end Rowscript.Yaml
