import Rowscript.Proofs.Rearrangement

/-!
# Proofs/Repetition — one row again and again

    { "name": &k "k", "commands": [&r { "command": "c",*k,…,*k,},*r,…,*r,] }

A script may refer to its first row again and again, and the row may have entries under a name that is
no field of it.  In front of each such entry that name is looked up, and it is looked up anew for
each row that stands for the first one.  So the text grows by one reference at a time, and the
reading of it by the product of rows and entries (`Repeated.reading_document`): where there are many
of both the document is over the limit (`Script.load_repeated`), while the same rows without the
entries are loaded.
-/

namespace Rowscript

open Yaml Reader

/-! ## The text -/

namespace Repeated

/-- References to a node by its name, a comma behind each. -/
def references (name : String) (n : Nat) : List Char :=
  (List.replicate n ('*' :: name.toList ++ [','])).flatten

/-- The characters in front of the entries of the row. -/
def front : List Char := "\x7b\"name\": &k \"k\", \"commands\": [&r \x7b\"command\": \"c\",".toList

/-- **The characters of the script**: so many further rows, and so many further entries of the row. -/
def chars (rows entries : Nat) : List Char :=
  front ++ (references "k" entries ++ (['}', ','] ++ (references "r" rows ++ [']', '}'])))

/-! ## Its tokens -/

/-- References as tokens. -/
def referenceTokens (number n : Nat) : List Token :=
  (List.replicate n [.reference (some number), .flowEntry]).flatten

def frontTokens : List Token :=
  [.flowMappingStart, .key, .scalar "name" false, .value, .anchor 0, .scalar "k" false, .flowEntry,
    .key, .scalar "commands" false, .value, .flowSequenceStart, .anchor 1, .flowMappingStart,
    .key, .scalar "command" false, .value, .scalar "c" false, .flowEntry]

def tokens (rows entries : Nat) : List Token :=
  frontTokens ++ (referenceTokens 0 entries ++ ([.flowMappingEnd, .flowEntry] ++
    (referenceTokens 1 rows ++ [.flowSequenceEnd, .flowMappingEnd])))

/-- The names that are given, the last one first. -/
def names : List (String × Nat) := [("r", 1), ("k", 0)]

theorem isName_k : IsName "k" := ⟨by decide, List.all_eq_true.1 (by decide)⟩

theorem isName_r : IsName "r" := ⟨by decide, List.all_eq_true.1 (by decide)⟩

theorem scans_front : Scans ⟨0, true, []⟩ front ⟨3, true, names⟩ frontTokens := by
  have key (name : String) (depth : Nat) (known : List (String × Nat))
      (short : (Quoted.written true name).length ≤ KeyPlace.reach) :
      Scans ⟨depth + 1, true, known⟩ (Quoted.written true name ++ [':'] ++ [' '])
        ⟨depth + 1, false, known⟩ [.key, .scalar name false, .value] :=
    (Scans.key true name short).append (.blank _)
  have text (s : String) (depth : Nat) (known : List (String × Nat)) :
      Scans ⟨depth, false, known⟩ (Quoted.written true s ++ [',']) ⟨depth, true, known⟩
        [.scalar s false, .flowEntry] :=
    (Scans.text true s).append .comma
  have named : Scans ⟨0, true, []⟩ _ ⟨1, false, [("k", 0)]⟩ _ :=
    Scans.openMap.append ((key "name" 0 [] (by decide)).append (Scans.anchor isName_k))
  have listed : Scans ⟨1, false, [("k", 0)]⟩ _ ⟨2, true, [("k", 0)]⟩ _ :=
    ((text "k" 1 [("k", 0)]).append (.blank _)).append
      ((key "commands" 0 [("k", 0)] (by decide)).append .openList)
  have row : Scans ⟨2, true, [("k", 0)]⟩ _ ⟨3, true, names⟩ _ :=
    (Scans.anchor isName_r).append
      (Scans.openMap.append ((key "command" 2 names (by decide)).append (text "c" 3 names)))
  exact (named.append listed).append row

/-- Where one reference may stand any number of them may. -/
theorem scans_references {name : String} {number : Nat} (isName : IsName name)
    (known : names.lookup name = some number) (depth n : Nat) :
    Scans ⟨depth, true, names⟩ (references name n) ⟨depth, true, names⟩
      (referenceTokens number n) := by
  induction n with
  | zero => exact .nil _
  | succ n ih => exact (known ▸ Scans.reference isName).append ih

theorem isPrintable_of_mem_references {name : String}
    (printable : ('*' :: name.toList ++ [',']).all isPrintable = true) (n : Nat) :
    ∀ c ∈ references name n, isPrintable c = true := by
  intro c hc
  obtain ⟨piece, hp, hc⟩ := List.mem_flatten.1 hc
  rw [List.eq_of_mem_replicate hp] at hc
  exact List.all_eq_true.1 printable c hc

/-- **The text has its tokens.** -/
theorem scan_chars (rows entries : Nat) :
    Token.scan (chars rows entries) = tokens rows entries ++ [.streamEnd] := by
  have inside : Scans ⟨3, true, names⟩ _ ⟨3, true, names⟩ _ :=
    scans_references isName_k rfl 3 entries
  have further : Scans ⟨2, true, names⟩ _ ⟨2, true, names⟩ _ :=
    scans_references isName_r rfl 2 rows
  have closed : Scans ⟨3, true, names⟩ ['}', ','] ⟨2, true, names⟩ [.flowMappingEnd, .flowEntry] :=
    Scans.closeMap.append .comma
  have ended : Scans ⟨2, true, names⟩ [']', '}'] ⟨0, false, names⟩
      [.flowSequenceEnd, .flowMappingEnd] := Scans.closeList.append .closeMap
  refine Token.scan_of_scans
    (scans_front.append (inside.append (closed.append (further.append ended)))) ?_
  simp only [chars, List.forall_mem_append]
  exact ⟨List.all_eq_true.1 (by decide), isPrintable_of_mem_references (by decide) entries,
    List.all_eq_true.1 (by decide), isPrintable_of_mem_references (by decide) rows,
    List.all_eq_true.1 (by decide)⟩

/-! ## Its document -/

/-- An entry under the name of the script, and nothing in it. -/
def entry : Node × Node := (.reference 0, .empty)

/-- The row with so many of these entries. -/
def rowNode (entries : Nat) : Node :=
  .mapping (some 1) ((Flow.scalar "command", Flow.scalar "c") :: List.replicate entries entry)

/-- The row, and so many references to it. -/
def rowsNode (rows entries : Nat) : Node :=
  .sequence none (rowNode entries :: List.replicate rows (.reference 1))

/-- The name of the script, which entries refer to. -/
def nameNode : Node := .scalar (some 0) ⟨"k", false, none⟩

/-- **The document of the script.** -/
def document (rows entries : Nat) : Document where
  root := .mapping none
    [(Flow.scalar "name", nameNode), (Flow.scalar "commands", rowsNode rows entries)]
  isWhole := true

section Reading

variable (handles : List (String × String))

/-- Behind the comma of an element there are further ones, each a reference, up to the end. -/
theorem collect_references {α : Type} {next : Bool → List Token → Node.Next α} {a : α}
    {number : Nat} {close : Token}
    (element : ∀ ts, next false (.flowEntry :: .reference (some number) :: .flowEntry :: ts) =
      .element ⟨a, some (.flowEntry :: ts)⟩)
    (ends : ∀ ts, next false (.flowEntry :: close :: ts) = .done ts)
    {n steps : Nat} (enough : n < steps) (rest : List Token) :
    Node.collect next steps false (.flowEntry :: (referenceTokens number n ++ close :: rest)) =
      ⟨List.replicate n a, some rest⟩ := by
  induction n generalizing steps with
  | zero =>
    obtain ⟨steps, rfl⟩ := Nat.exists_eq_add_of_lt enough
    have shown : referenceTokens number 0 ++ close :: rest = close :: rest := rfl
    rw [Nat.zero_add, shown, Node.collect, ends]
    rfl
  | succ n ih =>
    obtain ⟨steps, rfl⟩ := Nat.exists_eq_add_of_lt enough
    have there := @ih (n + 1 + steps) (by omega)
    have shown : referenceTokens number (n + 1) ++ close :: rest = .reference (some number) ::
        .flowEntry :: (referenceTokens number n ++ close :: rest) := rfl
    rw [shown, Node.collect, element]
    exact congrArg (Yaml.Part.map (a :: ·)) there

theorem le_length_referenceTokens (number n : Nat) :
    n ≤ (referenceTokens number n).length := by
  simp only [referenceTokens, List.length_flatten, List.map_replicate, List.sum_replicate_nat,
    List.length_cons, List.length_nil]
  omega

/-- The tokens of the row. -/
def rowTokens (entries : Nat) (rest : List Token) : List Token :=
  .key :: .scalar "command" false :: .value :: .scalar "c" false :: .flowEntry ::
    (referenceTokens 0 entries ++ .flowMappingEnd :: rest)

/-- The row is read up to the comma behind it. -/
theorem read_row (entries fuel : Nat) (rest : List Token) :
    Node.read handles (fuel + 2) false false
        (.anchor 1 :: .flowMappingStart :: rowTokens entries rest) =
      ⟨rowNode entries, some rest⟩ := by
  have enough : entries < (Token.flowMappingStart :: rowTokens entries rest).length := by
    have few := le_length_referenceTokens 0 entries
    simp only [rowTokens, List.length_cons, List.length_append]
    omega
  have there : Node.collect (Node.flowEntry (Node.read handles (fuel + 1) false false)) _ false
      (.flowEntry :: (referenceTokens 0 entries ++ .flowMappingEnd :: rest)) =
        ⟨List.replicate entries entry, some rest⟩ :=
    collect_references (fun _ => rfl) (fun _ => rfl) enough rest
  exact congrArg (fun p => (p.map ((Flow.scalar "command", Flow.scalar "c") :: ·)).map
    (Node.mapping (some 1))) there

/-- The tokens of all rows. -/
def rowsTokens (rows entries : Nat) (rest : List Token) : List Token :=
  .anchor 1 :: .flowMappingStart :: rowTokens entries
    (.flowEntry :: (referenceTokens 1 rows ++ .flowSequenceEnd :: rest))

theorem read_rows (rows entries fuel : Nat) (rest : List Token) :
    Node.read handles (fuel + 3) false false
        (.flowSequenceStart :: rowsTokens rows entries rest) =
      ⟨rowsNode rows entries, some rest⟩ := by
  have enough : rows < (Token.flowSequenceStart :: rowsTokens rows entries rest).length := by
    have few := le_length_referenceTokens 1 rows
    simp only [rowsTokens, rowTokens, List.length_cons, List.length_append]
    omega
  have first := read_row handles entries fuel
    (.flowEntry :: (referenceTokens 1 rows ++ .flowSequenceEnd :: rest))
  have further : Node.collect (Node.flowItem (Node.read handles (fuel + 2) false false)) _ false
      (.flowEntry :: (referenceTokens 1 rows ++ .flowSequenceEnd :: rest)) =
        ⟨List.replicate rows (.reference 1), some rest⟩ :=
    collect_references (fun _ => rfl) (fun _ => rfl) enough rest
  have item : Node.flowItem (Node.read handles (fuel + 2) false false) true
      (rowsTokens rows entries rest) = .element ⟨rowNode entries, _⟩ :=
    congrArg Node.Next.element first
  have all : Node.collect (Node.flowItem (Node.read handles (fuel + 2) false false))
      ((Token.flowSequenceStart :: rowsTokens rows entries rest).length + 1) true
      (rowsTokens rows entries rest) =
      ⟨rowNode entries :: List.replicate rows (.reference 1), some rest⟩ := by
    rw [Node.collect, item]
    exact congrArg (Yaml.Part.map (rowNode entries :: ·)) further
  exact congrArg (Yaml.Part.map (Node.sequence none)) all

/-- The tokens of the field that has the rows. -/
def commandsTokens (rows entries : Nat) (rest : List Token) : List Token :=
  .flowEntry :: .key :: .scalar "commands" false :: .value :: .flowSequenceStart ::
    rowsTokens rows entries rest

theorem collect_commands (rows entries fuel steps : Nat) (rest : List Token) :
    Node.collect (Node.flowEntry (Node.read handles (fuel + 3) false false)) (steps + 2) false
        (commandsTokens rows entries (.flowMappingEnd :: rest)) =
      ⟨[(Flow.scalar "commands", rowsNode rows entries)], some rest⟩ := by
  have read := read_rows handles rows entries fuel (.flowMappingEnd :: rest)
  have field : Node.flowEntry (Node.read handles (fuel + 3) false false) false
      (commandsTokens rows entries (.flowMappingEnd :: rest)) =
      .element ⟨(Flow.scalar "commands", rowsNode rows entries), some (.flowMappingEnd :: rest)⟩ :=
    congrArg (fun p : Yaml.Part Node => Node.Next.element (p.map (Flow.scalar "commands", ·))) read
  rw [Node.collect, field]
  rfl

/-- **The tokens are those of the document**, and of no other. -/
theorem ofTokens_tokens (rows entries : Nat) :
    Document.ofTokens (tokens rows entries ++ [.streamEnd]) = document rows entries := by
  let further := commandsTokens rows entries [.flowMappingEnd, .streamEnd]
  have shown : tokens rows entries ++ [.streamEnd] =
      .flowMappingStart :: .key :: .scalar "name" false :: .value :: .anchor 0 ::
        .scalar "k" false :: further := by
    simp [tokens, frontTokens, further, commandsTokens, rowsTokens, rowTokens]
  have commands := collect_commands Preamble.standardHandles rows entries
    ((rowsTokens rows entries [.flowMappingEnd, .streamEnd]).length + 8)
    ((rowsTokens rows entries [.flowMappingEnd, .streamEnd]).length + 9) [.streamEnd]
  have first : Document.first (tokens rows entries ++ [.streamEnd]) =
      ⟨(document rows entries).root, some [.streamEnd]⟩ := by
    rw [shown]
    exact congrArg (fun p => (p.map ((Flow.scalar "name", nameNode) :: ·)).map
      (Node.mapping none)) commands
  rw [Document.ofTokens, first]
  rfl

end Reading

/-! ## Reading it -/

section Script

variable (rows entries : Nat)

theorem entriesAnchored_replicate (n : Nat) :
    Node.entriesAnchored (List.replicate n entry) = [] := by
  induction n with
  | zero => rfl
  | succ n ih => exact ih

theorem allAnchored_replicate (number n : Nat) :
    Node.allAnchored (List.replicate n (.reference number)) = [] := by
  induction n with
  | zero => rfl
  | succ n ih => exact ih

theorem anchored_root :
    (document rows entries).root.anchored = [(0, nameNode), (1, rowNode entries)] := by
  change [(0, nameNode)] ++ (((1, rowNode entries) ::
    Node.entriesAnchored (List.replicate entries entry) ++
      Node.allAnchored (List.replicate rows (.reference 1))) ++ []) = _
  rw [entriesAnchored_replicate, allAnchored_replicate]
  rfl

theorem follow_name : (document rows entries).follow (.reference 0) = nameNode := by
  rw [Document.follow, Document.target?, anchored_root]
  rfl

theorem follow_row : (document rows entries).follow (.reference 1) = rowNode entries := by
  rw [Document.follow, Document.target?, anchored_root]
  rfl

/-- For each entry its name is looked up, and that is all. -/
theorem readFields_entries (place : Place) (n : Nat) (draft : RowDraft) :
    readFields (document rows entries) place (RowDraft.set (document rows entries) place)
      (List.replicate n entry) draft = ⟨n, .ok draft⟩ := by
  induction n with
  | zero => rfl
  | succ n ih =>
    have name : (document rows entries).text .fieldName place (.reference 0) = ⟨1, .ok "k"⟩ := by
      rw [Document.text, follow_name]
      rfl
    rw [List.replicate_succ, entry, readFields]
    exact Reading.bind_eq name ih

/-- The row that is repeated. -/
def row : Row := ⟨"c", "", ""⟩

/-- **A row is read by looking up the name of each entry**, and the row itself if another one stands
for it. -/
theorem ofNode_row (place : Place) {n : Node}
    (stands : (document rows entries).follow n = rowNode entries) :
    Row.ofNode (document rows entries) place n = ⟨entries + n.jumps, .ok row⟩ := by
  let fields := (Flow.scalar "command", Flow.scalar "c") :: List.replicate entries entry
  have read : (document rows entries).entries (.record "ScriptCommand") place n =
      ⟨n.jumps, .ok fields⟩ := by
    rw [Document.entries, stands]
    rfl
  have drafted : readFields (document rows entries) place
      (RowDraft.set (document rows entries) place) fields {} =
        ⟨entries, .ok { command := some "c" }⟩ :=
    readFields_entries rows entries place entries { command := some "c" }
  have finished : (readFields (document rows entries) place
      (RowDraft.set (document rows entries) place) fields {}).bind (·.finish place) =
        ⟨0 + entries, .ok row⟩ := Reading.bind_eq drafted rfl
  rw [Nat.zero_add] at finished
  exact Reading.bind_eq read finished

theorem ofNodes_replicate (place : Place) (n index : Nat) :
    Row.ofNodes (document rows entries) place index (List.replicate n (.reference 1)) =
      ⟨n * (entries + 1), .ok (List.replicate n row)⟩ := by
  induction n generalizing index with
  | zero => exact congrArg (Reading.mk · (.ok [])) (Nat.zero_mul _).symm
  | succ n ih =>
    have one := ofNode_row rows entries (.item place index) (follow_row rows entries)
    have others := congrArg (Reading.map (row :: ·)) (ih (index + 1))
    rw [List.replicate_succ, Row.ofNodes, Nat.succ_mul]
    exact Reading.bind_eq one others

/-- The script that is repeated. -/
def script : Script := { name := "k", rows := List.replicate (rows + 1) row }

/-- Its fields. -/
def draft : ScriptDraft := { name := some "k", rows := some (List.replicate (rows + 1) row) }

/-- **The reading goes to other nodes as often as the product says.** -/
theorem reading_document :
    Script.reading (document rows entries) =
      ⟨rows * (entries + 1) + entries, .ok (script rows)⟩ := by
  let d := document rows entries
  let place : Place := .member .root "commands"
  have first : Row.ofNode d (.item place 0) (rowNode entries) = ⟨entries, .ok row⟩ :=
    ofNode_row rows entries (.item place 0) rfl
  have others := congrArg (Reading.map (row :: ·)) (ofNodes_replicate rows entries place rows 1)
  have all : Row.ofNodes d place 0 (rowNode entries :: List.replicate rows (.reference 1)) =
      ⟨rows * (entries + 1) + entries, .ok (List.replicate (rows + 1) row)⟩ :=
    Reading.bind_eq first others
  have field : ScriptDraft.set d "commands" place (rowsNode rows entries) { name := some "k" } =
      ⟨rows * (entries + 1) + entries, .ok (draft rows)⟩ :=
    congrArg (fun r : Reading (List Row) =>
      (r.map some).map fun read => ({ name := some "k", rows := read } : ScriptDraft)) all
  have fields : readFields d .root (ScriptDraft.set d) [(Flow.scalar "name", nameNode),
      (Flow.scalar "commands", rowsNode rows entries)] {} =
        ⟨0 + (rows * (entries + 1) + entries), .ok (draft rows)⟩ := by
    change (ScriptDraft.set d "commands" place (rowsNode rows entries) { name := some "k" }).bind
      (readFields d .root (ScriptDraft.set d) []) = _
    exact Reading.bind_eq field rfl
  rw [Nat.zero_add] at fields
  change (readFields d .root (ScriptDraft.set d) [(Flow.scalar "name", nameNode),
      (Flow.scalar "commands", rowsNode rows entries)] {}).bind _ = _
  rw [fields]
  exact congrArg (Reading.mk · (.ok (script rows))) (Nat.zero_add _)

theorem entriesEvents_replicate (n : Nat) :
    Node.entriesEvents (List.replicate n entry) = 2 * n := by
  induction n with
  | zero => rfl
  | succ n ih =>
    change 1 + 1 + Node.entriesEvents (List.replicate n entry) = 2 * (n + 1)
    rw [ih]
    omega

theorem allEvents_replicate (number n : Nat) :
    Node.allEvents (List.replicate n (.reference number)) = n := by
  induction n with
  | zero => rfl
  | succ n ih =>
    rw [List.replicate_succ, Node.allEvents, ih]
    exact Nat.add_comm 1 n

theorem isWhole_rowNode : (rowNode entries).isWhole := by
  refine Node.entriesAreWhole_iff.2 (List.forall_mem_cons.2 ⟨⟨rfl, rfl⟩, fun e he => ?_⟩)
  rw [List.eq_of_mem_replicate he]
  exact ⟨rfl, rfl⟩

theorem isWhole_rowsNode : (rowsNode rows entries).isWhole := by
  refine Node.areWhole_iff.2 (List.forall_mem_cons.2 ⟨isWhole_rowNode entries, fun n hn => ?_⟩)
  rw [List.eq_of_mem_replicate hn]
  rfl

theorem isWhole_root : (document rows entries).root.isWhole :=
  Node.entriesAreWhole_iff.2 (List.forall_mem_cons.2 ⟨⟨rfl, rfl⟩,
    List.forall_mem_singleton.2 ⟨rfl, isWhole_rowsNode rows entries⟩⟩)

theorem events_rowNode : (rowNode entries).events = 4 + 2 * entries := by
  have whole := isWhole_rowNode entries
  rw [rowNode, Node.isWhole] at whole
  rw [rowNode, Node.events, if_pos whole, Node.entriesEvents, entriesEvents_replicate]
  change 1 + (1 + 1 + 2 * entries) + 1 = _
  omega

/-- **The document has as many events as the sum says.** -/
theorem events_document : (document rows entries).root.events = 11 + 2 * entries + rows := by
  have whole := isWhole_rowsNode rows entries
  have wholeRoot := isWhole_root rows entries
  rw [rowsNode, Node.isWhole] at whole
  rw [document, Node.isWhole] at wholeRoot
  have inside : (rowsNode rows entries).events = 6 + 2 * entries + rows := by
    rw [rowsNode, Node.events, if_pos whole, Node.allEvents, events_rowNode, allEvents_replicate]
    omega
  rw [document, Node.events, if_pos wholeRoot]
  change 1 + (1 + 1 + (1 + (rowsNode rows entries).events + 0)) + 1 = _
  omega

/-! ## Its tree -/

/-- A text in the tree. -/
def word (text : String) : Tree := .scalar ⟨text, false, none⟩

/-- The row in the tree. -/
def rowTree : Tree :=
  .mapping ((word "command", word "c") :: List.replicate entries (word "k", .scalar .empty))

theorem tree_row {n : Node} (stands : (document rows entries).follow n = rowNode entries) :
    (document rows entries).tree 2 n = rowTree entries := by
  have name : (document rows entries).tree 1 (.reference 0) = word "k" := by
    rw [Document.tree, follow_name]
    rfl
  rw [Document.tree, stands]
  change Tree.mapping ((word "command", word "c") :: List.map _ (List.replicate entries entry)) = _
  rw [List.map_replicate, entry, name]
  rfl

/-- **The tree has the row as often as it is named.** -/
theorem tree_document :
    (document rows entries).tree 4 (document rows entries).root =
      .mapping [(word "name", word "k"),
        (word "commands", .sequence (List.replicate (rows + 1) (rowTree entries)))] := by
  have one := tree_row rows entries (n := rowNode entries) rfl
  have other := tree_row rows entries (follow_row rows entries)
  change Tree.mapping [(word "name", word "k"), (word "commands", .sequence
    ((document rows entries).tree 2 (rowNode entries) ::
      (List.replicate rows (.reference 1)).map ((document rows entries).tree 2)))] = _
  rw [List.map_replicate, one, other]
  rfl

/-- **More entries of the row rearrange the tree.** -/
theorem rearranges_document :
    (document rows 0).Rearranges (document rows entries) := by
  have row : Row.Rearranged (rowTree 0) (rowTree entries) := by
    have keeps : List.Forall₂ (Tree.Keeps fun _ _ _ => False) [(word "command", word "c")]
        [(word "command", word "c")] := .cons ⟨rfl, .inl rfl⟩ .nil
    have strange : ∀ e ∈ List.replicate entries (word "k", Tree.scalar .empty),
        ∃ name ∉ Row.fieldNames, e.1.text? = some name := fun e he =>
      ⟨"k", by decide, by rw [List.eq_of_mem_replicate he]; rfl⟩
    exact .entries (.intro keeps strange (.refl _))
  have all : List.Forall₂ Row.Rearranged (List.replicate (rows + 1) (rowTree 0))
      (List.replicate (rows + 1) (rowTree entries)) := by
    induction rows + 1 with
    | zero => exact .nil
    | succ n ih => exact .cons row ih
  have keeps : List.Forall₂ (Tree.Keeps Script.FieldRearranged)
      [(word "name", word "k"),
        (word "commands", .sequence (List.replicate (rows + 1) (rowTree 0)))]
      [(word "name", word "k"),
        (word "commands", .sequence (List.replicate (rows + 1) (rowTree entries)))] :=
    .cons ⟨rfl, .inl rfl⟩ (.cons ⟨rfl, .inr ⟨_, rfl, .rows rfl all⟩⟩ .nil)
  refine ⟨4, Nat.le_refl 4, ?_⟩
  rw [tree_document, tree_document]
  exact .entries (.intro keeps (fun _ h => absurd h List.not_mem_nil) (.refl _))

end Script

/-- **The script as a text.** -/
def text (rows entries : Nat) : String := String.ofList (chars rows entries)

/-- One further row, and two further entries of each. -/
example : text 1 2 =
    "\x7b\"name\": &k \"k\", \"commands\": [&r \x7b\"command\": \"c\",*k,*k,\x7d,*r,]\x7d" := by
  decide

theorem ofText_text (rows entries : Nat) :
    Document.ofText (text rows entries) = document rows entries := by
  rw [Document.ofText, text, String.toList_ofList, scan_chars, ofTokens_tokens]

end Repeated

/-! ## Loading it -/

/-- **A row that is repeated is loaded within the limit, and not over it**: with rows and further
entries the reading grows as their product, and the limit as their sum. -/
theorem Script.load_repeated (rows entries : Nat) {files : Files} {path : String}
    (file : files path = .ok (Repeated.text rows entries)) :
    load files path =
      if 100 * (11 + 2 * entries + rows) < rows * (entries + 1) + entries then
        .error (.refused path .repetitive)
      else .ok (Repeated.script rows) := by
  have document := Repeated.ofText_text rows entries
  have overruns : Overruns (Document.ofText (Repeated.text rows entries)) ↔
      100 * (11 + 2 * entries + rows) < rows * (entries + 1) + entries := by
    rw [Overruns, document, Repeated.events_document, Repeated.reading_document]
  split
  case isTrue beyond => exact load_of_overruns file (overruns.2 beyond)
  case isFalse within =>
    have read : ofText (Repeated.text rows entries) = .ok (Repeated.script rows) := by
      rw [ofText, ofDocument, if_neg (mt overruns.1 within), document, Repeated.reading_document]
    simp only [load, file, read]
    rfl

/-- Four hundred further rows are loaded.  With four hundred further entries of the row, under a name
that is no field, they are not: the tree is rearranged, and the document is over the limit. -/
theorem Script.load_repeated_overruns :
    let text := Repeated.text 400 0
    let text' := Repeated.text 400 400
    let loaded := load (fun _ => .ok text) "n.yaml"
    let loaded' := load (fun _ => .ok text') "n.yaml"
    (Document.ofText text).isWhole ∧ (Document.ofText text').isWhole ∧
      (Document.ofText text).Rearranges (Document.ofText text') ∧
      loaded = .ok (Repeated.script 400) ∧ loaded' = .error (.refused "n.yaml" .repetitive) ∧
      ¬∀ s, loaded = .ok s → ∃ s', loaded' = .ok s' ∧ s.Resembles s' := by
  intro text text' loaded loaded'
  have document := Repeated.ofText_text 400 0
  have document' := Repeated.ofText_text 400 400
  let files : Files := fun _ => .ok text
  let files' : Files := fun _ => .ok text'
  have file : files "n.yaml" = .ok text := rfl
  have file' : files' "n.yaml" = .ok text' := rfl
  have within : load files "n.yaml" = .ok (Repeated.script 400) := by
    rw [load_repeated 400 0 file, if_neg (by omega)]
  have beyond : load files' "n.yaml" = .error (.refused "n.yaml" .repetitive) := by
    rw [load_repeated 400 400 file', if_pos (by omega)]
  refine ⟨document ▸ rfl, document' ▸ rfl, ?_, within, beyond, fun both => ?_⟩
  · rw [document, document']
    exact Repeated.rearranges_document 400 400
  · obtain ⟨s', loads, -⟩ := both _ within
    cases beyond.symm.trans loads

end Rowscript
