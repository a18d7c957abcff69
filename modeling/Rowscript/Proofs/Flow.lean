import Rowscript.Proofs.Scanning
import Rowscript.Yaml.Document

/-!
# Proofs/Flow — a tree in brackets and quotes is read back

                     Token.scan                  Node.read
    chars of a tree ────────────▸ its tokens ────────────▸ its node

A `Flow` is a tree of texts, lists and mappings, which is written on one line: collections in
brackets, texts in double quotes.  Whatever the texts say, the text of a tree has the tokens of the
tree (`scan_chars`) if its keys are short, and these are read as its node (`read_tokens`), so
**the document of the text is the tree** (`ofText_chars`).
-/

namespace Rowscript.Yaml

/-- A tree as it is written in brackets and quotes. -/
inductive Flow where
  | text (s : String)
  | list (items : List Flow)
  | map (entries : List (String × Flow))

namespace Flow

/-! ## Writing -/

/-- What stands in front of an element of a collection. -/
def separator (first : Bool) : List Char := if first then [] else [','] ++ [' ']

mutual

/-- **The characters of a tree.** -/
def chars (capital : Bool) : Flow → List Char
  | text s => Quoted.written capital s
  | list items => ['['] ++ (itemChars capital true items ++ [']'])
  | map entries => ['{'] ++ (entryChars capital true entries ++ ['}'])

def itemChars (capital first : Bool) : List Flow → List Char
  | [] => []
  | x :: xs => separator first ++ (x.chars capital ++ itemChars capital false xs)

def entryChars (capital first : Bool) : List (String × Flow) → List Char
  | [] => []
  | (k, x) :: es =>
    separator first ++ (Quoted.written capital k ++ [':'] ++ [' '] ++
      (x.chars capital ++ entryChars capital false es))

end

/-- **A tree as a text.** -/
def written (capital : Bool) (f : Flow) : String := String.ofList (f.chars capital)

mutual

/-- The keys of all mappings in a tree. -/
def keys : Flow → List String
  | text _ => []
  | list items => itemKeys items
  | map entries => entryKeys entries

def itemKeys : List Flow → List String
  | [] => []
  | x :: xs => x.keys ++ itemKeys xs

def entryKeys : List (String × Flow) → List String
  | [] => []
  | (k, x) :: es => k :: (x.keys ++ entryKeys es)

end

theorem entryKeys_append (es es' : List (String × Flow)) :
    entryKeys (es ++ es') = entryKeys es ++ entryKeys es' := by
  induction es with
  | nil => rfl
  | cons e es ih =>
    rw [List.cons_append, entryKeys, ih, entryKeys, List.cons_append, List.append_assoc]

/-! ## Tokens -/

/-- The token in front of an element of a collection. -/
def comma (first : Bool) : List Token := if first then [] else [.flowEntry]

mutual

/-- The tokens of a tree. -/
def tokens : Flow → List Token
  | text s => [.scalar s false]
  | list items => [.flowSequenceStart] ++ (itemTokens true items ++ [.flowSequenceEnd])
  | map entries => [.flowMappingStart] ++ (entryTokens true entries ++ [.flowMappingEnd])

def itemTokens (first : Bool) : List Flow → List Token
  | [] => []
  | x :: xs => comma first ++ (x.tokens ++ itemTokens false xs)

def entryTokens (first : Bool) : List (String × Flow) → List Token
  | [] => []
  | (k, x) :: es =>
    comma first ++ ([.key, .scalar k false, .value] ++ (x.tokens ++ entryTokens false es))

end

open Reader (Scans)

section Scanning

variable (capital : Bool) {names : List (String × Nat)}

/-- In front of every element but the first there is a comma; then a key may start. -/
theorem scans_separator (first : Bool) {depth : Nat} :
    Scans ⟨depth, first, names⟩ (separator first) ⟨depth, true, names⟩ (comma first) := by
  cases first with
  | true => exact .nil _
  | false => exact Scans.comma.append (.blank _)

mutual

/-- **A tree is read as its tokens**, wherever it stands and whatever stands behind it. -/
theorem scans_chars : (f : Flow) →
    (∀ key ∈ f.keys, (Quoted.written capital key).length ≤ KeyPlace.reach) →
    (depth : Nat) → (allowed : Bool) →
      Scans ⟨depth, allowed, names⟩ (f.chars capital) ⟨depth, false, names⟩ f.tokens
  | text s, _, _, _ => Scans.text capital s
  | list items, short, depth, _ =>
    Scans.openList.append ((scans_itemChars items true short depth).append Scans.closeList)
  | map entries, short, depth, _ =>
    Scans.openMap.append ((scans_entryChars entries true short depth).append Scans.closeMap)

theorem scans_itemChars : (items : List Flow) → (first : Bool) →
    (∀ key ∈ itemKeys items, (Quoted.written capital key).length ≤ KeyPlace.reach) →
    (depth : Nat) →
      Scans ⟨depth + 1, first, names⟩ (itemChars capital first items)
        ⟨depth + 1, first && items.isEmpty, names⟩ (itemTokens first items)
  | [], first, _, _ => by
    rw [List.isEmpty_nil, Bool.and_true]
    exact .nil _
  | x :: xs, first, short, depth => by
    obtain ⟨here, there⟩ := List.forall_mem_append.1 short
    rw [List.isEmpty_cons, Bool.and_false]
    exact (scans_separator first).append
      ((scans_chars x here _ _).append (scans_itemChars xs false there depth))

theorem scans_entryChars : (entries : List (String × Flow)) → (first : Bool) →
    (∀ key ∈ entryKeys entries, (Quoted.written capital key).length ≤ KeyPlace.reach) →
    (depth : Nat) →
      Scans ⟨depth + 1, first, names⟩ (entryChars capital first entries)
        ⟨depth + 1, first && entries.isEmpty, names⟩ (entryTokens first entries)
  | [], first, _, _ => by
    rw [List.isEmpty_nil, Bool.and_true]
    exact .nil _
  | (k, x) :: es, first, short, depth => by
    obtain ⟨key, short⟩ := List.forall_mem_cons.1 short
    obtain ⟨here, there⟩ := List.forall_mem_append.1 short
    rw [List.isEmpty_cons, Bool.and_false]
    exact (scans_separator first).append (((Scans.key capital k key).append (.blank _)).append
      ((scans_chars x here _ _).append (scans_entryChars es false there depth)))

end

theorem isPrintable_of_mem_separator (first : Bool) :
    ∀ c ∈ separator first, isPrintable c = true := by
  cases first with
  | true => exact fun _ h => absurd h List.not_mem_nil
  | false => exact List.forall_mem_cons.2 ⟨rfl, List.forall_mem_singleton.2 rfl⟩

mutual

theorem isPrintable_of_mem_chars : (f : Flow) → ∀ c ∈ f.chars capital, isPrintable c = true
  | text s => Quoted.isPrintable_of_mem_written capital s
  | list items => by
    have inside := isPrintable_of_mem_itemChars items true
    simp only [chars, List.forall_mem_append, List.forall_mem_singleton]
    exact ⟨rfl, inside, rfl⟩
  | map entries => by
    have inside := isPrintable_of_mem_entryChars entries true
    simp only [chars, List.forall_mem_append, List.forall_mem_singleton]
    exact ⟨rfl, inside, rfl⟩

theorem isPrintable_of_mem_itemChars : (items : List Flow) → (first : Bool) →
    ∀ c ∈ itemChars capital first items, isPrintable c = true
  | [], _ => fun _ h => absurd h List.not_mem_nil
  | x :: xs, first =>
    List.forall_mem_append.2 ⟨isPrintable_of_mem_separator first,
      List.forall_mem_append.2 ⟨isPrintable_of_mem_chars x, isPrintable_of_mem_itemChars xs false⟩⟩

theorem isPrintable_of_mem_entryChars : (entries : List (String × Flow)) → (first : Bool) →
    ∀ c ∈ entryChars capital first entries, isPrintable c = true
  | [], _ => fun _ h => absurd h List.not_mem_nil
  | (k, x) :: es, first => by
    have key := Quoted.isPrintable_of_mem_written capital k
    have value := isPrintable_of_mem_chars x
    have further := isPrintable_of_mem_entryChars es false
    simp only [entryChars, List.forall_mem_append, List.forall_mem_singleton]
    exact ⟨isPrintable_of_mem_separator first, ⟨⟨key, rfl⟩, rfl⟩, value, further⟩

end

/-- **The text of a tree has the tokens of the tree**, if its keys are short. -/
theorem scan_chars (f : Flow)
    (short : ∀ key ∈ f.keys, (Quoted.written capital key).length ≤ KeyPlace.reach) :
    Token.scan (f.chars capital) = f.tokens ++ [.streamEnd] :=
  Token.scan_of_scans (scans_chars capital f short 0 true) (isPrintable_of_mem_chars capital f)

end Scanning

/-! ## Nodes -/

/-- The node of a text. -/
def scalar (s : String) : Node := .scalar none ⟨s, false, none⟩

mutual

/-- **The node of a tree.** -/
def node : Flow → Node
  | text s => scalar s
  | list items => .sequence none (itemNodes items)
  | map entries => .mapping none (entryNodes entries)

def itemNodes : List Flow → List Node
  | [] => []
  | x :: xs => x.node :: itemNodes xs

def entryNodes : List (String × Flow) → List (Node × Node)
  | [] => []
  | (k, x) :: es => (scalar k, x.node) :: entryNodes es

end

theorem entryNodes_append (es es' : List (String × Flow)) :
    entryNodes (es ++ es') = entryNodes es ++ entryNodes es' := by
  induction es with
  | nil => rfl
  | cons e es ih => exact congrArg ((scalar e.1, e.2.node) :: ·) ih

section Reading

variable {handles : List (String × String)}

/-- An item is read behind its comma. -/
theorem flowItem_tokens (read : List Token → Part Node) (first : Bool) (f : Flow)
    (rest : List Token) :
    Node.flowItem read first (comma first ++ (f.tokens ++ rest)) =
      .element (read (f.tokens ++ rest)) := by
  cases first <;> cases f <;> rfl

/-- A reader of nodes reads the key of an entry, and what is behind the colon. -/
theorem flowEntry_tokens (fuel : Nat) (first : Bool) (k : String) (f : Flow) (rest : List Token) :
    Node.flowEntry (Node.read handles (fuel + 1) false false) first
        (comma first ++ ([.key, .scalar k false, .value] ++ (f.tokens ++ rest))) =
      .element
        ((Node.read handles (fuel + 1) false false (f.tokens ++ rest)).map (scalar k, ·)) := by
  cases first <;> cases f <;> rfl

theorem length_tokens_pos (f : Flow) : 0 < f.tokens.length := by
  cases f <;> simp [tokens]

mutual

/-- **The tokens of a tree are read as its node**, whatever stands behind them. -/
theorem read_tokens : (f : Flow) → (fuel : Nat) → f.tokens.length ≤ fuel →
    (block indentless : Bool) → (rest : List Token) →
      Node.read handles fuel block indentless (f.tokens ++ rest) = ⟨f.node, some rest⟩
  | text s, fuel, enough, _, _, rest => by
    obtain ⟨fuel, rfl⟩ := Nat.exists_eq_add_of_le' enough
    rfl
  | list items, fuel, enough, block, indentless, rest => by
    have fits : (itemTokens true items).length < ((list items).tokens ++ rest).length + 1 := by
      simp only [tokens, List.length_append]
      omega
    simp only [tokens, List.length_append, List.length_singleton] at enough
    obtain ⟨fuel, rfl⟩ := Nat.exists_eq_add_of_le' (Nat.le_of_add_right_le enough)
    have inside := collect_itemTokens items true fuel _ (by omega) fits rest
    have shown : (list items).tokens ++ rest =
        .flowSequenceStart :: (itemTokens true items ++ .flowSequenceEnd :: rest) := by
      simp [tokens]
    rw [shown] at inside ⊢
    exact congrArg (Part.map (Node.sequence none)) inside
  | map entries, fuel, enough, block, indentless, rest => by
    have fits : (entryTokens true entries).length < ((map entries).tokens ++ rest).length + 1 := by
      simp only [tokens, List.length_append]
      omega
    simp only [tokens, List.length_append, List.length_singleton] at enough
    obtain ⟨fuel, rfl⟩ := Nat.exists_eq_add_of_le' (Nat.le_of_add_right_le enough)
    have inside := collect_entryTokens entries true fuel _ (by omega) fits rest
    have shown : (map entries).tokens ++ rest =
        .flowMappingStart :: (entryTokens true entries ++ .flowMappingEnd :: rest) := by
      simp [tokens]
    rw [shown] at inside ⊢
    exact congrArg (Part.map (Node.mapping none)) inside

/-- …items up to the end of their list… -/
theorem collect_itemTokens : (items : List Flow) → (first : Bool) → (fuel steps : Nat) →
    (itemTokens first items).length ≤ fuel → (itemTokens first items).length < steps →
    (rest : List Token) →
      Node.collect (Node.flowItem (Node.read handles fuel false false)) steps first
        (itemTokens first items ++ .flowSequenceEnd :: rest) = ⟨itemNodes items, some rest⟩
  | [], _, _, steps + 1, _, _, _ => rfl
  | x :: xs, first, fuel, steps + 1, enough, fits, rest => by
    have some := length_tokens_pos x
    simp only [itemTokens, List.length_append] at enough fits
    have here := read_tokens x fuel (by omega) false false
      (itemTokens false xs ++ .flowSequenceEnd :: rest)
    have there := collect_itemTokens xs false fuel steps (by omega) (by omega) rest
    rw [itemTokens, List.append_assoc, List.append_assoc, Node.collect, flowItem_tokens, here]
    simp only [there]
    rfl

/-- …and entries up to the end of their mapping. -/
theorem collect_entryTokens : (entries : List (String × Flow)) → (first : Bool) →
    (fuel steps : Nat) → (entryTokens first entries).length ≤ fuel →
    (entryTokens first entries).length < steps → (rest : List Token) →
      Node.collect (Node.flowEntry (Node.read handles fuel false false)) steps first
        (entryTokens first entries ++ .flowMappingEnd :: rest) = ⟨entryNodes entries, some rest⟩
  | [], _, _, steps + 1, _, _, _ => rfl
  | (k, x) :: es, first, fuel, steps + 1, enough, fits, rest => by
    simp only [entryTokens, List.length_append, List.length_cons] at enough fits
    have here := read_tokens x fuel (by omega) false false
      (entryTokens false es ++ .flowMappingEnd :: rest)
    have there := collect_entryTokens es false fuel steps (by omega) (by omega) rest
    obtain ⟨fuel, rfl⟩ : ∃ m, fuel = m + 1 := ⟨fuel - 1, by omega⟩
    rw [entryTokens, List.append_assoc, List.append_assoc, List.append_assoc, Node.collect,
      flowEntry_tokens, here]
    simp only [Part.map, there]
    rfl

end

end Reading

/-! ## Documents -/

/-- **The tokens of a tree are a document**, and nothing but it. -/
theorem ofTokens_tokens (f : Flow) :
    Document.ofTokens (f.tokens ++ [.streamEnd]) = ⟨f.node, true⟩ := by
  have first : Document.first (f.tokens ++ [Token.streamEnd]) =
      Node.read Preamble.standardHandles ((f.tokens ++ [Token.streamEnd]).length + 1) true false
        (f.tokens ++ [.streamEnd]) := by
    cases f <;> rfl
  have enough : f.tokens.length ≤ (f.tokens ++ [Token.streamEnd]).length + 1 := by
    rw [List.length_append]
    omega
  rw [Document.ofTokens, first, read_tokens f _ enough]
  rfl

/-- **The document of a written tree is the tree**, if its keys are short. -/
theorem ofText_written (capital : Bool) (f : Flow)
    (short : ∀ key ∈ f.keys, (Quoted.written capital key).length ≤ KeyPlace.reach) :
    Document.ofText (f.written capital) = ⟨f.node, true⟩ := by
  rw [Document.ofText, written, String.toList_ofList, scan_chars capital f short, ofTokens_tokens]

/-- Commas and colons have a blank behind them, and a text is nothing but ASCII. -/
example : (map [("a", list [text "é", text ""]), ("b", map [])]).written true =
    "\x7b\"a\": [\"\\U000000E9\", \"\"], \"b\": \x7b\x7d\x7d" := by
  decide

end Flow

end Rowscript.Yaml
