import Rowscript.Proofs.QuotedText
import Rowscript.Yaml.Token.Reader

/-!
# Proofs/Scanning — pieces of a text are read as tokens, one behind the other

    spot ──piece──▸ spot' ──piece'──▸ spot''
           tokens           tokens'

A `Spot` is what has to be known of a place between brackets: how many are open, whether a key may
start, and which names nodes have.  A reader that stands there (`Reader.Stands`) and in no block
collection never misses a key that is required, so a step comes down to the token that is next
(`Stands.step_eq`).  `Scans` says what a piece of text is read as, wherever it stands and whatever
stands behind it; pieces are put together by `Scans.append`, and a text of such pieces has their
tokens (`Token.scan_of_scans`).
-/

namespace Rowscript.Yaml

/-- How far from its start the colon behind a key may stand. -/
def KeyPlace.reach : Nat := 1024

/-- A place in a text that is in no block collection. -/
structure Spot where
  /-- How many brackets are open. -/
  depth : Nat
  /-- A key may start there. -/
  keys : Bool
  /-- The names of nodes in front of it, and their numbers. -/
  names : List (String × Nat)

namespace Reader

/-! ## Where a reader stands -/

/-- A place where something else than a key makes sense too. -/
def IsFree (key : Option KeyPlace) : Prop := ∀ k ∈ key, k.required = false

/-- **The reader stands at a spot in front of `rest`**, or in front of blanks and `rest`.  It has
read the tokens, the newest first. -/
structure Stands (r : Reader) (spot : Spot) (rest : List Char) (ts : List Token) : Prop where
  blanks : ∃ n, r.cursor.rest = List.replicate n ' ' ++ rest
  depth : r.outerKeys.length = spot.depth
  keys : r.keyAllowed = spot.keys
  names : r.names = spot.names
  tokens : r.tokens = ts
  unfinished : ts.head? ≠ some .streamEnd
  levels : r.levels = []
  free : ∀ key ∈ r.key :: r.outerKeys, IsFree key

/-- The reader without the places that are too far back. -/
def refresh (r : Reader) : Reader :=
  { r with
    key := r.key.filter fun k => !k.isStale r.mark
    outerKeys := r.outerKeys.map (·.filter fun k => !k.isStale r.mark) }

/-- The place that is kept once a node that starts here has been read. -/
def keptKey (r : Reader) : Option KeyPlace :=
  if r.keyAllowed then some ⟨r.tokens.length, r.mark, false⟩ else r.key

variable {r : Reader} {spot spot' : Spot} {rest rest' : List Char} {ts ts' : List Token}

theorem isFree_none : IsFree none := nofun

theorem IsFree.filter {key : Option KeyPlace} (h : IsFree key) (p : KeyPlace → Bool) :
    IsFree (key.filter p) := fun k hk => h k (Option.mem_filter_iff.1 hk).1

theorem freshKey?_of_isFree {key : Option KeyPlace} (h : IsFree key) (m : Mark) :
    freshKey? m key = some (key.filter fun k => !k.isStale m) := by
  cases key with
  | none => rfl
  | some k =>
    have free : k.required = false := h k rfl
    by_cases stale : k.isStale m = true <;> simp [freshKey?, stale, free, Option.filter]

theorem mapM_freshKey?_of_isFree {keys : List (Option KeyPlace)} (h : ∀ key ∈ keys, IsFree key)
    (m : Mark) :
    keys.mapM (freshKey? m) = some (keys.map (·.filter fun k => !k.isStale m)) := by
  induction keys with
  | nil => rfl
  | cons key keys ih =>
    obtain ⟨here, there⟩ := List.forall_mem_cons.1 h
    rw [List.mapM_cons, freshKey?_of_isFree here, ih there]
    rfl

/-- Where no key is required, places are given up freely. -/
theorem dropStale?_of_isFree (h : ∀ key ∈ r.key :: r.outerKeys, IsFree key) :
    r.dropStale? = some r.refresh := by
  obtain ⟨here, outside⟩ := List.forall_mem_cons.1 h
  rw [dropStale?, freshKey?_of_isFree here, mapM_freshKey?_of_isFree outside]
  rfl

/-- A place that is not too far back stays kept. -/
theorem refresh_key {k : KeyPlace} (kept : r.key = some k) (near : k.isStale r.mark = false) :
    r.refresh.key = some k := by
  simp [refresh, kept, near]

namespace Stands

theorem refresh (st : Stands r spot rest ts) : Stands r.refresh spot rest ts := by
  refine { st with depth := ?_, free := ?_ }
  · simpa [Reader.refresh] using st.depth
  · obtain ⟨here, outside⟩ := List.forall_mem_cons.1 st.free
    refine List.forall_mem_cons.2 ⟨here.filter _, fun key hk => ?_⟩
    obtain ⟨old, ho, rfl⟩ := List.mem_map.1 hk
    exact (outside old ho).filter _

/-- The kept place can be given up… -/
theorem dropKey? (st : Stands r spot rest ts) : r.dropKey? = some { r with key := none } := by
  have free : r.key.any (·.required) = false := by
    cases here : r.key with
    | none => rfl
    | some k => exact st.free r.key List.mem_cons_self k here
  rw [Reader.dropKey?, free]
  rfl

/-- …for the place of a node that may be a key. -/
theorem replaceKey? (st : Stands r spot rest ts) :
    r.replaceKey? = some { r with key := r.keptKey } := by
  cases may : r.keyAllowed with
  | false =>
    simp only [Reader.replaceKey?, keptKey, may, Bool.false_eq_true, if_false]
    rw [← may]
  | true =>
    rw [Reader.replaceKey?, if_pos may, st.dropKey?]
    simp [keepKey, keptKey, may, Reader.level, Reader.inFlow, Reader.mark, st.levels]

theorem isFree_keptKey (st : Stands r spot rest ts) : IsFree r.keptKey := by
  rw [keptKey]
  split
  · rintro _ ⟨⟩
    rfl
  · exact st.free _ List.mem_cons_self

theorem isFree_outerKeys (st : Stands r spot rest ts) : ∀ key ∈ r.outerKeys, IsFree key :=
  (List.forall_mem_cons.1 st.free).2

/-- There is no block collection to end. -/
theorem unroll (st : Stands r spot rest ts) (column : Nat) : r.unroll column = r := by
  have levels := st.levels
  cases r
  simp_all [Reader.unroll]

end Stands

/-! ## A step -/

/-- Neither a blank nor the end of a line, and no comment. -/
def StartsToken (c : Char) : Prop := isSpace c = false ∧ isBreak c = false ∧ c ≠ '#'

instance (c : Char) : Decidable (StartsToken c) := inferInstanceAs (Decidable (_ ∧ _ ∧ _))

theorem dropWhile_blanks (p : Char → Bool) (blank : p ' ' = true)
    (stops : ∀ c ∈ rest.head?, p c = false) (m : Mark) (n : Nat) :
    (⟨m, List.replicate n ' ' ++ rest⟩ : Cursor).dropWhile p = ⟨m.right n, rest⟩ := by
  have blanks : ∀ c ∈ List.replicate n ' ', p c = true := fun c hc =>
    List.eq_of_mem_replicate hc ▸ blank
  obtain ⟨front, behind⟩ := Json.span_append blanks stops
  rw [Cursor.dropWhile, Cursor.takeWhile, front, behind, List.length_replicate]

/-- The gap in front of a token is over once its blanks are. -/
theorem skipGap_blanks (flow : Bool) (fuel : Nat) (allowed : Bool) (m : Mark) (n : Nat)
    (starts : ∀ c ∈ rest.head?, StartsToken c) :
    skipGap flow (fuel + 1) allowed ⟨m, List.replicate n ' ' ++ rest⟩ =
      (allowed, ⟨m.right n, rest⟩) := by
  have stops : ∀ c ∈ rest.head?, (c == ' ' || (c == '\t' && (flow || !allowed))) = false := by
    intro c hc
    have word := (starts c hc).1
    simp only [isSpace, Bool.or_eq_false_iff] at word
    simp [word]
  rw [skipGap, dropWhile_blanks _ rfl stops]
  cases rest with
  | nil => rfl
  | cons c cs =>
    obtain ⟨-, line, comment⟩ := starts c rfl
    simp [line, comment]

/-- The reader behind `n` blanks, without the places that are too far back there. -/
def ahead (r : Reader) (n : Nat) : Reader :=
  ({ r with cursor := r.cursor.skip n } : Reader).refresh

section Ahead

variable {n : Nat} (blanks : r.cursor.rest = List.replicate n ' ' ++ rest)

include blanks

theorem ahead_rest : (r.ahead n).cursor.rest = rest := by
  simp [ahead, refresh, Cursor.skip, blanks]

theorem Stands.skip (st : Stands r spot rest ts) :
    Stands { r with cursor := r.cursor.skip n } spot rest ts :=
  { st with blanks := ⟨0, ahead_rest blanks⟩ }

theorem Stands.ahead (st : Stands r spot rest ts) : Stands (r.ahead n) spot rest ts :=
  (st.skip blanks).refresh

/-- **A step passes the blanks and reads what comes next.** -/
theorem Stands.step_eq (st : Stands r spot rest ts) (starts : ∀ c ∈ rest.head?, StartsToken c) :
    r.step =
      (match rest with
        | [] => (r.ahead n).finish
        | c :: cs => (r.ahead n).token c cs).bind Reader.dropStale? := by
  have gap : skipGap r.inFlow (r.cursor.rest.length + 1) r.keyAllowed r.cursor =
      (r.keyAllowed, r.cursor.skip n) := by
    have cursor : r.cursor = ⟨r.mark, List.replicate n ' ' ++ rest⟩ := by rw [← blanks]; rfl
    rw [cursor, skipGap_blanks _ _ _ _ _ starts, Cursor.skip,
      List.drop_left' (List.length_replicate ..)]
  have fresh := dropStale?_of_isFree (st.skip blanks).free
  simp only [step, gap]
  rw [fresh, Option.bind_some]
  change ((match ((r.ahead n).unroll _).cursor.rest with
    | [] => ((r.ahead n).unroll _).finish
    | c :: cs => ((r.ahead n).unroll _).token c cs).bind Reader.dropStale?) = _
  rw [(st.ahead blanks).unroll, ahead_rest blanks]

end Ahead

/-! ## Many steps -/

/-- The reader comes to another one step by step, and further with each. -/
inductive Reaches : Reader → Reader → Prop where
  | here (r : Reader) : Reaches r r
  | step {r next last : Reader} (unfinished : r.tokens.head? ≠ some .streamEnd)
      (stepped : r.step = some next) (further : next.cursor.rest.length < r.cursor.rest.length)
      (onward : Reaches next last) : Reaches r last

theorem Reaches.trans {next last : Reader} (h : Reaches r next) (k : Reaches next last) :
    Reaches r last := by
  induction h with
  | here => exact k
  | step unfinished stepped further _ ih => exact .step unfinished stepped further (ih k)

/-- As many steps as there are characters, and two more, are enough to get there and to go on. -/
theorem Reaches.run_eq {last : Reader} (h : Reaches r last) {fuel : Nat}
    (enough : r.cursor.rest.length + 2 ≤ fuel) :
    ∃ left, last.cursor.rest.length + 2 ≤ left ∧ run fuel r = run left last := by
  induction h generalizing fuel with
  | here => exact ⟨fuel, enough, rfl⟩
  | step unfinished stepped further _ ih =>
    obtain ⟨fuel, rfl⟩ := Nat.exists_eq_add_of_le' (Nat.le_of_add_left_le enough)
    obtain ⟨left, there, runs⟩ := @ih (fuel + 1) (by omega)
    refine ⟨left, there, ?_⟩
    rw [run, if_neg (by simpa using unfinished), stepped]
    exact runs

/-- A step reads the token that comes next. -/
theorem Stands.reaches {c : Char} {cs : List Char} (st : Stands r spot (c :: cs) ts)
    (starts : StartsToken c) {n : Nat} (blanks : r.cursor.rest = List.replicate n ' ' ++ c :: cs)
    {q : Reader} (taken : (r.ahead n).token c cs = some q)
    (shorter : q.cursor.rest.length ≤ cs.length) (stands : Stands q spot' rest' ts') :
    Reaches r q.refresh := by
  have stepped : r.step = some q.refresh := by
    rw [st.step_eq blanks (by simpa using starts)]
    simp only [taken, Option.bind_some, dropStale?_of_isFree stands.free]
  have further : q.refresh.cursor.rest.length < r.cursor.rest.length := by
    change q.cursor.rest.length < _
    rw [blanks, List.length_append, List.length_cons]
    omega
  exact .step (st.tokens ▸ st.unfinished) stepped further (.here _)

/-- **A piece of text is read as tokens** on the way from one spot to another, wherever it stands
and whatever stands behind it. -/
def Scans (spot : Spot) (cs : List Char) (spot' : Spot) (ts : List Token) : Prop :=
  ∀ (r : Reader) (rest : List Char) (older : List Token), Stands r spot (cs ++ rest) older →
    ∃ last, Reaches r last ∧ Stands last spot' rest (ts.reverse ++ older)

namespace Scans

theorem nil (spot : Spot) : Scans spot [] spot [] := fun r _ _ st => ⟨r, .here r, st⟩

/-- Pieces are read one behind the other. -/
theorem append {cs cs' : List Char} {spot'' : Spot} (h : Scans spot cs spot' ts)
    (k : Scans spot' cs' spot'' ts') : Scans spot (cs ++ cs') spot'' (ts ++ ts') := by
  intro r rest older st
  rw [List.append_assoc] at st
  obtain ⟨middle, there, stands⟩ := h _ _ _ st
  obtain ⟨last, further, stands⟩ := k _ _ _ stands
  refine ⟨last, there.trans further, ?_⟩
  rwa [List.reverse_append, List.append_assoc]

/-- A blank is no token. -/
theorem blank (spot : Spot) : Scans spot [' '] spot [] := by
  intro r rest older st
  obtain ⟨n, blanks⟩ := st.blanks
  exact ⟨r, .here r, { st with blanks := ⟨n + 1, by simp [blanks, List.replicate_succ']⟩ }⟩

/-- What starts with a token is read once the token is, and then the piece that shows where the
token ends. -/
theorem of_token_append {c : Char} {cs cs' : List Char} {spot'' : Spot} (starts : StartsToken c)
    (token : ∀ {p : Reader} {rest : List Char} {older : List Token},
      Stands p spot (c :: cs ++ (cs' ++ rest)) older → p.cursor.rest = c :: cs ++ (cs' ++ rest) →
        ∃ q, p.token c (cs ++ (cs' ++ rest)) = some q ∧
          q.cursor.rest.length ≤ (cs ++ (cs' ++ rest)).length ∧
          Stands q spot' (cs' ++ rest) (ts.reverse ++ older))
    (behind : Scans spot' cs' spot'' ts') : Scans spot (c :: cs ++ cs') spot'' (ts ++ ts') := by
  intro r rest older st
  rw [List.append_assoc] at st
  obtain ⟨n, blanks⟩ := st.blanks
  obtain ⟨q, taken, shorter, stands⟩ := token (st.ahead blanks) (ahead_rest blanks)
  obtain ⟨last, further, ends⟩ := behind _ _ _ stands.refresh
  refine ⟨last, (st.reaches starts blanks taken shorter stands).trans further, ?_⟩
  rwa [List.reverse_append, List.append_assoc]

/-- Most tokens show it themselves. -/
theorem of_token {c : Char} {cs : List Char} (starts : StartsToken c)
    (token : ∀ {p : Reader} {rest : List Char} {older : List Token},
      Stands p spot (c :: cs ++ rest) older → p.cursor.rest = c :: cs ++ rest →
        ∃ q, p.token c (cs ++ rest) = some q ∧ q.cursor.rest.length ≤ (cs ++ rest).length ∧
          Stands q spot' rest (ts.reverse ++ older)) :
    Scans spot (c :: cs) spot' ts := by
  have scans : Scans spot (c :: cs ++ []) spot' (ts ++ []) :=
    of_token_append starts token (.nil spot')
  rwa [List.append_nil, List.append_nil] at scans

end Scans

/-! ## Marks -/

section Marks

variable {c : Char} {t : Token} {key : Option KeyPlace} {keys : List (Option KeyPlace)}

/-- What has been read is the same with other places kept. -/
theorem Stands.withKeys (st : Stands r spot rest ts) (free : ∀ k ∈ key :: keys, IsFree k)
    (allowed : Bool) :
    Stands { r with key := key, outerKeys := keys, keyAllowed := allowed }
      ⟨keys.length, allowed, spot.names⟩ rest ts :=
  { st with depth := rfl, keys := rfl, free := free }

/-- A mark is a token of one character. -/
theorem Stands.take (st : Stands r spot (c :: rest) ts) (here : r.cursor.rest = c :: rest)
    (mark : t ≠ .streamEnd) :
    (r.take 1 t).cursor.rest.length ≤ rest.length ∧ Stands (r.take 1 t) spot rest (t :: ts) := by
  have behind : (r.take 1 t).cursor.rest = rest := by simp [Reader.take, Cursor.skip, here]
  exact ⟨Nat.le_of_eq (congrArg List.length behind), { st with
    blanks := ⟨0, behind⟩
    tokens := congrArg (t :: ·) st.tokens
    unfinished := by simpa using mark }⟩

/-- A bracket opens a collection, and a key may start behind it. -/
theorem Stands.openFlow {depth : Nat} {allowed : Bool} {names : List (String × Nat)}
    (st : Stands r ⟨depth, allowed, names⟩ (c :: rest) ts) (here : r.cursor.rest = c :: rest)
    (mark : t ≠ .streamEnd) :
    ∃ q, r.openFlow t = some q ∧ q.cursor.rest.length ≤ rest.length ∧
      Stands q ⟨depth + 1, true, names⟩ rest (t :: ts) := by
  have free : ∀ key ∈ none :: r.keptKey :: r.outerKeys, IsFree key :=
    List.forall_mem_cons.2
      ⟨isFree_none, List.forall_mem_cons.2 ⟨st.isFree_keptKey, st.isFree_outerKeys⟩⟩
  have depth : r.outerKeys.length = depth := st.depth
  rw [Reader.openFlow, st.replaceKey?, ← depth]
  exact ⟨_, rfl, (st.withKeys free true).take here mark⟩

/-- The other one closes it. -/
theorem Stands.closeFlow {depth : Nat} {allowed : Bool} {names : List (String × Nat)}
    (st : Stands r ⟨depth + 1, allowed, names⟩ (c :: rest) ts) (here : r.cursor.rest = c :: rest)
    (mark : t ≠ .streamEnd) :
    ∃ q, r.closeFlow t = some q ∧ q.cursor.rest.length ≤ rest.length ∧
      Stands q ⟨depth, false, names⟩ rest (t :: ts) := by
  obtain ⟨key, keys, outer⟩ := List.exists_cons_of_length_eq_add_one st.depth
  have depth : keys.length = depth := by simpa [outer] using st.depth
  have free : ∀ k ∈ key :: keys, IsFree k := outer ▸ st.isFree_outerKeys
  rw [Reader.closeFlow, st.dropKey?, ← depth, Option.map_some, outer]
  exact ⟨_, rfl, (st.withKeys free false).take here mark⟩

/-- Behind a comma a key may start. -/
theorem Stands.flowEntry {depth : Nat} {allowed : Bool} {names : List (String × Nat)}
    (st : Stands r ⟨depth, allowed, names⟩ (c :: rest) ts) (here : r.cursor.rest = c :: rest) :
    ∃ q, r.flowEntry = some q ∧ q.cursor.rest.length ≤ rest.length ∧
      Stands q ⟨depth, true, names⟩ rest (.flowEntry :: ts) := by
  have free := List.forall_mem_cons.2 ⟨isFree_none, st.isFree_outerKeys⟩
  have depth : r.outerKeys.length = depth := st.depth
  rw [Reader.flowEntry, st.dropKey?, ← depth]
  exact ⟨_, rfl, (st.withKeys free true).take here (by simp)⟩

end Marks

namespace Scans

variable {depth : Nat} {allowed : Bool} {names : List (String × Nat)}

/-- A mark that opens a collection. -/
theorem opens {c : Char} {t : Token} (starts : StartsToken c) (mark : t ≠ .streamEnd)
    (token : ∀ (p : Reader) (rest : List Char), p.cursor.rest = c :: rest →
      p.token c rest = p.openFlow t) :
    Scans ⟨depth, allowed, names⟩ [c] ⟨depth + 1, true, names⟩ [t] :=
  of_token starts fun st here => token _ _ here ▸ st.openFlow here mark

/-- A mark that closes one. -/
theorem closes {c : Char} {t : Token} (starts : StartsToken c) (mark : t ≠ .streamEnd)
    (token : ∀ (p : Reader) (rest : List Char), p.cursor.rest = c :: rest →
      p.token c rest = p.closeFlow t) :
    Scans ⟨depth + 1, allowed, names⟩ [c] ⟨depth, false, names⟩ [t] :=
  of_token starts fun st here => token _ _ here ▸ st.closeFlow here mark

theorem openList :
    Scans ⟨depth, allowed, names⟩ ['['] ⟨depth + 1, true, names⟩ [.flowSequenceStart] :=
  opens (by decide) (by simp) fun _ _ here => by
    simp [Reader.token, Cursor.atDocumentStart, Cursor.atDocumentEnd, here]

theorem openMap :
    Scans ⟨depth, allowed, names⟩ ['{'] ⟨depth + 1, true, names⟩ [.flowMappingStart] :=
  opens (by decide) (by simp) fun _ _ here => by
    simp [Reader.token, Cursor.atDocumentStart, Cursor.atDocumentEnd, here]

theorem closeList :
    Scans ⟨depth + 1, allowed, names⟩ [']'] ⟨depth, false, names⟩ [.flowSequenceEnd] :=
  closes (by decide) (by simp) fun _ _ here => by
    simp [Reader.token, Cursor.atDocumentStart, Cursor.atDocumentEnd, here]

theorem closeMap :
    Scans ⟨depth + 1, allowed, names⟩ ['}'] ⟨depth, false, names⟩ [.flowMappingEnd] :=
  closes (by decide) (by simp) fun _ _ here => by
    simp [Reader.token, Cursor.atDocumentStart, Cursor.atDocumentEnd, here]

theorem comma : Scans ⟨depth, allowed, names⟩ [','] ⟨depth, true, names⟩ [.flowEntry] :=
  of_token (by decide) fun {p rest _} st here => by
    have token : p.token ',' rest = p.flowEntry := by
      simp [Reader.token, Cursor.atDocumentStart, Cursor.atDocumentEnd, here]
    exact token ▸ st.flowEntry here

end Scans

/-! ## Texts and keys -/

section Texts

variable (capital : Bool) (s : String) {depth : Nat} {allowed : Bool} {names : List (String × Nat)}

/-- The reader behind a text in double quotes. -/
def behindText (r : Reader) (rest : List Char) : Reader :=
  { r with
    key := r.keptKey
    keyAllowed := false
    cursor := ⟨r.mark.right (Quoted.written capital s).length, rest⟩
    tokens := .scalar s false :: r.tokens }

theorem token_quote (st : Stands r spot (Quoted.written capital s ++ rest) ts)
    (here : r.cursor.rest = Quoted.written capital s ++ rest) :
    r.token '"' ((Quoted.written capital s).tail ++ rest) = some (r.behindText capital s rest) := by
  have cursor : r.cursor = ⟨r.mark, Quoted.written capital s ++ rest⟩ := by rw [← here]; rfl
  have quote : r.cursor.rest = '"' :: ((Quoted.written capital s).tail ++ rest) := here
  have token : r.token '"' ((Quoted.written capital s).tail ++ rest) = r.quotedScalar true := by
    simp [Reader.token, Cursor.atDocumentStart, Cursor.atDocumentEnd, quote]
  rw [token, quotedScalar, st.replaceKey?, Option.bind_some]
  simp only [cursor, Quoted.read_written]
  simp [behindText]

theorem Stands.behindText
    (st : Stands r ⟨depth, allowed, names⟩ (Quoted.written capital s ++ rest) ts) :
    (r.behindText capital s rest).cursor.rest.length ≤
        ((Quoted.written capital s).tail ++ rest).length ∧
      Stands (r.behindText capital s rest) ⟨depth, false, names⟩ rest (.scalar s false :: ts) := by
  constructor
  · rw [List.length_append]
    exact Nat.le_add_left _ _
  · exact { st with
      blanks := ⟨0, rfl⟩
      keys := rfl
      tokens := congrArg (_ :: ·) st.tokens
      unfinished := by simp
      free := List.forall_mem_cons.2 ⟨st.isFree_keptKey, st.isFree_outerKeys⟩ }

/-- A text in double quotes is a token. -/
theorem Scans.text :
    Scans ⟨depth, allowed, names⟩ (Quoted.written capital s) ⟨depth, false, names⟩
      [.scalar s false] :=
  of_token (c := '"') (by decide) fun st here =>
    ⟨_, token_quote capital s st here, st.behindText capital s⟩

/-- Between brackets a colon behind a place for a key makes what has been read there the key. -/
theorem Stands.value {t : Token} {m : Mark}
    (st : Stands r ⟨depth + 1, allowed, names⟩ (':' :: rest) (t :: ts))
    (here : r.cursor.rest = ':' :: rest)
    (kept : r.key = some ⟨ts.length, m, false⟩) :
    ∃ q, r.token ':' rest = some q ∧ q.cursor.rest.length ≤ rest.length ∧
      Stands q ⟨depth + 1, false, names⟩ rest (.value :: t :: .key :: ts) := by
  have inFlow : r.inFlow = true := by
    obtain ⟨key, keys, outer⟩ := List.exists_cons_of_length_eq_add_one st.depth
    rw [Reader.inFlow, outer]
    rfl
  have token : r.token ':' rest = r.value := by
    simp [Reader.token, Cursor.atDocumentStart, Cursor.atDocumentEnd, here, inFlow]
  have insert : r.insert ts.length .key = { r with tokens := t :: .key :: ts } := by
    simp [Reader.insert, st.tokens]
  have roll : ({ r with tokens := t :: .key :: ts } : Reader).roll m.column ts.length
      .blockMappingStart = { r with tokens := t :: .key :: ts } :=
    if_pos (Bool.or_eq_true_iff.2 (.inl inFlow))
  have value : r.value = some (({ r with
      key := none, keyAllowed := false, tokens := t :: .key :: ts } : Reader).take 1 .value) := by
    rw [Reader.value, kept]
    simp only [insert, roll]
  have free := List.forall_mem_cons.2 ⟨isFree_none, st.isFree_outerKeys⟩
  have stands : Stands { r with key := none, keyAllowed := false, tokens := t :: .key :: ts }
      ⟨depth + 1, false, names⟩ (':' :: rest) (t :: .key :: ts) :=
    { st with keys := rfl, tokens := rfl, unfinished := st.unfinished, free := free }
  exact ⟨_, token.trans value, stands.take here (by simp)⟩

/-- **A key and its colon** are three tokens, if the place in front of the key is kept so long. -/
theorem Scans.key (short : (Quoted.written capital s).length ≤ KeyPlace.reach) :
    Scans ⟨depth + 1, true, names⟩ (Quoted.written capital s ++ [':']) ⟨depth + 1, false, names⟩
      [.key, .scalar s false, .value] := by
  intro r rest older st
  rw [List.append_assoc] at st
  obtain ⟨n, blanks⟩ := st.blanks
  have start := st.ahead blanks
  let key : KeyPlace := ⟨older.length, (r.ahead n).mark, false⟩
  let q := (r.ahead n).behindText capital s (':' :: rest)
  have kept : q.key = some key := by
    change (r.ahead n).keptKey = _
    rw [keptKey, start.tokens, start.keys]
    rfl
  have near : key.isStale q.mark = false := by
    simp only [KeyPlace.isStale, Bool.or_eq_false_iff, decide_eq_false_iff_not, Nat.not_lt]
    exact ⟨Nat.le_refl _, Nat.add_le_add_left short _⟩
  have token := token_quote capital s start (ahead_rest blanks)
  obtain ⟨shorter, behind⟩ := start.behindText capital s
  have text : Reaches r q.refresh := st.reaches (c := '"') (by decide) blanks token shorter behind
  have still : (q.refresh.ahead 0).key = some key := refresh_key (refresh_key kept near) near
  obtain ⟨last, colon, shorter, stands⟩ := (behind.refresh.ahead (n := 0) rfl).value rfl still
  have value : Reaches q.refresh last.refresh :=
    behind.refresh.reaches (n := 0) (by decide) rfl colon shorter stands
  exact ⟨_, text.trans value, stands.refresh⟩

end Texts

/-! ## Names -/

/-- A node may have the text as its name. -/
structure IsName (name : String) : Prop where
  nonempty : name.toList.isEmpty = false
  chars : ∀ c ∈ name.toList, isNameChar c = true

section Names

variable {name : String} {c : Char} {t : Token} {names names' : List (String × Nat)} {depth : Nat}
  {allowed : Bool}

/-- The reader behind a name and the mark in front of it. -/
def behindName (r : Reader) (name : String) (rest : List Char) (t : Token)
    (names : List (String × Nat)) : Reader :=
  { r with
    key := r.keptKey
    keyAllowed := false
    cursor := ⟨(r.mark.right 1).right name.toList.length, rest⟩
    tokens := t :: r.tokens
    names := names }

theorem Stands.behindName (st : Stands r ⟨depth, allowed, names⟩ (c :: (name.toList ++ rest)) ts)
    (mark : t ≠ .streamEnd) :
    (r.behindName name rest t names').cursor.rest.length ≤ (name.toList ++ rest).length ∧
      Stands (r.behindName name rest t names') ⟨depth, false, names'⟩ rest (t :: ts) := by
  constructor
  · rw [List.length_append]
    exact Nat.le_add_left _ _
  · exact { st with
      blanks := ⟨0, rfl⟩
      keys := rfl
      names := rfl
      tokens := congrArg (_ :: ·) st.tokens
      unfinished := by simpa using mark
      free := List.forall_mem_cons.2 ⟨st.isFree_keptKey, st.isFree_outerKeys⟩ }

/-- A name ends in front of what ends it. -/
theorem name?_eq (isName : IsName name) (here : r.cursor.rest = c :: (name.toList ++ rest))
    (stops : ∀ c ∈ rest.head?, isNameChar c = false) (ends : endsName rest = true) :
    r.name? = some (name, ⟨(r.mark.right 1).right name.toList.length, rest⟩) := by
  obtain ⟨front, behind⟩ := Json.span_append isName.chars stops
  simp only [name?, Cursor.takeWhile, Cursor.skip, here, List.drop_one, List.tail_cons, front,
    behind, isName.nonempty, ends, String.ofList_toList]
  rfl

/-- **A name that is referred to** is a token, and the comma behind it is another one. -/
theorem Scans.reference (isName : IsName name) :
    Scans ⟨depth, allowed, names⟩ ('*' :: name.toList ++ [',']) ⟨depth, true, names⟩
      [.reference (names.lookup name), .flowEntry] := by
  have comma : Scans ⟨depth, false, names⟩ [','] ⟨depth, true, names⟩ [.flowEntry] := Scans.comma
  change Scans _ _ _ ([_] ++ [_])
  refine of_token_append (by decide) (fun {p rest older} st here => ?_) comma
  have token : p.token '*' (name.toList ++ ',' :: rest) = p.reference := by
    simp [Reader.token, Cursor.atDocumentStart, Cursor.atDocumentEnd, here]
  have known : p.names = names := st.names
  have taken : p.reference =
      some (p.behindName name (',' :: rest) (.reference (names.lookup name)) names) := by
    rw [Reader.reference, st.replaceKey?, Option.bind_some,
      name?_eq (r := { p with key := p.keptKey }) isName here (by simp [isNameChar]) rfl, ← known]
    rfl
  exact ⟨_, token.trans taken, st.behindName (by simp)⟩

/-- **A name that is given** is a token, and it is known behind it. -/
theorem Scans.anchor (isName : IsName name) :
    Scans ⟨depth, allowed, names⟩ ('&' :: name.toList ++ [' '])
      ⟨depth, false, (name, names.length) :: names.filter (·.1 != name)⟩
      [.anchor names.length] := by
  let further := (name, names.length) :: names.filter (·.1 != name)
  have blank : Scans ⟨depth, false, further⟩ [' '] ⟨depth, false, further⟩ [] := .blank _
  change Scans _ _ _ ([_] ++ [])
  refine of_token_append (by decide) (fun {p rest older} st here => ?_) blank
  have token : p.token '&' (name.toList ++ ' ' :: rest) = p.anchor := by
    simp [Reader.token, Cursor.atDocumentStart, Cursor.atDocumentEnd, here]
  have known : p.names = names := st.names
  have taken : p.anchor =
      some (p.behindName name (' ' :: rest) (.anchor names.length) further) := by
    rw [Reader.anchor, st.replaceKey?, Option.bind_some,
      name?_eq (r := { p with key := p.keptKey }) isName here (by simp [isNameChar]) rfl]
    dsimp only [further]
    rw [← known]
    rfl
  exact ⟨_, token.trans taken, st.behindName (by simp)⟩

end Names

/-! ## The end -/

theorem Stands.finish (st : Stands r spot [] ts) :
    ∃ q, r.finish = some q ∧ q.tokens = .streamEnd :: ts ∧
      ∀ key ∈ q.key :: q.outerKeys, IsFree key := by
  let m := if r.mark.column == 0 then r.mark else r.mark.down 0
  have ended : Stands { r with cursor := ⟨m, []⟩ } spot [] ts := { st with blanks := ⟨0, rfl⟩ }
  let q := (({ r with cursor := ⟨m, []⟩, key := none } : Reader).allowKey false).take 0 .streamEnd
  have finished : r.finish = some q := by
    rw [Reader.finish, ended.unroll, ended.dropKey?]
    rfl
  exact ⟨q, finished, congrArg (_ :: ·) st.tokens,
    List.forall_mem_cons.2 ⟨isFree_none, st.isFree_outerKeys⟩⟩

/-- At the end of the text the tokens are those that have been read. -/
theorem Stands.run_eq (st : Stands r spot [] ts) (fuel : Nat) :
    run (fuel + 2) r = ts.reverse ++ [.streamEnd] := by
  obtain ⟨n, blanks⟩ := st.blanks
  obtain ⟨q, finished, tokens, free⟩ := (st.ahead blanks).finish
  have stepped : r.step = some q.refresh := by
    rw [st.step_eq blanks (by simp)]
    simp only [finished, Option.bind_some, dropStale?_of_isFree free]
  have unfinished : r.tokens.head? ≠ some .streamEnd := st.tokens ▸ st.unfinished
  rw [run, if_neg (by simpa using unfinished), stepped]
  have last : q.refresh.tokens = .streamEnd :: ts := tokens
  simp [run, last]

end Reader

open Reader

theorem withoutEncodingMark_of_ne {cs : List Char} (h : cs.head? ≠ some '\uFEFF') :
    withoutEncodingMark cs = cs := by
  unfold withoutEncodingMark
  split
  · simp at h
  · rfl

/-- **A text of pieces has the tokens of its pieces**, if it is printable. -/
theorem Token.scan_of_scans {cs : List Char} {spot : Spot} {ts : List Token}
    (h : Scans ⟨0, true, []⟩ cs spot ts) (printable : ∀ c ∈ cs, isPrintable c = true) :
    Token.scan cs = ts ++ [.streamEnd] := by
  have encoding : cs.head? ≠ some '\uFEFF' := fun first =>
    absurd (printable _ (List.mem_of_mem_head? first)) (by decide)
  have allowed : cs.all isAllowed = true :=
    List.all_eq_true.2 fun c hc => isAllowed_of_isPrintable (printable c hc)
  let start : Reader := { cursor := ⟨{}, cs⟩ }
  have stands : Stands start ⟨0, true, []⟩ (cs ++ []) [] :=
    ⟨⟨0, by simp [start]⟩, rfl, rfl, rfl, rfl, by simp, rfl, by simp [start, isFree_none]⟩
  obtain ⟨last, reached, stands⟩ := h _ _ _ stands
  obtain ⟨left, enough, runs⟩ := reached.run_eq (Nat.le_refl (cs.length + 2))
  obtain ⟨fuel, rfl⟩ := Nat.exists_eq_add_of_le' (Nat.le_of_add_left_le enough)
  rw [List.append_nil] at stands
  rw [stands.run_eq, List.reverse_reverse] at runs
  simpa [Token.scan, withoutEncodingMark_of_ne encoding, allowed, encoding] using runs

end Rowscript.Yaml
