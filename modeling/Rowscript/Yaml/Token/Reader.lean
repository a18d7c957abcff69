import Rowscript.Yaml.Scalar.Block
import Rowscript.Yaml.Scalar.Plain
import Rowscript.Yaml.Token.Tag

/-!
# Yaml/Token/Reader — from characters to tokens

A key shows only at the colon behind it.  So wherever a key may start the place is kept, and the
colon puts the missing tokens in front of what has been read since.  A kept place is given up at the
end of its line, and 1024 characters on.

`Token.scan` gives the tokens that are certain: where a text is not well-formed, those in front of
every kept place.
-/

namespace Rowscript.Yaml

/-- A place where a key may start. -/
structure KeyPlace where
  /-- How many tokens are in front of it. -/
  number : Nat
  mark : Mark
  /-- Nothing but a key makes sense there. -/
  required : Bool
  deriving DecidableEq, Repr

/-- The place is too far back for a key. -/
def KeyPlace.isStale (k : KeyPlace) (m : Mark) : Bool :=
  k.mark.line < m.line || k.mark.index + 1024 < m.index

/-- How far a text has been read, and what came out. -/
structure Reader where
  cursor : Cursor
  /-- The columns of the open block collections, counted from one, the innermost first. -/
  levels : List Nat := []
  /-- Where a key may start, since the innermost bracket. -/
  key : Option KeyPlace := none
  /-- The same for the open brackets, the innermost first. -/
  outerKeys : List (Option KeyPlace) := []
  /-- A key may start here. -/
  keyAllowed : Bool := true
  /-- What has been read, the newest first. -/
  tokens : List Token := []
  /-- The names of nodes and their numbers. -/
  names : List (String × Nat) := []
  deriving DecidableEq, Repr

namespace Reader

/-! ## Parts of a step -/

/-- Between brackets. -/
def inFlow (r : Reader) : Bool := !r.outerKeys.isEmpty

/-- The column of the innermost block collection, counted from one; zero if there is none. -/
def level (r : Reader) : Nat := r.levels.headD 0

def mark (r : Reader) : Mark := r.cursor.mark

/-- Says whether a key may start here. -/
def allowKey (r : Reader) (allowed : Bool) : Reader := { r with keyAllowed := allowed }

/-- The next characters are a token. -/
def take (r : Reader) (n : Nat) (t : Token) : Reader :=
  { r with cursor := r.cursor.skip n, tokens := t :: r.tokens }

/-- Puts a token behind the first `number`. -/
def insert (r : Reader) (number : Nat) (t : Token) : Reader :=
  let newer := r.tokens.length - number
  { r with tokens := r.tokens.take newer ++ t :: r.tokens.drop newer }

/-- Keeps the place, unless no key may start there. -/
def keepKey (r : Reader) : Reader :=
  if r.keyAllowed then
    let required := !r.inFlow && r.level == r.mark.column + 1
    { r with key := some ⟨r.tokens.length, r.mark, required⟩ }
  else r

/-- Gives up the kept place, unless a key is required there. -/
def dropKey? (r : Reader) : Option Reader :=
  if r.key.any (·.required) then none else some { r with key := none }

/-- Gives up the kept place and keeps this one. -/
def replaceKey? (r : Reader) : Option Reader :=
  if r.keyAllowed then r.dropKey?.map keepKey else some r

/-- A place that is too far back is given up; a key that is required there is missing. -/
def freshKey? (m : Mark) : Option KeyPlace → Option (Option KeyPlace)
  | none => some none
  | some k => if !k.isStale m then some (some k) else if k.required then none else some none

/-- Gives up every place that is too far back. -/
def dropStale? (r : Reader) : Option Reader :=
  (freshKey? r.mark r.key).bind fun key =>
    (r.outerKeys.mapM (freshKey? r.mark)).map fun outerKeys =>
      { r with key := key, outerKeys := outerKeys }

/-- Ends the block collections to the right of a column, counted from one. -/
def unroll (r : Reader) (column : Nat) : Reader :=
  if r.inFlow then r
  else
    let ended := (r.levels.takeWhile (column < ·)).length
    { r with
      levels := r.levels.dropWhile (column < ·)
      tokens := List.replicate ended .blockEnd ++ r.tokens }

/-- Starts a block collection at a column, unless it lies in one already. -/
def roll (r : Reader) (column number : Nat) (t : Token) : Reader :=
  if r.inFlow || column + 1 ≤ r.level then r
  else { r.insert number t with levels := (column + 1) :: r.levels }

/-- Starts a block collection here. -/
def rollHere (r : Reader) (t : Token) : Reader := r.roll r.mark.column r.tokens.length t

/-! ## The tokens -/

/-- The end of the text is the end of a line. -/
def finish (r : Reader) : Option Reader :=
  let m := r.mark
  let m := if m.column == 0 then m else m.down 0
  (({ r with cursor := ⟨m, []⟩ } : Reader).unroll 0).dropKey?.map fun r =>
    (r.allowKey false).take 0 .streamEnd

def directive (r : Reader) : Option Reader :=
  (r.unroll 0).dropKey?.bind fun r =>
    (Directive.read r.cursor).map fun (t, c) =>
      { r with keyAllowed := false, cursor := c, tokens := t :: r.tokens }

def documentMark (r : Reader) (t : Token) : Option Reader :=
  (r.unroll 0).dropKey?.map fun r => (r.allowKey false).take 3 t

def openFlow (r : Reader) (t : Token) : Option Reader :=
  r.replaceKey?.map fun r =>
    ({ r with key := none, outerKeys := r.key :: r.outerKeys, keyAllowed := true } : Reader).take 1 t

def closeFlow (r : Reader) (t : Token) : Option Reader :=
  r.dropKey?.map fun r =>
    ({ r with
      key := r.outerKeys.headD none
      outerKeys := r.outerKeys.tail
      keyAllowed := false } : Reader).take 1 t

def flowEntry (r : Reader) : Option Reader :=
  r.dropKey?.map fun r => (r.allowKey true).take 1 .flowEntry

def blockEntry (r : Reader) : Option Reader :=
  if !r.inFlow && !r.keyAllowed then none
  else
    (r.rollHere .blockSequenceStart).dropKey?.map fun r =>
      (r.allowKey true).take 1 .blockEntry

/-- A key behind a question mark. -/
def explicitKey (r : Reader) : Option Reader :=
  if !r.inFlow && !r.keyAllowed then none
  else
    (r.rollHere .blockMappingStart).dropKey?.map fun r =>
      (r.allowKey !r.inFlow).take 1 .key

/-- A colon.  The place kept for it was the start of a key. -/
def value (r : Reader) : Option Reader :=
  match r.key with
  | some k =>
    let r := (r.insert k.number .key).roll k.mark.column k.number .blockMappingStart
    some (({ r with key := none, keyAllowed := false } : Reader).take 1 .value)
  | none =>
    if r.inFlow then some ((r.allowKey false).take 1 .value)
    else if r.keyAllowed then some ((r.rollHere .blockMappingStart).take 1 .value)
    else none

/-- The characters that may stand behind a name. -/
def endsName : List Char → Bool
  | [] => true
  | c :: cs => endsWord (c :: cs) || "?:,]\x7d%@\x60".toList.contains c

/-- A name behind its mark. -/
def name? (r : Reader) : Option (String × Cursor) :=
  let (name, c) := (r.cursor.skip 1).takeWhile isNameChar
  if name.isEmpty || !endsName c.rest then none else some (String.ofList name, c)

def reference (r : Reader) : Option Reader :=
  r.replaceKey?.bind fun r =>
    r.name?.map fun (name, c) =>
      { r with
        keyAllowed := false
        cursor := c
        tokens := .reference (r.names.lookup name) :: r.tokens }

/-- A name gets as its number how many names there were before it. -/
def anchor (r : Reader) : Option Reader :=
  r.replaceKey?.bind fun r =>
    r.name?.map fun (name, c) =>
      { r with
        keyAllowed := false
        cursor := c
        tokens := .anchor r.names.length :: r.tokens
        names := (name, r.names.length) :: r.names.filter (·.1 != name) }

def tag (r : Reader) : Option Reader :=
  r.replaceKey?.bind fun r =>
    (Tag.read r.inFlow r.cursor).map fun (t, c) =>
      { r with keyAllowed := false, cursor := c, tokens := t :: r.tokens }

def blockScalar (r : Reader) (literal : Bool) : Option Reader :=
  r.dropKey?.bind fun r =>
    (Block.read literal r.level r.cursor).map fun (text, c) =>
      { r with
        keyAllowed := true
        cursor := c
        tokens := .scalar (String.ofList text) false :: r.tokens }

def quotedScalar (r : Reader) (double : Bool) : Option Reader :=
  r.replaceKey?.bind fun r =>
    (Quoted.read double r.cursor).map fun (text, c) =>
      { r with
        keyAllowed := false
        cursor := c
        tokens := .scalar (String.ofList text) false :: r.tokens }

def plainScalar (r : Reader) : Option Reader :=
  r.replaceKey?.bind fun r =>
    (Plain.read r.inFlow r.level r.cursor).map fun plain =>
      { r with
        keyAllowed := plain.folded
        cursor := plain.cursor
        tokens := .scalar (String.ofList plain.text) true :: r.tokens }

/-! ## A step -/

/-- Behind blanks, comments and empty lines, and whether a key may start there.  A tab in front of a
key is left. -/
def skipGap (flow : Bool) : Nat → Bool → Cursor → Bool × Cursor
  | 0, keyAllowed, c => (keyAllowed, c)
  | fuel + 1, keyAllowed, c =>
    let c := c.dropWhile fun x => x == ' ' || (x == '\t' && (flow || !keyAllowed))
    let c := if c.rest.head? == some '#' then c.dropWhile fun x => !isBreak x else c
    match c.rest with
    | x :: _ =>
      if isBreak x then skipGap flow fuel (keyAllowed || !flow) c.skipBreak else (keyAllowed, c)
    | [] => (keyAllowed, c)

/-- A mark that has a meaning of its own wherever it stands. -/
def isIndicator (c : Char) : Bool := "-?:,[]\x7b\x7d#&*!|>'\"%@\x60".toList.contains c

/-- A plain scalar may start here. -/
def startsPlain (flow : Bool) : List Char → Bool
  | [] => false
  | c :: cs =>
    !(isSpace c || isBreak c || isIndicator c) ||
      (c == '-' && !(cs.head?.map isSpace).getD false) ||
      (!flow && (c == '?' || c == ':') && !endsWord cs)

/-- The token that starts with a character. -/
def token (r : Reader) (c : Char) (cs : List Char) : Option Reader :=
  let endsMark := r.inFlow || endsWord cs
  if r.mark.column == 0 && c == '%' then r.directive
  else if r.cursor.atDocumentStart then r.documentMark .documentStart
  else if r.cursor.atDocumentEnd then r.documentMark .documentEnd
  else if c == '[' then r.openFlow .flowSequenceStart
  else if c == '{' then r.openFlow .flowMappingStart
  else if c == ']' then r.closeFlow .flowSequenceEnd
  else if c == '}' then r.closeFlow .flowMappingEnd
  else if c == ',' then r.flowEntry
  else if c == '-' && endsWord cs then r.blockEntry
  else if c == '?' && endsMark then r.explicitKey
  else if c == ':' && endsMark then r.value
  else if c == '*' then r.reference
  else if c == '&' then r.anchor
  else if c == '!' then r.tag
  else if c == '|' && !r.inFlow then r.blockScalar true
  else if c == '>' && !r.inFlow then r.blockScalar false
  else if c == '\'' then r.quotedScalar false
  else if c == '"' then r.quotedScalar true
  else if startsPlain r.inFlow (c :: cs) then r.plainScalar
  else none

/-- Reads on by one token, and by the ends of block collections in front of it. -/
def step (r : Reader) : Option Reader :=
  let (keyAllowed, c) := skipGap r.inFlow (r.cursor.rest.length + 1) r.keyAllowed r.cursor
  ({ r with keyAllowed := keyAllowed, cursor := c } : Reader).dropStale?.bind fun r =>
    let r := r.unroll (r.mark.column + 1)
    let next :=
      match r.cursor.rest with
      | [] => r.finish
      | c :: cs => r.token c cs
    next.bind dropStale?

/-! ## The whole text -/

/-- The tokens in front of every kept place. -/
def certain (r : Reader) : List Token :=
  let numbers := (r.key :: r.outerKeys).filterMap fun key => key.map (·.number)
  r.tokens.reverse.take (numbers.foldl min r.tokens.length)

/-- Reads on to the end, or to where the text is not well-formed. -/
def run : Nat → Reader → List Token
  | 0, r => r.certain
  | fuel + 1, r =>
    if r.tokens.head? == some .streamEnd then r.tokens.reverse
    else
      match r.step with
      | some next => run fuel next
      | none => r.certain

end Reader

/-- The text without the mark of its encoding in front. -/
def withoutEncodingMark : List Char → List Char
  | '\uFEFF' :: cs => cs
  | cs => cs

/-- **The tokens of a text**, up to where it is not well-formed.  A character that may not stand in
a text spoils all of it. -/
def Token.scan (text : List Char) : List Token :=
  let text := withoutEncodingMark text
  if text.all isAllowed then
    let c : Cursor := if text.head? == some '\uFEFF' then ⟨⟨1, 0, 1⟩, text.tail⟩ else ⟨{}, text⟩
    Reader.run (text.length + 2) { cursor := c }
  else []

end Rowscript.Yaml
