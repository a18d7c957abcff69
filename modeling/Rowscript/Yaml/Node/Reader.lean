import Rowscript.Yaml.Node
import Rowscript.Yaml.Token

/-!
# Yaml/Node/Reader — from tokens to the tree

Each reader takes the tokens and gives a `Part`: what it read, and the tokens behind it.  Where the
tokens end too early, or the next one makes no sense, reading breaks off and the tree is torn there;
a collection that has been started is kept up to that place.

`Node.read` reads one node.  The other readers are given a reader for the nodes inside.
-/

namespace Rowscript.Yaml

/-- Something read, and the tokens behind it; none if reading broke off. -/
structure Part (α : Type) where
  value : α
  rest : Option (List Token)

namespace Part

/-- Reading breaks off at a node. -/
def torn : Part Node := ⟨.torn, none⟩

/-- What was read becomes something else. -/
def map {α β : Type} (f : α → β) (p : Part α) : Part β := ⟨f p.value, p.rest⟩

/-- A key and what is read behind it. -/
def entry (key : Part Node) (value : List Token → Part Node) : Part (Node × Node) :=
  match key.rest with
  | none => ⟨(key.value, .torn), none⟩
  | some ts => (value ts).map fun v => (key.value, v)

end Part

namespace Node

/-! ## Collections -/

/-- A collection goes on with an element, or ends. -/
inductive Next (α : Type) where
  | element (part : Part α)
  | done (rest : List Token)

/-- Reads elements up to the end of the collection.  `next` is told whether it reads the first. -/
def collect {α : Type} (next : Bool → List Token → Next α) :
    Nat → Bool → List Token → Part (List α)
  | 0, _, _ => ⟨[], none⟩
  | fuel + 1, first, ts =>
    match next first ts with
    | .done rest => ⟨[], some rest⟩
    | .element ⟨a, none⟩ => ⟨[a], none⟩
    | .element ⟨a, some rest⟩ => (collect next fuel false rest).map (a :: ·)

/-- Nothing in front of the tokens that `stops` names, and else a node. -/
def orEmpty (stops : Token → Bool) (read : List Token → Part Node) : List Token → Part Node
  | [] => .torn
  | t :: ts => if stops t then ⟨.empty, some (t :: ts)⟩ else read (t :: ts)

/-- The value behind a key; nothing if none is given. -/
def valueOf (stops : Token → Bool) (read : List Token → Part Node) : List Token → Part Node
  | [] => .torn
  | .value :: ts => orEmpty stops read ts
  | ts => ⟨.empty, some ts⟩

/-! ### In lines -/

def endsBlockItem (t : Token) : Bool := t == .blockEntry || t == .blockEnd

def endsBlockNode (t : Token) : Bool := t == .key || t == .value || t == .blockEnd

def endsIndentlessItem (t : Token) : Bool := t == .blockEntry || endsBlockNode t

/-- The next item of a block sequence. -/
def blockItem (read : List Token → Part Node) (_first : Bool) : List Token → Next Node
  | .blockEntry :: ts => .element (orEmpty endsBlockItem read ts)
  | .blockEnd :: ts => .done ts
  | _ => .element .torn

/-- The next item of a block sequence that is indented no more than the mapping around it. -/
def indentlessItem (read : List Token → Part Node) (_first : Bool) : List Token → Next Node
  | .blockEntry :: ts => .element (orEmpty endsIndentlessItem read ts)
  | [] => .element .torn
  | ts => .done ts

/-- The next entry of a block mapping. -/
def blockEntry (read : List Token → Part Node) (_first : Bool) : List Token → Next (Node × Node)
  | .key :: ts => .element ((orEmpty endsBlockNode read ts).entry (valueOf endsBlockNode read))
  | .blockEnd :: ts => .done ts
  | _ => .element (Part.torn.map fun n => (n, n))

/-! ### Between brackets -/

def endsFlowItem (t : Token) : Bool := t == .flowEntry || t == .flowSequenceEnd

def endsFlowEntry (t : Token) : Bool := t == .flowEntry || t == .flowMappingEnd

/-- The key of a mapping without brackets.  Where there is none the token in its place is lost. -/
def pairKey (read : List Token → Part Node) : List Token → Part Node
  | [] => .torn
  | t :: ts => if t == .value || endsFlowItem t then ⟨.empty, some ts⟩ else read (t :: ts)

/-- A mapping of one entry and without brackets, as an item of a sequence. -/
def pair (read : List Token → Part Node) (ts : List Token) : Part Node :=
  match (pairKey read ts).entry (valueOf endsFlowItem read) with
  | ⟨entry, some (t :: ts)⟩ => ⟨.mapping none [entry], some (t :: ts)⟩
  | ⟨entry, some []⟩ => ⟨.mapping none [entry, (.torn, .torn)], none⟩
  | ⟨entry, none⟩ => ⟨.mapping none [entry], none⟩

/-- What stands behind the comma in front of a further element. -/
def afterComma? (first : Bool) (ts : List Token) : Option (List Token) :=
  if first then some ts
  else
    match ts with
    | .flowEntry :: ts => some ts
    | _ => none

/-- The next item between square brackets. -/
def flowItem (read : List Token → Part Node) (first : Bool) (ts : List Token) : Next Node :=
  match ts with
  | .flowSequenceEnd :: ts => .done ts
  | _ =>
    match afterComma? first ts with
    | some (.key :: ts) => .element (pair read ts)
    | some (.flowSequenceEnd :: ts) => .done ts
    | some (t :: ts) => .element (read (t :: ts))
    | _ => .element .torn

/-- The next entry between braces. -/
def flowEntry (read : List Token → Part Node) (first : Bool) (ts : List Token) :
    Next (Node × Node) :=
  match ts with
  | .flowMappingEnd :: ts => .done ts
  | _ =>
    match afterComma? first ts with
    | some (.key :: ts) =>
      let key := orEmpty (fun t => t == .value || endsFlowEntry t) read ts
      .element (key.entry (valueOf endsFlowEntry read))
    | some (.flowMappingEnd :: ts) => .done ts
    | some (t :: ts) => .element ((read (t :: ts)).entry (orEmpty (fun _ => true) read))
    | _ => .element (Part.torn.map fun n => (n, n))

/-! ## Nodes -/

/-- What stands in front of a node. -/
structure Properties where
  anchor : Option Nat := none
  tag : Option String := none

/-- The tag of a handle and a suffix, if the handle has a meaning. -/
def tag? (handles : List (String × String)) (handle suffix : String) : Option String :=
  if handle.isEmpty then some suffix else (handles.lookup handle).map (· ++ suffix)

/-- An anchor and a tag, in either order, and the tokens behind them. -/
def properties? (handles : List (String × String)) :
    List Token → Option (Properties × List Token)
  | .anchor n :: .tag handle suffix :: ts | .tag handle suffix :: .anchor n :: ts =>
    (tag? handles handle suffix).map fun tag => (⟨some n, some tag⟩, ts)
  | .anchor n :: ts => some (⟨some n, none⟩, ts)
  | .tag handle suffix :: ts =>
    (tag? handles handle suffix).map fun tag => (⟨none, some tag⟩, ts)
  | ts => some ({}, ts)

/-- A text with its properties.  The tag that is only a mark says nothing. -/
def ofScalar (p : Properties) (text : String) (plain : Bool) : Node :=
  scalar p.anchor ⟨text, plain, p.tag.filter (· != "!")⟩

/-- Nothing but properties; without any there has to be a node. -/
def ofProperties (p : Properties) (ts : List Token) : Part Node :=
  if p.anchor.isSome || p.tag.isSome then ⟨scalar p.anchor ⟨"", true, p.tag⟩, some ts⟩ else .torn

/-- **Reads a node.**  Only where lines structure the text may it be a block collection, and only
as part of a block mapping one that is not indented. -/
def read (handles : List (String × String)) :
    Nat → (block indentless : Bool) → List Token → Part Node
  | 0, _, _, _ => .torn
  | fuel + 1, block, indentless, ts =>
    match ts with
    | .reference (some n) :: ts => ⟨reference n, some ts⟩
    | .reference none :: _ => .torn
    | ts =>
      match properties? handles ts with
      | none => .torn
      | some (p, ts) =>
        let elements := ts.length + 1
        let inLines := read handles fuel true false
        let asEntry := read handles fuel true true
        let inBrackets := read handles fuel false false
        match ts with
        | [] => .torn
        | .scalar text plain :: ts => ⟨ofScalar p text plain, some ts⟩
        | .flowSequenceStart :: ts =>
          (collect (flowItem inBrackets) elements true ts).map (sequence p.anchor)
        | .flowMappingStart :: ts =>
          (collect (flowEntry inBrackets) elements true ts).map (mapping p.anchor)
        | .blockEntry :: rest =>
          if indentless then
            (collect (indentlessItem inLines) elements true (.blockEntry :: rest)).map
              (sequence p.anchor)
          else ofProperties p (.blockEntry :: rest)
        | .blockSequenceStart :: rest =>
          if block then (collect (blockItem inLines) elements true rest).map (sequence p.anchor)
          else ofProperties p (.blockSequenceStart :: rest)
        | .blockMappingStart :: rest =>
          if block then (collect (blockEntry asEntry) elements true rest).map (mapping p.anchor)
          else ofProperties p (.blockMappingStart :: rest)
        | ts => ofProperties p ts

end Node

end Rowscript.Yaml
