import Rowscript.Yaml.Node.Reader
import Rowscript.Yaml.Token.Reader

/-!
# Yaml/Document — the document of a text

Directives, the document itself, and what may stand behind it.  A text without a document is a
document with nothing in it.
-/

namespace Rowscript.Yaml

/-- What the directives in front of a document say. -/
structure Preamble where
  versioned : Bool := false
  handles : List (String × String) := []

namespace Preamble

/-- The handles that have a meaning without a directive. -/
def standardHandles : List (String × String) := [("!", "!"), ("!!", "tag:yaml.org,2002:")]

/-- Reads directives.  A second version, or a second meaning of a handle, is refused, and so is a
version other than 1.1 and 1.2. -/
def read (p : Preamble) : List Token → Option (Preamble × List Token)
  | .versionDirective major minor :: ts =>
    if p.versioned || major != 1 || (minor != 1 && minor != 2) then none
    else read { p with versioned := true } ts
  | .tagDirective handle meaning :: ts =>
    if (p.handles.lookup handle).isSome then none
    else read { p with handles := p.handles ++ [(handle, meaning)] } ts
  | ts => some (p, ts)

end Preamble

namespace Document

def isDirective : Token → Bool
  | .versionDirective .. | .tagDirective .. => true
  | _ => false

/-- Nothing stands in front of these in a document that was started. -/
def endsContent (t : Token) : Bool :=
  isDirective t || t == .documentStart || t == .documentEnd || t == .streamEnd

/-- The root behind the sign that starts a document. -/
def content (handles : List (String × String)) (ts : List Token) : Part Node :=
  Node.orEmpty endsContent (Node.read handles (ts.length + 1) true false) ts

/-- The root of the first document. -/
def first : List Token → Part Node
  | [] => .torn
  | .streamEnd :: ts => ⟨.empty, some (.streamEnd :: ts)⟩
  | t :: ts =>
    if isDirective t || t == .documentStart then
      match ({} : Preamble).read (t :: ts) with
      | some (p, .documentStart :: ts) => content (p.handles ++ Preamble.standardHandles) ts
      | _ => .torn
    else Node.read Preamble.standardHandles (ts.length + 2) true false (t :: ts)

/-- **The document of the tokens of a text.** -/
def ofTokens (ts : List Token) : Document :=
  let root := first ts
  let ends := root.rest.any fun rest => rest.dropWhile (· == .documentEnd) == [.streamEnd]
  ⟨root.value, ends⟩

/-- **The document of a text.** -/
def ofText (text : String) : Document := ofTokens (Token.scan text.toList)

end Document

end Rowscript.Yaml
