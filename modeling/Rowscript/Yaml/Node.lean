import Rowscript.Yaml.Scalar

/-!
# Yaml/Node — the tree of a document

A node is a text, a sequence or a mapping, or it stands for another node of the document.  Where a
text stops to be well-formed the tree is `torn`; what lies in front of that place is known all the
same.
-/

namespace Rowscript.Yaml

/-- A node.  Its anchor is the number by which others stand for it. -/
inductive Node where
  | scalar (anchor : Option Nat) (content : Scalar)
  | sequence (anchor : Option Nat) (items : List Node)
  | mapping (anchor : Option Nat) (entries : List (Node × Node))
  /-- The node with a number. -/
  | reference (number : Nat)
  /-- Reading broke off here. -/
  | torn

namespace Node

/-- Nothing, where a node could stand. -/
def empty : Node := scalar none .empty

/-! ## Whole trees -/

mutual

/-- Reading did not break off in the node. -/
def isWhole : Node → Bool
  | scalar .. => true
  | sequence _ items => areWhole items
  | mapping _ entries => entriesAreWhole entries
  | reference _ => true
  | torn => false

def areWhole : List Node → Bool
  | [] => true
  | n :: ns => n.isWhole && areWhole ns

def entriesAreWhole : List (Node × Node) → Bool
  | [] => true
  | (k, v) :: es => k.isWhole && v.isWhole && entriesAreWhole es

end

/-! ## Events

A tree is written down as a row of events: one for a text and for a node that stands for another,
and one each for the start and the end of a collection. -/

mutual

/-- How many events a node is written down as, up to where reading broke off. -/
def events : Node → Nat
  | scalar .. => 1
  | sequence _ items => 1 + allEvents items + if areWhole items then 1 else 0
  | mapping _ entries => 1 + entriesEvents entries + if entriesAreWhole entries then 1 else 0
  | reference _ => 1
  | torn => 0

def allEvents : List Node → Nat
  | [] => 0
  | n :: ns => n.events + allEvents ns

def entriesEvents : List (Node × Node) → Nat
  | [] => 0
  | (k, v) :: es => k.events + v.events + entriesEvents es

end

/-! ## Numbered nodes -/

/-- A node under its number, if it has one. -/
def numbered (anchor : Option Nat) (n : Node) : List (Nat × Node) :=
  anchor.toList.map fun number => (number, n)

mutual

/-- The nodes with numbers, in the order in which they start. -/
def anchored : Node → List (Nat × Node)
  | scalar anchor content => numbered anchor (scalar anchor content)
  | sequence anchor items => numbered anchor (sequence anchor items) ++ allAnchored items
  | mapping anchor entries => numbered anchor (mapping anchor entries) ++ entriesAnchored entries
  | reference _ => []
  | torn => []

def allAnchored : List Node → List (Nat × Node)
  | [] => []
  | n :: ns => n.anchored ++ allAnchored ns

def entriesAnchored : List (Node × Node) → List (Nat × Node)
  | [] => []
  | (k, v) :: es => k.anchored ++ v.anchored ++ entriesAnchored es

end

end Node

/-- A document, and whether the text is well-formed to its end and holds no other. -/
structure Document where
  root : Node
  isWhole : Bool

/-- **The node with a number**: the last that got it. -/
def Document.target? (d : Document) (number : Nat) : Option Node :=
  d.root.anchored.reverse.lookup number

end Rowscript.Yaml
