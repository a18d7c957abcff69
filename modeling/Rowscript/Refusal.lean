import Rowscript.Mismatch

/-!
# Refusal — why a text is refused, and where

Either the text is not well-formed, or its nodes stand for others too often, or what it holds at some
`Place` is a `Mismatch`.  Only the last has a reason that can be told.
-/

namespace Rowscript

/-- A place in structured data. -/
inductive Place where
  | root
  | item (parent : Place) (index : Nat)
  | member (parent : Place) (name : String)
  /-- The value of a key that is not spelled out. -/
  | unnamed (parent : Place)
  deriving DecidableEq, Repr

/-- The names and numbers on the way to a place, and a point in front of each name but the first. -/
def Place.text : Place → String
  | root => ""
  | item parent index => s!"{parent.text}[{index}]"
  | member root name => name
  | member parent name => s!"{parent.text}.{name}"
  | unnamed root => "?"
  | unnamed parent => s!"{parent.text}.?"

/-- Why a text is refused. -/
inductive Refusal where
  /-- The text is not well-formed. -/
  | malformed
  /-- Too many nodes stand for others. -/
  | repetitive
  | mismatch (place : Place) (what : Mismatch)
  deriving DecidableEq, Repr

namespace Refusal

/-- What is wrong with the data, behind the place where it is. -/
def reason? : Refusal → Option String
  | malformed | repetitive => none
  | mismatch place what =>
    some (if place == .root then what.message else s!"{place.text}: {what.message}")

/-- What the user reads. -/
def message : Refusal → String
  | repetitive => "repetition limit exceeded"
  | r => r.reason?.getD "the text is not well-formed"

end Refusal

end Rowscript
