import Rowscript.Number.Binary64
import Rowscript.Text.Quoted

/-!
# Mismatch — data that is well-formed but not what is wanted

A file may be a correct text and still not hold what is looked for.  A `Mismatch` says what was
found and what was wanted, and `Mismatch.message` is how the user reads it.
-/

namespace Rowscript

/-- What was found, as far as it is told. -/
inductive Found where
  | boolean (b : Bool)
  | integer (n : Int)
  /-- An integer beyond 64 bits. -/
  | wideInteger (n : Int)
  | float (x : Binary64)
  | text (s : String)
  | unit
  | sequence
  | map
  deriving DecidableEq, Repr

/-- What was wanted. -/
inductive Wanted where
  | text
  | boolean
  | integer
  | float
  | null
  | sequence
  | map
  /-- A map with the fields of a known structure. -/
  | record (name : String)
  /-- The name of a field. -/
  | fieldName
  deriving DecidableEq, Repr

/-- The ways in which data is not what is wanted. -/
inductive Mismatch where
  | wrongType (found : Found) (wanted : Wanted)
  /-- The type is announced, and the text is none of it. -/
  | wrongValue (text : String) (wanted : Wanted)
  | missingField (name : String)
  | duplicateField (name : String)
  deriving DecidableEq, Repr

/-- What was found, with its value where it is a single one. -/
def Found.phrase : Found → String
  | boolean b => s!"boolean `{b}`"
  | integer n => s!"integer `{n}`"
  | wideInteger n => if n < 0 then s!"integer `{n}` as i128" else s!"integer `{n}` as u128"
  | float x => s!"floating point `{x.text}`"
  | text s => s!"string {Text.quoted s}"
  | unit => "unit value"
  | sequence => "sequence"
  | map => "map"

/-- What was wanted. -/
def Wanted.phrase : Wanted → String
  | text => "a string"
  | boolean => "a boolean"
  | integer => "an integer"
  | float => "a float"
  | null => "null"
  | sequence => "a sequence"
  | map => "a map"
  | record name => s!"struct {name}"
  | fieldName => "field identifier"

/-- **What the user reads.** -/
def Mismatch.message : Mismatch → String
  | wrongType found wanted => s!"invalid type: {found.phrase}, expected {wanted.phrase}"
  | wrongValue text wanted => s!"invalid value: string {Text.quoted text}, expected {wanted.phrase}"
  | missingField name => s!"missing field `{name}`"
  | duplicateField name => s!"duplicate field `{name}`"

end Rowscript
