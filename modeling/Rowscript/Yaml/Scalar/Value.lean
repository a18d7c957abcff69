import Rowscript.Mismatch
import Rowscript.Number.Word
import Rowscript.Yaml.Scalar

/-!
# Yaml/Scalar/Value — what a text in a document means

A plain text may mean nothing, a truth value or a number; every other text means itself.  A tag of
the standard types asks for one of them.
-/

namespace Rowscript.Yaml.Scalar

/-! ## Plain texts -/

/-- The words for nothing. -/
def isNull (text : String) : Bool := ["null", "Null", "NULL", "~"].contains text

def boolean? (text : String) : Option Bool :=
  if ["true", "True", "TRUE"].contains text then some true
  else if ["false", "False", "FALSE"].contains text then some false
  else none

/-- The value of a digit up to `base`. -/
def digit? (base : Nat) (c : Char) : Option Nat := (hexDigit? c).filter (· < base)

/-- The value of a run of digits behind digits of value `acc`. -/
def digits? (base : Nat) (acc : Nat) : List Char → Option Nat
  | [] => some acc
  | c :: cs => (digit? base c).bind fun d => digits? base (base * acc + d) cs

/-- The value of a natural number in a base; it has a digit at least. -/
def natural? (base : Nat) : List Char → Option Nat
  | [] => none
  | c :: cs => digits? base 0 (c :: cs)

/-- The base that a zero and a letter announce, and what stands behind them. -/
def base? : List Char → Option (Nat × List Char)
  | '0' :: 'x' :: cs => some (16, cs)
  | '0' :: 'o' :: cs => some (8, cs)
  | '0' :: 'b' :: cs => some (2, cs)
  | _ => none

/-- More digits behind a leading zero: such a text is no number. -/
def hasLeadingZero (cs : List Char) : Bool :=
  let digits := match cs with
    | '-' :: cs | '+' :: cs => cs
    | cs => cs
  match digits with
  | '0' :: c :: cs => (c :: cs).all Char.isDigit
  | _ => false

/-- The size of an integer: with a base announced, or with ten. -/
def magnitude? (whole cs : List Char) : Option Nat :=
  match (base? cs).bind fun (base, digits) => natural? base digits with
  | some n => some n
  | none => if hasLeadingZero whole then none else natural? 10 cs

/-- The integer of a text, of any size. -/
def anyInteger? (text : String) : Option Int :=
  let cs := text.toList
  match cs with
  | '-' :: rest => (magnitude? cs rest).map fun n => -(n : Int)
  | '+' :: rest => (magnitude? cs rest).map fun n => (n : Int)
  | _ => (magnitude? cs cs).map fun n => (n : Int)

/-- **The integer of a text**, of 128 bits at most; those beyond 64 bits are told apart. -/
def integer? (text : String) : Option Found :=
  (anyInteger? text).bind fun n =>
    if Word.isBetween Word.maxSigned64 Word.maxUnsigned64 n then some (.integer n)
    else if Word.isBetween Word.maxSigned128 Word.maxUnsigned128 n then some (.wideInteger n)
    else none

/-- **The number of a text**, finite or one of the three others. -/
def float? (text : String) : Option Binary64 :=
  if [".inf", ".Inf", ".INF", "+.inf", "+.Inf", "+.INF"].contains text then some (.infinite false)
  else if ["-.inf", "-.Inf", "-.INF"].contains text then some (.infinite true)
  else if [".nan", ".NaN", ".NAN"].contains text then some .notANumber
  else
    let (negative, digits) := match text.toList with
      | '-' :: cs => (true, cs)
      | '+' :: cs => (false, cs)
      | cs => (false, cs)
    ((Decimal.read? digits).map (Binary64.ofDecimal negative)).filter (·.isFinite)

/-- **What a plain text means.** -/
def meaning (text : String) : Found :=
  if text.isEmpty || isNull text then .unit
  else
    match boolean? text, integer? text with
    | some b, _ => .boolean b
    | none, some n => n
    | none, none =>
      if hasLeadingZero text.toList then .text text
      else ((float? text).map .float).getD (.text text)

/-! ## Texts with tags -/

/-- The standard types that a tag can ask for. -/
def announced? (tag : String) : Option (Wanted × (String → Option Found)) :=
  match tag with
  | "tag:yaml.org,2002:bool" => some (.boolean, fun text => (boolean? text).map .boolean)
  | "tag:yaml.org,2002:int" => some (.integer, integer?)
  | "tag:yaml.org,2002:float" => some (.float, fun text => (float? text).map .float)
  | "tag:yaml.org,2002:null" => some (.null, fun text => if isNull text then some .unit else none)
  | _ => none

/-- What is told of a text where something else is wanted. -/
def mismatch (s : Scalar) (wanted : Wanted) : Mismatch :=
  let itself := Mismatch.wrongType (.text s.text) wanted
  let plain := if s.plain then Mismatch.wrongType (meaning s.text) wanted else itself
  match s.tag with
  | none => plain
  | some tag =>
    match announced? tag with
    | some (type, read) =>
      match read s.text with
      | some found => .wrongType found wanted
      | none => .wrongValue s.text type
    | none => if tag.startsWith "!" then plain else itself

/-- Nothing is written: neither a character nor a quote. -/
def isBlank (s : Scalar) : Bool := s.plain && s.text.isEmpty

end Rowscript.Yaml.Scalar
