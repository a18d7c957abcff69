/-!
# Text/Styled — text with the colours of a terminal

A style puts a start code in front of a text and a reset behind it.  A reset inside the text would
end the style early, so each is followed by the start code again.  Without colours a text stays as
it is.
-/

namespace Rowscript.Text

/-- The colours in use. -/
inductive Colour where
  | red
  | green
  | yellow
  | blue
  | cyan
  | white
  deriving DecidableEq, Repr

/-- The parameter that turns the foreground to a colour. -/
def Colour.code : Colour → String
  | red => "31"
  | green => "32"
  | yellow => "33"
  | blue => "34"
  | cyan => "36"
  | white => "37"

/-- How a text is to look. -/
structure Style where
  bold : Bool := false
  dimmed : Bool := false
  colour : Option Colour := none
  deriving DecidableEq, Repr

namespace Style

/-- The end of a style. -/
def reset : List Char := ['\x1b', '[', '0', 'm']

/-- The start of a style: its weights first, then its colour. -/
def start (style : Style) : List Char :=
  let codes :=
    (if style.bold then ["1"] else []) ++ (if style.dimmed then ["2"] else []) ++
      (style.colour.map Colour.code).toList
  '\x1b' :: '[' :: (";".intercalate codes).toList ++ ['m']

/-- Puts `again` behind every reset. -/
def resume (again : List Char) : List Char → List Char
  | '\x1b' :: '[' :: '0' :: 'm' :: cs => reset ++ again ++ resume again cs
  | [] => []
  | c :: cs => c :: resume again cs

/-- **A text in a style**, or as it is where there are no colours. -/
def apply (style : Style) (coloured : Bool) (text : String) : String :=
  if coloured then
    String.ofList (style.start ++ resume style.start text.toList ++ reset)
  else text

end Style

end Rowscript.Text
