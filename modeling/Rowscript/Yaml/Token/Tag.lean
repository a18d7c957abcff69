import Rowscript.Text.Numeral
import Rowscript.Yaml.Scalar.Quoted
import Rowscript.Yaml.Token

/-!
# Yaml/Token/Tag — tags and the directives in front of a document

A tag is a handle and a suffix.  A directive says which version a document is written for, or what a
handle stands for; no other directive is known.
-/

namespace Rowscript.Yaml

/-- The cursor at `rest`, which lies on the same line. -/
def Cursor.upTo (c : Cursor) (rest : List Char) : Cursor := c.skip (c.rest.length - rest.length)

namespace Tag

/-! ## The characters of a tag -/

/-- The characters that stand for themselves; commas and square brackets only in some places. -/
def isMeaningChar (brackets : Bool) (c : Char) : Bool :=
  isNameChar c || ";/?:@&=+$.!~*'()".toList.contains c || (brackets && ",[]".toList.contains c)

/-- The bytes of a character: how many follow the first of them, and what that says. -/
def lead? (byte : Nat) : Option (Nat × Nat) :=
  if byte < 0x80 then some (0, byte)
  else if 0xC0 ≤ byte && byte < 0xE0 then some (1, byte - 0xC0)
  else if 0xE0 ≤ byte && byte < 0xF0 then some (2, byte - 0xE0)
  else if 0xF0 ≤ byte && byte < 0xF8 then some (3, byte - 0xF0)
  else none

/-- The character of a code point that was spelled with `following` bytes behind the first.  A
spelling with more bytes than it takes is no character. -/
def ofBytes (following code : Nat) : Char :=
  let least := match following with
    | 0 => 0
    | 1 => 0x80
    | 2 => 0x800
    | _ => 0x10000
  if code < least then '\uFFFD' else (Quoted.ofCode? code).getD '\uFFFD'

/-- Reads characters and escaped bytes.  While `more` of `following` bytes are to come, `code` is
what the bytes in front of them say. -/
def meaning (brackets : Bool) (following more code : Nat) :
    List Char → Option (List Char × List Char)
  | '%' :: high :: low :: cs =>
    (hexDigit? high).bind fun high => (hexDigit? low).bind fun low =>
      let byte := 16 * high + low
      match more with
      | 0 =>
        (lead? byte).bind fun (following, code) =>
          if following == 0 then
            (meaning brackets 0 0 0 cs).map fun (text, rest) => (ofBytes 0 code :: text, rest)
          else meaning brackets following following code cs
      | more + 1 =>
        if 0x80 ≤ byte && byte < 0xC0 then
          let code := 64 * code + (byte - 0x80)
          if more == 0 then
            (meaning brackets 0 0 0 cs).map fun (text, rest) =>
              (ofBytes following code :: text, rest)
          else meaning brackets following more code cs
        else none
  | [] => if more == 0 then some ([], []) else none
  | c :: cs =>
    if more != 0 || c == '%' then none
    else if isMeaningChar brackets c then
      (meaning brackets 0 0 0 cs).map fun (text, rest) => (c :: text, rest)
    else some ([], c :: cs)

/-! ## Tags -/

/-- An exclamation mark, a name, and another mark if one comes next. -/
def handle? (c : Cursor) : Option (List Char × Cursor) :=
  match c.rest with
  | '!' :: _ =>
    let (name, c) := (c.skip 1).takeWhile isNameChar
    match c.rest with
    | '!' :: _ => some ('!' :: name ++ ['!'], c.skip 1)
    | _ => some ('!' :: name, c)
  | _ => none

/-- A tag without handle, between angles. -/
def verbatim? (c : Cursor) : Option (Token × Cursor) :=
  (meaning true 0 0 0 (c.rest.drop 2)).bind fun (suffix, rest) =>
    match suffix, rest with
    | _ :: _, '>' :: _ => some (.tag "" (String.ofList suffix), (c.upTo rest).skip 1)
    | _, _ => none

/-- A tag with a handle of its own, or with the mark for one. -/
def shorthand? (c : Cursor) : Option (Token × Cursor) :=
  (handle? c).bind fun (handle, c) =>
    (meaning false 0 0 0 c.rest).bind fun (suffix, rest) =>
      let c := c.upTo rest
      match handle.tail, handle.length != 1 && handle.getLast? == some '!', suffix with
      | _, true, [] => none
      | _, true, _ => some (.tag (String.ofList handle) (String.ofList suffix), c)
      | [], false, [] => some (.tag "" "!", c)
      | name, false, _ => some (.tag "!" (String.ofList (name ++ suffix)), c)

/-- **Reads a tag**, behind which a word ends. -/
def read (flow : Bool) (c : Cursor) : Option (Token × Cursor) :=
  let tag := if (c.rest.drop 1).head? == some '<' then verbatim? c else shorthand? c
  tag.filter fun (_, c) => endsWord c.rest || (flow && c.rest.head? == some ',')

end Tag

namespace Directive

/-- Nine digits at most. -/
def number? (c : Cursor) : Option (Nat × Cursor) :=
  let (digits, c) := c.takeWhile fun x => (Text.digit? x).isSome
  if digits.length ≤ 9 then (Text.natural? digits).map fun n => (n, c) else none

/-- Two numbers with a point between them. -/
def version? (c : Cursor) : Option (Token × Cursor) :=
  (number? (c.dropWhile isSpace)).bind fun (major, c) =>
    match c.rest with
    | '.' :: _ => (number? (c.skip 1)).map fun (minor, c) => (.versionDirective major minor, c)
    | _ => none

/-- A handle and what it stands for. -/
def tag? (c : Cursor) : Option (Token × Cursor) :=
  (Tag.handle? (c.dropWhile isSpace)).bind fun (handle, c) =>
    let complete := handle == ['!'] || (handle.length != 1 && handle.getLast? == some '!')
    if !complete || !(c.rest.head?.map isSpace).getD false then none
    else
      let c := c.dropWhile isSpace
      (Tag.meaning true 0 0 0 c.rest).bind fun (meaning, rest) =>
        if meaning.isEmpty || !endsWord rest then none
        else some (.tagDirective (String.ofList handle) (String.ofList meaning), c.upTo rest)

/-- **Reads a directive** and the rest of its line. -/
def read (c : Cursor) : Option (Token × Cursor) :=
  let (name, c) := (c.skip 1).takeWhile isNameChar
  if !endsWord c.rest then none
  else
    let directive :=
      if name == "YAML".toList then version? c
      else if name == "TAG".toList then tag? c
      else none
    directive.bind fun (token, c) =>
      let c := c.skipComment
      if endsLine c.rest then some (token, c.skipBreak) else none

end Directive

end Rowscript.Yaml
