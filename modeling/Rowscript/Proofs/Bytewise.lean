import Mathlib.Logic.Relation
import Rowscript.Proofs.Placeholders
import Rowscript.Proofs.Utf8

/-!
# Proofs/Bytewise — expanding a text in its bytes

    written │ literal $ { name } rest
              ^start      ^stop

The bytes of a text can be expanded as they are.  A turn looks for the first opener and for the
first `}` behind it, cuts the bytes at the offsets where it found them, writes the literal and the
value, and goes on with the rest (`Scan.turn`).  A cut inside of a character would be refused.  None
ever is: as long as characters are left, every offset lies between two of them, each turn leaves
fewer bytes to read, and in the end the bytes of the expansion are written
(`Variables.expand_bytewise`).
-/

namespace Rowscript

open Template Utf8

/-! ## The scanner -/

/-- The bytes that have been written, and those that are still to be read. -/
structure Scan where
  written : List UInt8
  rest : List UInt8
  deriving DecidableEq

namespace Scan

/-- The bytes of `${`. -/
def opening : List UInt8 := [0x24, 0x7B]

/-- The bytes of `}`. -/
def closing : List UInt8 := [0x7D]

section

variable (value : List UInt8 → Option (List UInt8))

/-- **One turn**, with the first opener at an offset: the literal is written, and then the value of
the name, or the placeholder as it is.  An opener that is left open is written with all that stands
behind it. -/
def turn (s : Scan) (start : Nat) : Option Scan :=
  (upTo? s.rest start).bind fun literal =>
    (from? s.rest (start + 2)).bind fun inner =>
      match find? closing inner with
      | some stop =>
        (upTo? inner stop).bind fun name =>
          (from? inner (stop + 1)).map fun rest =>
            ⟨s.written ++ literal ++ (value name).getD (opening ++ name ++ closing), rest⟩
      | none => (from? s.rest start).map fun tail => ⟨s.written ++ literal ++ tail, []⟩

variable {value}

/-- **A turn leaves fewer bytes to read.** -/
theorem length_lt_of_turn {s t : Scan} {start : Nat} (found : find? opening s.rest = some start)
    (h : s.turn value start = some t) : t.rest.length < s.rest.length := by
  have some : s.rest ≠ [] := fun none => by rw [none] at found; cases found
  have pos := List.length_pos_iff.2 some
  obtain ⟨literal, -, h⟩ := Option.bind_eq_some_iff.1 h
  obtain ⟨inner, cut, h⟩ := Option.bind_eq_some_iff.1 h
  split at h
  · obtain ⟨name, -, h⟩ := Option.bind_eq_some_iff.1 h
    obtain ⟨rest, cut', rfl⟩ := Option.map_eq_some_iff.1 h
    rw [eq_drop_of_from? cut', eq_drop_of_from? cut, List.length_drop, List.length_drop]
    omega
  · obtain ⟨tail, -, rfl⟩ := Option.map_eq_some_iff.1 h
    exact pos

variable (value)

/-- **The whole scan**: turn after turn, and what is left without an opener is written.  There is no
outcome where a cut is refused. -/
def run (s : Scan) : Option (List UInt8) :=
  match _found : find? opening s.rest with
  | none => some (s.written ++ s.rest)
  | some start =>
    match _turned : s.turn value start with
    | none => none
    | some t => run t
termination_by s.rest.length
decreasing_by exact length_lt_of_turn _found _turned

/-- One turn leads from a scan to another. -/
def Turns (s t : Scan) : Prop :=
  ∃ start, find? opening s.rest = some start ∧ s.turn value start = some t

variable {value}

theorem run_of_turns {s t : Scan} (h : Turns value s t) : run value s = run value t := by
  obtain ⟨start, found, turned⟩ := h
  rw [run]
  split
  case h_1 none => simp_all
  case h_2 other found' =>
    obtain rfl : start = other := Option.some.inj (found.symm.trans found')
    split <;> simp_all

theorem run_of_none {s : Scan} (h : find? opening s.rest = none) :
    run value s = some (s.written ++ s.rest) := by
  rw [run]
  split <;> simp_all

end

/-- **The offsets that a turn uses are boundaries** of the bytes that it cuts there. -/
structure OnBoundaries (rest : List UInt8) (start : Nat) : Prop where
  opener : IsBoundary rest start
  inner : IsBoundary rest (start + 2)
  closer : ∀ stop, find? closing (rest.drop (start + 2)) = some stop →
    IsBoundary (rest.drop (start + 2)) stop ∧ IsBoundary (rest.drop (start + 2)) (stop + 1)

/-! ## Searches -/

/-- A character that starts no opener is passed by. -/
theorem find?_opening_cons {c : Char} {cs : List Char} (h : ¬(c = '$' ∧ cs.head? = some '{')) :
    find? opening (encode (c :: cs)) =
      (find? opening (encode cs)).map ((String.utf8EncodeChar c).length + ·) := by
  by_cases dollar : c = '$'
  · subst dollar
    have unlike : opening.isPrefixOf (0x24 :: encode cs) = false := by
      cases cs with
      | nil => rfl
      | cons d ds =>
        obtain ⟨b, bs, chars⟩ := List.exists_cons_of_ne_nil (String.utf8EncodeChar_ne_nil (c := d))
        have ne : b ≠ 0x7B := by
          rintro rfl
          have brace := eq_of_mem_utf8EncodeChar (a := '{') (by decide)
            (chars ▸ List.mem_cons_self : _ ∈ String.utf8EncodeChar d)
          exact h ⟨rfl, congrArg some brace⟩
        simp [opening, chars, List.isPrefixOf, ne.symm]
    change find? opening (0x24 :: encode cs) = _
    rw [find?, unlike, if_neg Bool.false_ne_true]
    exact congrArg (Option.map · _) (funext fun i => Nat.add_comm i 1)
  · exact find?_encode_cons (a := '$') (by decide) dollar [0x7B] cs

/-- **The first opener stands among the bytes where it stands in the text.** -/
theorem find?_opening (cs : List Char) :
    find? opening (encode cs) = (opening? cs).map fun found => (encode found.1).length := by
  fun_induction opening? cs with
  | case1 cs => rfl
  | case2 => rfl
  | case3 c cs other ih =>
    have unlike : ¬(c = '$' ∧ cs.head? = some '{') := by
      rintro ⟨rfl, head⟩
      obtain ⟨ds, rfl⟩ := List.head?_eq_some_iff.1 head
      exact other ds rfl rfl
    rw [find?_opening_cons unlike, ih, Option.map_map, Option.map_map]
    refine congrArg (Option.map · _) (funext fun found => ?_)
    simp

/-- **So does the first `}`.** -/
theorem find?_closing (cs : List Char) :
    find? closing (encode cs) = (closing? cs).map fun found => (encode found.1).length := by
  fun_induction closing? cs with
  | case1 => rfl
  | case2 cs => rfl
  | case3 c cs other ih =>
    have passed := find?_encode_cons (a := '}') (by decide) other [] cs
    change find? closing _ = (find? closing _).map _ at passed
    rw [passed, ih, Option.map_map, Option.map_map]
    refine congrArg (Option.map · _) (funext fun found => ?_)
    simp

/-! ## Turns among characters -/

section

variable (value : List UInt8 → Option (List UInt8)) {cs literal inner : List Char}

theorem length_opener (literal : List Char) :
    (encode (literal ++ opener)).length = (encode literal).length + 2 := by
  rw [encode_append, List.length_append]
  rfl

theorem length_closer (name : List Char) :
    (encode (name ++ ['}'])).length = (encode name).length + 1 := by
  rw [encode_append, List.length_append]
  rfl

/-- **What a turn does**, said of characters. -/
theorem turn_encode (found : opening? cs = some (literal, inner)) (written : List UInt8) :
    turn value ⟨written, encode cs⟩ (encode literal).length = some
      (match closing? inner with
      | some (name, rest) =>
        ⟨written ++ encode literal ++ (value (encode name)).getD (encode (placeholder name)),
          encode rest⟩
      | none => ⟨written ++ encode literal ++ encode (opener ++ inner), []⟩) := by
  obtain ⟨rfl, -⟩ := opening?_eq_some_iff.1 found
  have front := upTo?_encode literal (opener ++ inner)
  have tail := from?_encode literal (opener ++ inner)
  have behind := from?_encode (literal ++ opener) inner
  rw [← List.append_assoc] at front tail
  rw [length_opener] at behind
  rw [turn, front, Option.bind_some, behind, Option.bind_some, find?_closing]
  cases closed : closing? inner with
  | none => rw [tail]; rfl
  | some found =>
    obtain ⟨name, rest⟩ := found
    obtain ⟨rfl, -⟩ := closing?_eq_some_iff.1 closed
    have text : name ++ '}' :: rest = name ++ ['}'] ++ rest := by simp
    have beforeBrace := upTo?_encode name ('}' :: rest)
    have behindBrace := from?_encode (name ++ ['}']) rest
    rw [length_closer, ← text] at behindBrace
    simp only [Option.map_some, beforeBrace, behindBrace, Option.bind_some]
    have written : opening ++ encode name ++ closing = encode (placeholder name) := by
      change _ = encode (opener ++ name ++ ['}'])
      rw [encode_append, encode_append]
      rfl
    rw [written]

theorem turns_encode (found : opening? cs = some (literal, inner)) (written : List UInt8) :
    Turns value ⟨written, encode cs⟩
      (match closing? inner with
      | some (name, rest) =>
        ⟨written ++ encode literal ++ (value (encode name)).getD (encode (placeholder name)),
          encode rest⟩
      | none => ⟨written ++ encode literal ++ encode (opener ++ inner), []⟩) :=
  ⟨(encode literal).length, by rw [find?_opening, found]; rfl, turn_encode value found written⟩

variable {value}

/-- **The bytes are scanned as the text is cut.** -/
theorem run_encode {names : String → Option String}
    (same : ∀ name, value (encode name) = (names (String.ofList name)).map bytes) (cs : List Char)
    (written : List UInt8) :
    run value ⟨written, encode cs⟩ = some (written ++ encode ((ofChars cs).fill names)) := by
  fun_induction ofChars cs generalizing written with
  | case1 cs none =>
    cases opened : opening? cs with
    | none => exact run_of_none (by rw [find?_opening, opened]; rfl)
    | some found =>
      obtain ⟨literal, inner⟩ := found
      obtain ⟨rfl, -⟩ := opening?_eq_some_iff.1 opened
      rw [first?, opened, Option.bind_some, Option.map_eq_none_iff] at none
      have turned := turns_encode value opened written
      rw [none] at turned
      rw [run_of_turns turned, run_of_none rfl]
      simp [fill]
  | case2 cs literal name rest found t ih =>
    obtain ⟨⟨literal, inner⟩, opened, found⟩ := Option.bind_eq_some_iff.1 found
    obtain ⟨⟨name, rest⟩, closed, found⟩ := Option.map_eq_some_iff.1 found
    cases found
    have turned := turns_encode value opened written
    rw [closed] at turned
    have filled : encode (fillName names name)
        = (value (encode name)).getD (encode (placeholder name)) := by
      rw [same, fillName]
      cases names (String.ofList name) with
      | none => rfl
      | some text => exact (bytes_eq text).symm
    rw [run_of_turns turned, ih]
    simp [fill, filled, t]

theorem exists_opening?_of_find? {start : Nat} (h : find? opening (encode cs) = some start) :
    ∃ literal inner, opening? cs = some (literal, inner) ∧ (encode literal).length = start := by
  rw [find?_opening] at h
  obtain ⟨⟨literal, inner⟩, found, length⟩ := Option.map_eq_some_iff.1 h
  exact ⟨literal, inner, found, length⟩

/-- **No offset lies inside of a character.** -/
theorem onBoundaries_encode {start : Nat} (h : find? opening (encode cs) = some start) :
    OnBoundaries (encode cs) start := by
  obtain ⟨literal, inner, found, rfl⟩ := exists_opening?_of_find? h
  obtain ⟨rfl, -⟩ := opening?_eq_some_iff.1 found
  have behind : (encode (literal ++ opener ++ inner)).drop ((encode literal).length + 2)
      = encode inner := by
    rw [← length_opener]
    exact (eq_drop_of_from? (from?_encode (literal ++ opener) inner)).symm
  refine ⟨?_, ?_, ?_⟩
  · rw [List.append_assoc]
    exact isBoundary_encode literal (opener ++ inner)
  · rw [← length_opener]
    exact isBoundary_encode (literal ++ opener) inner
  · rw [behind]
    intro stop stops
    rw [find?_closing] at stops
    obtain ⟨⟨name, rest⟩, closed, rfl⟩ := Option.map_eq_some_iff.1 stops
    obtain ⟨rfl, -⟩ := closing?_eq_some_iff.1 closed
    refine ⟨isBoundary_encode name ('}' :: rest), ?_⟩
    rw [← length_closer, List.append_cons]
    exact isBoundary_encode (name ++ ['}']) rest

/-- Whatever is left to read are characters. -/
theorem exists_encode_of_reaches {s : Scan}
    (h : Relation.ReflTransGen (Turns value) ⟨[], encode cs⟩ s) : ∃ ds, s.rest = encode ds := by
  induction h with
  | refl => exact ⟨cs, rfl⟩
  | @tail s t _ turned ih =>
    obtain ⟨start, found, turned⟩ := turned
    obtain ⟨ds, chars⟩ := ih
    obtain ⟨written, rest⟩ := s
    obtain rfl : rest = encode ds := chars
    obtain ⟨literal, inner, opened, rfl⟩ := exists_opening?_of_find? found
    rw [turn_encode value opened written] at turned
    cases turned
    cases closing? inner with
    | none => exact ⟨[], rfl⟩
    | some found => exact ⟨found.2, rfl⟩

end

end Scan

namespace Variables

/-- The value of a name, in bytes. -/
def bytes? (v : Variables) (name : List UInt8) : Option (List UInt8) :=
  (v.entries.map fun entry => (bytes entry.1, bytes entry.2)).lookup name

theorem bytes?_encode (v : Variables) (name : List Char) :
    v.bytes? (encode name) = (v.get? (String.ofList name)).map bytes := by
  rw [← bytes_ofList, bytes?, get?]
  induction v.entries with
  | nil => rfl
  | cons entry entries ih =>
    have same : (bytes (String.ofList name) == bytes entry.1) =
        (String.ofList name == entry.1) := by
      rw [Bool.eq_iff_iff, beq_iff_eq, beq_iff_eq, bytes_injective.eq_iff]
    rw [List.map_cons, List.lookup_cons, List.lookup_cons, same, ih]
    split <;> rfl

/-- **A text may be expanded in its bytes.**  Whichever turn a scan has come to, the offsets of the
opener and of the `}` lie between two characters of what they are offsets into, so nothing is
refused, and fewer bytes are left to read.  So the scan ends, and what it has written are the bytes
of the text as it expands. -/
theorem expand_bytewise (v : Variables) (text : String) :
    (∀ s, Relation.ReflTransGen (Scan.Turns v.bytes?) ⟨[], bytes text⟩ s →
      ∀ start, find? Scan.opening s.rest = some start →
        Scan.OnBoundaries s.rest start ∧
          ∃ t, s.turn v.bytes? start = some t ∧ t.rest.length < s.rest.length) ∧
    Scan.run v.bytes? ⟨[], bytes text⟩ = some (bytes (v.expand text)) := by
  rw [bytes_eq text]
  refine ⟨fun s reached start found => ?_, ?_⟩
  · obtain ⟨ds, chars⟩ := Scan.exists_encode_of_reaches reached
    obtain ⟨written, rest⟩ := s
    obtain rfl : rest = encode ds := chars
    refine ⟨Scan.onBoundaries_encode found, ?_⟩
    obtain ⟨literal, inner, opened, rfl⟩ := Scan.exists_opening?_of_find? found
    have turned := Scan.turn_encode v.bytes? opened written
    exact ⟨_, turned, Scan.length_lt_of_turn found turned⟩
  · rw [Scan.run_encode v.bytes?_encode, expand, bytes_ofList, List.nil_append]

/-- Characters of two, three and four bytes next to the signs: the first opener stands two bytes in,
behind the `é`. -/
theorem expand_bytewise_accents :
    let v := Variables.ofList [("ü", "€")]
    let text := "é$\x7bü\x7d😀$\x7b"
    Scan.OnBoundaries (bytes text) 2 ∧
      Scan.run v.bytes? ⟨[], bytes text⟩ = some (bytes "é€😀$\x7b") := by
  intro v text
  obtain ⟨safe, whole⟩ := expand_bytewise v text
  have found : find? Scan.opening (bytes text) = some 2 := by rw [bytes_eq]; decide
  have text' : v.expand text = "é€😀$\x7b" := by decide +kernel
  exact ⟨(safe _ .refl 2 found).1, text' ▸ whole⟩

end Variables

end Rowscript
