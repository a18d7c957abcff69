import Mathlib.Data.List.Basic

/-!
# Proofs/Utf8 — texts as bytes, and offsets into them

    a       $   {   é       }
    61      24  7B  C3  A9  7D
    ^0      ^1  ^2  ^3      ^5  ^6

A character takes one to four bytes, and a byte of an ASCII character is a part of no other
character (`Utf8.eq_of_mem_utf8EncodeChar`).  An offset is a boundary if it lies between two
characters (`Utf8.IsBoundary`), and the byte behind it tells whether it does (`Utf8.startsAt_iff`).
Slices are taken at boundaries only: at any other offset there is none (`Utf8.upTo?`, `Utf8.from?`).
-/

namespace Rowscript.Utf8

/-! ## Bytes -/

/-- The bytes of characters. -/
def encode (cs : List Char) : List UInt8 := cs.flatMap String.utf8EncodeChar

/-- **The bytes of a text.** -/
def bytes (text : String) : List UInt8 := text.toByteArray.data.toList

@[simp] theorem encode_nil : encode [] = [] := rfl

@[simp] theorem encode_cons (c : Char) (cs : List Char) :
    encode (c :: cs) = String.utf8EncodeChar c ++ encode cs := List.flatMap_cons

@[simp] theorem encode_append (cs ds : List Char) : encode (cs ++ ds) = encode cs ++ encode ds :=
  List.flatMap_append

theorem bytes_eq (text : String) : bytes text = encode text.toList := by
  rw [bytes, ← String.utf8Encode_toList, List.utf8Encode, List.data_toByteArray, encode]

theorem bytes_ofList (cs : List Char) : bytes (String.ofList cs) = encode cs := by
  rw [bytes_eq, String.toList_ofList]

theorem bytes_injective : Function.Injective bytes := fun _ _ same =>
  String.toByteArray_inj.1 (ByteArray.ext (Array.toList_inj.1 same))

/-- **A byte of an ASCII character is a part of no other character**: the bytes of the others lie
above. -/
theorem eq_of_mem_utf8EncodeChar {a c : Char} (ascii : a.toNat < 128)
    (h : UInt8.ofNat a.toNat ∈ String.utf8EncodeChar c) : c = a := by
  have code : c.val.toNat = c.toNat := rfl
  have same : a.toNat = c.toNat := by
    simp only [String.utf8EncodeChar, code] at h
    split_ifs at h <;>
      simp only [List.mem_cons, List.not_mem_nil, or_false, ← UInt8.toNat_inj,
        UInt8.toNat_ofNat'] at h <;>
      omega
  exact (Char.toNat_inj.1 same).symm

/-! ## Boundaries -/

/-- **The offset lies between two characters**, in front of the first or behind the last. -/
def IsBoundary (bs : List UInt8) (i : Nat) : Prop :=
  ∃ before behind, bs = encode before ++ encode behind ∧ i = (encode before).length

/-- At the offset a character starts, or the bytes end. -/
def startsAt (bs : List UInt8) (i : Nat) : Bool :=
  i == bs.length || bs[i]?.any fun b => b.IsUTF8FirstByte

theorem startsAt_append (front bs : List UInt8) (i : Nat) :
    startsAt (front ++ bs) (front.length + i) = startsAt bs i := by
  have ends : (front.length + i == (front ++ bs).length) = (i == bs.length) := by
    rw [Bool.eq_iff_iff]; simp
  have byte : (front ++ bs)[front.length + i]? = bs[i]? := by
    rw [List.getElem?_append_right (Nat.le_add_right ..), Nat.add_sub_cancel_left]
  rw [startsAt, ends, byte, startsAt]

/-- Among the bytes of a character only the first starts one. -/
theorem startsAt_utf8EncodeChar {c : Char} {i : Nat} (lt : i < (String.utf8EncodeChar c).length)
    (bs : List UInt8) : startsAt (String.utf8EncodeChar c ++ bs) i ↔ i = 0 := by
  have short : ¬i = (String.utf8EncodeChar c ++ bs).length := by
    rw [List.length_append]; omega
  rw [startsAt, List.getElem?_append_left lt, List.getElem?_eq_getElem lt, Option.any_some,
    Bool.or_eq_true, beq_iff_eq, or_iff_right short, decide_eq_true_iff,
    UInt8.isUTF8FirstByte_getElem_utf8EncodeChar]

theorem startsAt_zero (cs : List Char) : startsAt (encode cs) 0 := by
  cases cs with
  | nil => rfl
  | cons c cs => rw [encode_cons, startsAt_utf8EncodeChar (by simp [c.utf8Size_pos])]

theorem isBoundary_encode (before behind : List Char) :
    IsBoundary (encode (before ++ behind)) (encode before).length :=
  ⟨before, behind, encode_append before behind, rfl⟩

theorem startsAt_length (before behind : List Char) :
    startsAt (encode before ++ encode behind) (encode before).length := by
  rw [← Nat.add_zero (encode before).length, startsAt_append]
  exact startsAt_zero behind

/-- **The byte at an offset tells whether the offset is a boundary.** -/
theorem startsAt_iff {cs : List Char} {i : Nat} :
    startsAt (encode cs) i ↔ IsBoundary (encode cs) i := by
  constructor
  · intro h
    induction cs generalizing i with
    | nil => exact ⟨[], [], rfl, by simpa [startsAt] using h⟩
    | cons c cs ih =>
      by_cases lt : i < (String.utf8EncodeChar c).length
      · rw [encode_cons, startsAt_utf8EncodeChar lt] at h
        exact ⟨[], c :: cs, rfl, h⟩
      · obtain ⟨j, rfl⟩ := Nat.exists_eq_add_of_le (Nat.le_of_not_lt lt)
        rw [encode_cons, startsAt_append] at h
        obtain ⟨before, behind, split, rfl⟩ := ih h
        exact ⟨c :: before, behind, by simp [split], by simp⟩
  · rintro ⟨before, behind, split, rfl⟩
    rw [split]
    exact startsAt_length before behind

/-! ## Slices and searches -/

/-- The bytes up to an offset at which a character starts. -/
def upTo? (bs : List UInt8) (i : Nat) : Option (List UInt8) :=
  if startsAt bs i then some (bs.take i) else none

/-- The bytes from an offset on at which a character starts. -/
def from? (bs : List UInt8) (i : Nat) : Option (List UInt8) :=
  if startsAt bs i then some (bs.drop i) else none

theorem eq_drop_of_from? {bs rest : List UInt8} {i : Nat} (h : from? bs i = some rest) :
    rest = bs.drop i := (Option.some.inj (Option.ite_none_right_eq_some.1 h).2).symm

theorem upTo?_encode (before behind : List Char) :
    upTo? (encode (before ++ behind)) (encode before).length = some (encode before) := by
  rw [upTo?, if_pos (startsAt_iff.2 (isBoundary_encode before behind)), encode_append,
    List.take_left]

theorem from?_encode (before behind : List Char) :
    from? (encode (before ++ behind)) (encode before).length = some (encode behind) := by
  rw [from?, if_pos (startsAt_iff.2 (isBoundary_encode before behind)), encode_append,
    List.drop_left]

/-- **The offset at which a pattern stands first.** -/
def find? (pattern : List UInt8) : List UInt8 → Option Nat
  | [] => none
  | b :: bs => if pattern.isPrefixOf (b :: bs) then some 0 else (find? pattern bs).map (· + 1)

/-- Bytes that do not start the pattern are passed by. -/
theorem find?_append {b : UInt8} {front : List UInt8} (h : b ∉ front) (pattern bs : List UInt8) :
    find? (b :: pattern) (front ++ bs) = (find? (b :: pattern) bs).map (front.length + ·) := by
  induction front with
  | nil => simp
  | cons a front ih =>
    rw [List.mem_cons, not_or] at h
    have here : (b :: pattern).isPrefixOf (a :: (front ++ bs)) = false := by
      simp [List.isPrefixOf, h.1]
    rw [List.cons_append, find?, here, if_neg Bool.false_ne_true, ih h.2, Option.map_map]
    refine congrArg (Option.map · _) (funext fun i => ?_)
    simp only [Function.comp_apply, List.length_cons]
    omega

/-- **A pattern that starts with an ASCII character does not stand in another one.** -/
theorem find?_encode_cons {a c : Char} (ascii : a.toNat < 128) (ne : c ≠ a)
    (pattern : List UInt8) (cs : List Char) :
    find? (UInt8.ofNat a.toNat :: pattern) (encode (c :: cs)) =
      (find? (UInt8.ofNat a.toNat :: pattern) (encode cs)).map
        ((String.utf8EncodeChar c).length + ·) :=
  find?_append (fun mem => ne (eq_of_mem_utf8EncodeChar ascii mem)) pattern (encode cs)

end Rowscript.Utf8
