import Mathlib.Data.List.DropRight

namespace VoucherProxy.Text

/-! A text as the bytes of its UTF-8 encoding: byte offsets, slices at them, and
the characters that are one byte each. -/

/-- The number of bytes the characters take. -/
def size : List Char → Nat
  | [] => 0
  | c :: rest => c.utf8Size + size rest

@[simp] theorem size_cons (c : Char) (characters : List Char) :
    size (c :: characters) = c.utf8Size + size characters := rfl

/-- Each character with its byte offset. -/
def charIndices (offset : Nat) : List Char → List (Nat × Char)
  | [] => []
  | c :: rest => (offset, c) :: charIndices (offset + c.utf8Size) rest

/-- The characters before a byte offset; none when it is past the end or falls
inside a character. -/
def sliceTo : List Char → Nat → Option (List Char)
  | _, 0 => some []
  | [], _ + 1 => none
  | c :: rest, offset =>
      if c.utf8Size ≤ offset then (sliceTo rest (offset - c.utf8Size)).map (c :: ·) else none

theorem charIndices_getElem? (characters : List Char) (offset count : Nat) :
    (charIndices offset characters)[count]? =
      characters[count]?.map fun c => (offset + size (characters.take count), c) := by
  induction characters generalizing offset count with
  | nil => rfl
  | cons c rest induction =>
      cases count with
      | zero => rfl
      | succ count =>
          rw [charIndices, List.getElem?_cons_succ, List.getElem?_cons_succ, induction,
            List.take_succ_cons, size_cons, Nat.add_assoc]

/-- The offset behind a number of characters is no place inside one. -/
theorem sliceTo_size (early late : List Char) : sliceTo (early ++ late) (size early) = some early := by
  induction early with
  | nil => exact sliceTo.eq_1 late
  | cons c early induction =>
      have positive : 0 < c.utf8Size := c.utf8Size_pos
      rw [List.cons_append, size_cons]
      rcases Nat.exists_eq_succ_of_ne_zero (by omega : c.utf8Size + size early ≠ 0) with
        ⟨offset, spelled⟩
      rw [spelled, sliceTo, ← spelled, if_pos (Nat.le_add_right _ _), Nat.add_sub_cancel_left,
        induction]
      · rfl
      · intro none
        cases none

/-! ## Bytes -/

def utf8 (characters : List Char) : List UInt8 := characters.flatMap String.utf8EncodeChar

theorem utf8_append (early late : List Char) : utf8 (early ++ late) = utf8 early ++ utf8 late :=
  List.flatMap_append

/-- Characters of the first 128 are one byte each. -/
theorem utf8_of_ascii {characters : List Char} (ascii : ∀ c ∈ characters, c.toNat < 128) :
    utf8 characters = characters.map fun c => UInt8.ofNat c.toNat := by
  induction characters with
  | nil => rfl
  | cons c characters induction =>
      have first : c.val.toNat ≤ 0x7f := Nat.le_of_lt_succ (ascii c (by simp))
      rw [utf8, List.flatMap_cons, String.utf8EncodeChar, if_pos first, List.map_cons]
      exact congrArg _ (induction fun other member => ascii other (by simp [member]))

end VoucherProxy.Text
