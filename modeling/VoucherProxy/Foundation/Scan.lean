import Mathlib.Algebra.Ring.Nat
import Mathlib.Data.List.Basic

namespace VoucherProxy

/-! # Reading a text from its start

A reader takes what it understands from the front of a text and leaves the rest. -/

namespace Scan

variable {α : Type}

/-- Take the longest word of some letters. -/
def word (letter : α → Bool) (text : List α) : List α × List α :=
  (text.takeWhile letter, text.dropWhile letter)

/-- What comes next, if anything does, is no letter of the word before. -/
def Ends (letter : α → Bool) (text : List α) : Prop := ∀ c ∈ text.head?, letter c = false

@[simp] theorem ends_nil (letter : α → Bool) : Ends letter [] := fun _ next => nomatch next

@[simp] theorem ends_cons {letter : α → Bool} {c : α} {text : List α} :
    Ends letter (c :: text) ↔ letter c = false := by
  simp [Ends]

theorem word_append {letter : α → Bool} {text rest : List α} (letters : text.all letter = true)
    (ends : Ends letter rest) : word letter (text ++ rest) = (text, rest) := by
  rw [List.all_eq_true] at letters
  rw [word, List.takeWhile_append_of_pos letters, List.dropWhile_append_of_pos letters]
  cases rest with
  | nil => rw [List.takeWhile_nil, List.dropWhile_nil, List.append_nil]
  | cons c rest =>
      have other : ¬ letter c = true := by simpa using ends
      rw [List.takeWhile_cons_of_neg other, List.dropWhile_cons_of_neg other, List.append_nil]

theorem word_all {letter : α → Bool} {text : List α} (letters : text.all letter = true) :
    word letter text = (text, []) := by
  have whole := word_append letters (ends_nil letter)
  rwa [List.append_nil] at whole

theorem word_of_ends {letter : α → Bool} {text : List α} (ends : Ends letter text) :
    word letter text = ([], text) := by
  have none : ([] : List α).all letter = true := rfl
  exact word_append none ends

/-- Leave out what stands in front. -/
def skip (letter : α → Bool) (text : List α) : List α := text.dropWhile letter

theorem skip_of_ends {letter : α → Bool} {text : List α} (ends : Ends letter text) :
    skip letter text = text :=
  congrArg Prod.snd (word_of_ends ends)

theorem skip_cons {letter : α → Bool} {c : α} {text : List α} (own : letter c = true)
    (ends : Ends letter text) : skip letter (c :: text) = text := by
  rw [skip, List.dropWhile_cons_of_pos own]
  exact skip_of_ends ends

/-- Take one letter that must be there. -/
def expect [DecidableEq α] (c : α) : List α → Option (List α)
  | [] => none
  | next :: rest => if next = c then some rest else none

@[simp] theorem expect_cons [DecidableEq α] (c : α) (rest : List α) :
    expect c (c :: rest) = some rest :=
  if_pos rfl

end Scan

/-! ## Decimal numerals -/

namespace Decimal

def digits (number : Nat) : List Char := Nat.toDigits 10 number

def read (text : List Char) : Nat := Nat.ofDigitChars 10 text 0

theorem read_digits (number : Nat) : read (digits number) = number :=
  Nat.ofDigitChars_ten_toDigits

theorem read_append (early late : List Char) :
    read (early ++ late) = 10 ^ late.length * read early + read late := by
  rw [read, read, Nat.ofDigitChars_append, Nat.ofDigitChars_eq_ofDigitChars_zero, read]

theorem isDigit_digits (number : Nat) : (digits number).all Char.isDigit = true := by
  rw [List.all_eq_true]
  intro c member
  exact Nat.isDigit_of_mem_toDigits (by decide) (by decide) member

theorem digits_ne_nil (number : Nat) : digits number ≠ [] := Nat.toDigits_ne_nil

theorem toList_toString (number : Nat) : (toString number).toList = digits number :=
  Nat.toList_repr

end Decimal

end VoucherProxy
