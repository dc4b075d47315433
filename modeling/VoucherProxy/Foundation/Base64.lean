import Mathlib.Data.List.Basic

namespace VoucherProxy.Base64

/-! Base64 over the alphabet for URLs, without padding. -/

def alphabet : List Char :=
  "ABCDEFGHIJKLMNOPQRSTUVWXYZabcdefghijklmnopqrstuvwxyz0123456789-_".toList

def digit (value : Nat) : Char := alphabet.getD value 'A'

def value? (c : Char) : Option Nat := alphabet.idxOf? c

/-- Four digits for three bytes, and one more than there are bytes for what is left. -/
def encode : List UInt8 → List Char
  | [] => []
  | [first] => [digit (first.toNat / 4), digit (first.toNat % 4 * 16)]
  | [first, second] =>
      [digit (first.toNat / 4), digit (first.toNat % 4 * 16 + second.toNat / 16),
        digit (second.toNat % 16 * 4)]
  | first :: second :: third :: bytes =>
      digit (first.toNat / 4) :: digit (first.toNat % 4 * 16 + second.toNat / 16) ::
        digit (second.toNat % 16 * 4 + third.toNat / 64) :: digit (third.toNat % 64) ::
          encode bytes

/-- The bits that are left over have to be zero. -/
def decode : List Char → Option (List UInt8)
  | [] => some []
  | [_] => none
  | [a, b] =>
      match value? a, value? b with
      | some a, some b => if b % 16 = 0 then some [UInt8.ofNat (a * 4 + b / 16)] else none
      | _, _ => none
  | [a, b, c] =>
      match value? a, value? b, value? c with
      | some a, some b, some c =>
          if c % 4 = 0 then
            some [UInt8.ofNat (a * 4 + b / 16), UInt8.ofNat (b % 16 * 16 + c / 4)]
          else none
      | _, _, _ => none
  | a :: b :: c :: d :: rest =>
      match value? a, value? b, value? c, value? d with
      | some a, some b, some c, some d =>
          (decode rest).map fun bytes =>
            UInt8.ofNat (a * 4 + b / 16) :: UInt8.ofNat (b % 16 * 16 + c / 4) ::
              UInt8.ofNat (c % 4 * 64 + d) :: bytes
      | _, _, _, _ => none

theorem value?_digit : ∀ value < 64, value? (digit value) = some value := by decide +kernel

theorem digit_mem_alphabet : ∀ value < 64, digit value ∈ alphabet := by decide +kernel

/-- A byte is put together again from its parts. -/
theorem ofNat_toNat_of_eq (byte : UInt8) {value : Nat} (same : value = byte.toNat) :
    UInt8.ofNat value = byte := by
  rw [same, UInt8.ofNat_toNat]

theorem decode_encode : ∀ bytes : List UInt8, decode (encode bytes) = some bytes
  | [] => rfl
  | [first] => by
      have bound := first.toNat_lt
      rw [encode, decode, value?_digit _ (by omega), value?_digit _ (by omega)]
      dsimp only
      rw [if_pos (by omega), ofNat_toNat_of_eq first (by omega)]
  | [first, second] => by
      have bound := first.toNat_lt
      have boundSecond := second.toNat_lt
      rw [encode, decode, value?_digit _ (by omega), value?_digit _ (by omega),
        value?_digit _ (by omega)]
      dsimp only
      rw [if_pos (by omega), ofNat_toNat_of_eq first (by omega),
        ofNat_toNat_of_eq second (by omega)]
  | first :: second :: third :: bytes => by
      have bound := first.toNat_lt
      have boundSecond := second.toNat_lt
      have boundThird := third.toNat_lt
      rw [encode, decode, value?_digit _ (by omega), value?_digit _ (by omega),
        value?_digit _ (by omega), value?_digit _ (by omega)]
      dsimp only
      rw [decode_encode bytes, Option.map_some, ofNat_toNat_of_eq first (by omega),
        ofNat_toNat_of_eq second (by omega),
        ofNat_toNat_of_eq third (by omega)]

/-- Nothing but the alphabet is written. -/
theorem mem_alphabet_of_mem_encode : ∀ {bytes : List UInt8} {c : Char}, c ∈ encode bytes →
    c ∈ alphabet
  | [], _, member => nomatch member
  | [first], c, member => by
      have bound := first.toNat_lt
      simp only [encode, List.mem_cons, List.not_mem_nil, or_false] at member
      rcases member with rfl | rfl
      · exact digit_mem_alphabet _ (by omega)
      · exact digit_mem_alphabet _ (by omega)
  | [first, second], c, member => by
      have bound := first.toNat_lt
      have boundSecond := second.toNat_lt
      simp only [encode, List.mem_cons, List.not_mem_nil, or_false] at member
      rcases member with rfl | rfl | rfl
      · exact digit_mem_alphabet _ (by omega)
      · exact digit_mem_alphabet _ (by omega)
      · exact digit_mem_alphabet _ (by omega)
  | first :: second :: third :: bytes, c, member => by
      have bound := first.toNat_lt
      have boundSecond := second.toNat_lt
      have boundThird := third.toNat_lt
      simp only [encode, List.mem_cons] at member
      rcases member with rfl | rfl | rfl | rfl | rest
      · exact digit_mem_alphabet _ (by omega)
      · exact digit_mem_alphabet _ (by omega)
      · exact digit_mem_alphabet _ (by omega)
      · exact digit_mem_alphabet _ (by omega)
      · exact mem_alphabet_of_mem_encode rest

theorem length_encode : ∀ bytes : List UInt8,
    (encode bytes).length = (4 * bytes.length + 2) / 3
  | [] => rfl
  | [_] => by simp [encode]
  | [_, _] => by simp [encode]
  | _ :: _ :: _ :: bytes => by
      rw [encode]
      simp only [List.length_cons, length_encode bytes]
      omega

end VoucherProxy.Base64
