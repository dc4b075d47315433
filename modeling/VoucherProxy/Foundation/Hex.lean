import VoucherProxy.Foundation.Text

namespace VoucherProxy.Hex

/-! Hexadecimal texts: written in lower case, read in either. -/

def value? (c : Char) : Option Nat :=
  if '0' ≤ c ∧ c ≤ '9' then some (c.toNat - 48)
  else if 'a' ≤ c ∧ c ≤ 'f' then some (c.toNat - 87)
  else if 'A' ≤ c ∧ c ≤ 'F' then some (c.toNat - 55)
  else none

/-- The two digits of each byte, high half first. -/
def encode (bytes : List UInt8) : List Char :=
  bytes.flatMap fun byte => [(byte.toNat / 16).digitChar, (byte.toNat % 16).digitChar]

def decode : List Char → Option (List UInt8)
  | [] => some []
  | [_] => none
  | high :: low :: rest =>
      match value? high, value? low with
      | some highValue, some lowValue =>
          (decode rest).map (UInt8.ofNat (16 * highValue + lowValue) :: ·)
      | _, _ => none

theorem value?_digitChar : ∀ value < 16, value? value.digitChar = some value := by decide

/-- A digit is one of twenty-two characters. -/
theorem value?_eq_some {c : Char} {value : Nat} (read : value? c = some value) :
    value < 16 ∧ c.toLower = value.digitChar := by
  have decimal : ∀ n < 10, (Char.ofNat (48 + n)).toLower = n.digitChar := by decide
  have lower : ∀ n < 6, (Char.ofNat (97 + n)).toLower = (10 + n).digitChar := by decide
  have upper : ∀ n < 6, (Char.ofNat (65 + n)).toLower = (10 + n).digitChar := by decide
  have code : ∀ base, base ≤ c.toNat → Char.ofNat (base + (c.toNat - base)) = c := by
    intro base bound
    rw [Nat.add_sub_cancel' bound, Char.ofNat_toNat]
  unfold value? at read
  simp only [Char.le_def, UInt32.le_iff_toNat_le] at read
  change (if 48 ≤ c.toNat ∧ c.toNat ≤ 57 then _ else if 97 ≤ c.toNat ∧ c.toNat ≤ 102 then _
    else if 65 ≤ c.toNat ∧ c.toNat ≤ 70 then _ else _) = _ at read
  split at read
  next range =>
    cases read
    have known := decimal (c.toNat - 48) (by omega)
    rw [code 48 range.1] at known
    exact ⟨by omega, known⟩
  next =>
    split at read
    next range =>
      cases read
      have known := lower (c.toNat - 97) (by omega)
      rw [code 97 range.1] at known
      exact ⟨by omega, by rw [known]; congr 1; omega⟩
    next =>
      split at read
      next range =>
        cases read
        have known := upper (c.toNat - 65) (by omega)
        rw [code 65 range.1] at known
        exact ⟨by omega, by rw [known]; congr 1; omega⟩
      next => cases read

theorem value?_isSome (c : Char) : (value? c).isSome = Text.isAsciiHexdigit c := by
  unfold value? Text.isAsciiHexdigit
  split
  next range => simp [range]
  next decimal =>
    split
    next range => simp [range]
    next lower =>
      split
      next range => simp [range]
      next upper => simp_all

theorem decode_encode (bytes : List UInt8) : decode (encode bytes) = some bytes := by
  induction bytes with
  | nil => rfl
  | cons byte bytes induction =>
      have bound := byte.toNat_lt
      have halves : 16 * (byte.toNat / 16) + byte.toNat % 16 = byte.toNat := by omega
      change decode ((byte.toNat / 16).digitChar :: (byte.toNat % 16).digitChar :: encode bytes) = _
      rw [decode, value?_digitChar _ (by omega), value?_digitChar _ (by omega)]
      simp only [induction, halves, Option.map_some, UInt8.ofNat_toNat]

theorem encode_injective : Function.Injective encode := by
  intro left right same
  apply Option.some.inj
  rw [← decode_encode left, same, decode_encode]

/-- What was read is written in lower case. -/
theorem encode_of_decode : ∀ {letters : List Char} {bytes : List UInt8},
    decode letters = some bytes → encode bytes = letters.map Char.toLower
  | [], bytes, read => by cases read; rfl
  | [_], bytes, read => by cases read
  | high :: low :: rest, bytes, read => by
      unfold decode at read
      split at read
      next highValue lowValue highRead lowRead =>
        rcases Option.map_eq_some_iff.mp read with ⟨later, laterRead, rfl⟩
        rcases value?_eq_some highRead with ⟨highBound, highLetter⟩
        rcases value?_eq_some lowRead with ⟨lowBound, lowLetter⟩
        have byte : (UInt8.ofNat (16 * highValue + lowValue)).toNat = 16 * highValue + lowValue := by
          rw [UInt8.toNat_ofNat']
          omega
        have high : (16 * highValue + lowValue) / 16 = highValue := by omega
        have low : (16 * highValue + lowValue) % 16 = lowValue := by omega
        rw [List.map_cons, List.map_cons, highLetter, lowLetter, ← encode_of_decode laterRead, encode,
          List.flatMap_cons, byte, high, low]
        rfl
      next => cases read

theorem length_encode (bytes : List UInt8) : (encode bytes).length = 2 * bytes.length := by
  rw [encode, List.length_flatMap]
  simp [Nat.mul_comm]

theorem digits_of_decode : ∀ {letters : List Char} {bytes : List UInt8},
    decode letters = some bytes → ∀ letter ∈ letters, Text.isAsciiHexdigit letter = true
  | [], _, _ => fun _ member => nomatch member
  | [_], _, read => by cases read
  | high :: low :: rest, _, read => by
      unfold decode at read
      split at read
      next highValue lowValue highRead lowRead =>
        rcases Option.map_eq_some_iff.mp read with ⟨later, laterRead, -⟩
        intro letter member
        rcases List.mem_cons.mp member with rfl | member
        · rw [← value?_isSome, highRead, Option.isSome_some]
        rcases List.mem_cons.mp member with rfl | member
        · rw [← value?_isSome, lowRead, Option.isSome_some]
        · exact digits_of_decode laterRead letter member
      next => cases read

/-- Any even number of digits can be read. -/
theorem exists_decode : ∀ {letters : List Char} {count : Nat}, letters.length = 2 * count →
    (∀ letter ∈ letters, Text.isAsciiHexdigit letter = true) →
    ∃ bytes, decode letters = some bytes ∧ bytes.length = count
  | [], count, even, _ => ⟨[], rfl, by rw [List.length_nil] at even ⊢; omega⟩
  | [_], count, even, _ => by rw [List.length_singleton] at even; omega
  | high :: low :: rest, count, even, digits => by
      have shorter : rest.length = 2 * (count - 1) := by
        rw [List.length_cons, List.length_cons] at even
        omega
      rcases exists_decode shorter fun letter member => digits letter (by simp [member]) with
        ⟨bytes, read, length⟩
      have highDigit := digits high (by simp)
      have lowDigit := digits low (by simp)
      rw [← value?_isSome, Option.isSome_iff_exists] at highDigit lowDigit
      rcases highDigit with ⟨highValue, highRead⟩
      rcases lowDigit with ⟨lowValue, lowRead⟩
      refine ⟨UInt8.ofNat (16 * highValue + lowValue) :: bytes, ?_, ?_⟩
      · simp only [decode, highRead, lowRead, read, Option.map_some]
      · rw [List.length_cons] at even ⊢
        omega

end VoucherProxy.Hex
