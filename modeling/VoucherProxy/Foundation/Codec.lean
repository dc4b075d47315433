import Mathlib.Data.List.Nodup
import VoucherProxy.Foundation.Json

namespace VoucherProxy

/-! Typed decoding of JSON values. A codec pairs a decoder with the encoding it
inverts: a value is accepted exactly when it is an encoding. -/

inductive DecodeError
  | invalidType (found : Json) (expected : String)
  | invalidValue (found : Json) (expected : String)
  | invalidLength (length : Nat) (expected : String)
  | unknownField (key : String) (expected : List String)
  | missingField (key : String)
  | duplicateField (key : String)

theorem map_eq_ok {ε α β : Type} {f : α → β} {result : Except ε α} {value : β} :
    result.map f = .ok value ↔ ∃ inner, result = .ok inner ∧ f inner = value := by
  cases result <;> simp [Except.map]

structure Codec (α : Type) where
  decode : Json → Except DecodeError α
  encode : α → Json
  decode_eq_ok : ∀ {json value}, decode json = .ok value ↔ json = encode value

namespace Codec

variable {α : Type}

theorem encode_injective (codec : Codec α) : Function.Injective codec.encode := by
  intro left right same
  have first := codec.decode_eq_ok.mpr (rfl : codec.encode left = codec.encode left)
  have second := codec.decode_eq_ok.mpr same
  rw [first] at second
  exact Except.ok.inj second

@[simp] theorem encode_inj (codec : Codec α) {left right : α} :
    codec.encode left = codec.encode right ↔ left = right :=
  codec.encode_injective.eq_iff

def decodeString : Json → Except DecodeError String
  | .string text => .ok text
  | found => .error (.invalidType found "a string")

def string : Codec String where
  decode := decodeString
  encode := .string
  decode_eq_ok := by
    intro json value
    cases json <;> simp [decodeString]

/-- An unsigned integer of at most `max`; integers out of range and other
numbers are told apart. -/
def decodeUnsigned (max : UInt64) (expected : String) : Json → Except DecodeError UInt64
  | .number (.posInt value) =>
      if value ≤ max then .ok value else .error (.invalidValue (.number (.posInt value)) expected)
  | .number (.negInt value negative) =>
      .error (.invalidValue (.number (.negInt value negative)) expected)
  | found => .error (.invalidType found expected)

theorem decodeUnsigned_eq_ok {max : UInt64} {expected : String} {json : Json} {value : UInt64} :
    decodeUnsigned max expected json = .ok value ↔
      value ≤ max ∧ json = .number (.posInt value) := by
  cases json with
  | number number =>
      cases number with
      | posInt found =>
          by_cases within : found ≤ max
          · simp only [decodeUnsigned, within, if_true, Except.ok.injEq, Json.number.injEq,
              Number.posInt.injEq]
            constructor
            · rintro rfl
              exact ⟨within, rfl⟩
            · exact And.right
          · simp only [decodeUnsigned, within, if_false, reduceCtorEq, false_iff, not_and,
              Json.number.injEq, Number.posInt.injEq]
            rintro small rfl
            exact within small
      | negInt _ _ => simp [decodeUnsigned]
      | float _ => simp [decodeUnsigned]
  | _ => simp [decodeUnsigned]

def u64 : Codec UInt64 where
  decode := decodeUnsigned 0xFFFFFFFFFFFFFFFF "u64"
  encode value := .number (.posInt value)
  decode_eq_ok := by
    intro json value
    rw [decodeUnsigned_eq_ok]
    have within : value ≤ 0xFFFFFFFFFFFFFFFF := by
      rw [UInt64.le_iff_toNat_le]
      have bound := value.toNat_lt
      simp only [UInt64.reduceToNat]
      omega
    simp [within]

def u32 : Codec UInt32 where
  decode json := (decodeUnsigned 0xFFFFFFFF "u32" json).map UInt64.toUInt32
  encode value := .number (.posInt value.toUInt64)
  decode_eq_ok := by
    intro json value
    simp only [map_eq_ok, decodeUnsigned_eq_ok]
    constructor
    · rintro ⟨wide, ⟨within, rfl⟩, rfl⟩
      rw [UInt64.le_iff_toNat_le] at within
      simp only [UInt64.reduceToNat] at within
      congr 2
      apply UInt64.toNat_inj.mp
      simp only [UInt32.toNat_toUInt64, UInt64.toNat_toUInt32]
      omega
    · rintro rfl
      refine ⟨value.toUInt64, ⟨?_, rfl⟩, UInt32.toUInt32_toUInt64 value⟩
      rw [UInt64.le_iff_toNat_le, UInt32.toNat_toUInt64]
      have bound := value.toNat_lt
      simp only [UInt64.reduceToNat]
      omega

def encodeOption (codec : Codec α) : Option α → Json
  | none => .null
  | some value => codec.encode value

/-- `null` stands for an absent value. -/
def option (codec : Codec α) (notNull : ∀ value, codec.encode value ≠ .null) :
    Codec (Option α) where
  decode json := if json.isNull then .ok none else (codec.decode json).map some
  encode := codec.encodeOption
  decode_eq_ok := by
    intro json value
    by_cases absent : json = .null
    · subst absent
      cases value with
      | none => simp [Json.isNull, encodeOption]
      | some value => simp [Json.isNull, encodeOption, (notNull value).symm]
    · have present : ¬ json.isNull = true := mt Json.isNull_iff.mp absent
      rw [if_neg present, map_eq_ok]
      cases value with
      | none => simp [encodeOption, absent]
      | some value => simp [encodeOption, codec.decode_eq_ok]

/-- Fill the slot of a field while the members of an object are visited. -/
def fill (codec : Codec α) (key : String) (slot : Option α) (json : Json) :
    Except DecodeError (Option α) :=
  if slot.isSome then .error (.duplicateField key) else (codec.decode json).map some

theorem fill_eq_ok {codec : Codec α} {key : String} {slot filled : Option α} {json : Json} :
    codec.fill key slot json = .ok filled ↔
      slot = none ∧ filled.map codec.encode = some json := by
  cases slot with
  | some old => simp [fill]
  | none =>
      rw [fill, Option.isSome_none, if_neg Bool.false_ne_true, map_eq_ok]
      simp only [codec.decode_eq_ok, true_and, Option.map_eq_some_iff]
      constructor
      · rintro ⟨value, rfl, rfl⟩
        exact ⟨value, rfl, rfl⟩
      · rintro ⟨value, rfl, rfl⟩
        exact ⟨value, rfl, rfl⟩

end Codec

/-- What `serde_json` leaves open here: how it words a decoding error, how it
writes a double, and which texts it parses to which values. -/
class SerdeJson where
  errorText : DecodeError → String
  floatText : UInt64 → String
  fromStr : String → Option Json

end VoucherProxy
