import Mathlib.Data.List.Basic
import VoucherProxy.Foundation.SortedMap

namespace VoucherProxy

/-! JSON values as a program holds them after parsing: numbers keep the three
forms a parser distinguishes, and objects keep their members in key order. -/

inductive Number
  | posInt (value : UInt64)
  /-- Only what is below zero takes this form. -/
  | negInt (value : Int64) (negative : value < 0)
  /-- The bits of a double. -/
  | float (bits : UInt64)
  deriving DecidableEq, Repr

inductive Json
  | null
  | bool (value : Bool)
  | number (value : Number)
  | string (value : String)
  | array (items : List Json)
  | object (members : List (String × Json))
  deriving Repr, Inhabited

namespace Json

/-- The member of an object, and nothing of any other value. -/
def get (body : Json) (key : String) : Option Json :=
  match body with
  | .object members => members.lookup key
  | _ => none

def asArray : Json → Option (List Json)
  | .array items => some items
  | _ => none

def asStr : Json → Option String
  | .string text => some text
  | _ => none

def asBool : Json → Option Bool
  | .bool value => some value
  | _ => none

def isNull : Json → Bool
  | .null => true
  | _ => false

@[simp] theorem isNull_iff {json : Json} : json.isNull = true ↔ json = .null := by
  cases json <;> simp [isNull]

@[simp] theorem get_object (members : List (String × Json)) (key : String) :
    (Json.object members).get key = members.lookup key := rfl

/-- An object with one member replaced; no other value has members. -/
def set (body : Json) (key : String) (value : Json) : Json :=
  match body with
  | .object members => .object (insertMember key value members)
  | other => other

theorem get_set_of_ne {key other : String} (different : other ≠ key) (body value : Json) :
    (body.set key value).get other = body.get other := by
  cases body with
  | object members =>
      rw [set, get_object, get_object, lookup_insertMember, if_neg different]
  | _ => rfl

end Json

end VoucherProxy
