import Mathlib.Algebra.Ring.Int.Defs
import VoucherProxy.Foundation.Codec
import VoucherProxy.Foundation.Text

namespace VoucherProxy

/-! Typed views over the controller's JSON. Parsing is forgiving: an optional
field that cannot be read stays absent and never fails the whole response. -/

/-- A decimal integer with an optional sign, if it fits. -/
def parseI64 (text : String) : Option Int64 :=
  let magnitude := fun digits : List Char =>
    if digits.isEmpty || !digits.all Char.isDigit then none
    else some (digits.foldl (fun total c => total * 10 + (c.toNat - '0'.toNat)) 0)
  let signed := match text.toList with
    | '-' :: digits => (magnitude digits).map fun value => -(value : Int)
    | '+' :: digits => (magnitude digits).map Int.ofNat
    | digits => (magnitude digits).map Int.ofNat
  signed.bind fun value =>
    if -(2 : Int) ^ 63 ≤ value ∧ value < (2 : Int) ^ 63 then some (Int64.ofInt value) else none

section

variable [SerdeJson]

def Number.toText : Number → String
  | .posInt value => toString value
  | .negInt value _ => toString value
  | .float bits => SerdeJson.floatText bits

def asStr : Option Json → Option String
  | some (.string text) => if text.isEmpty then none else some text
  | some (.number number) => some number.toText
  | _ => none

end

def Number.asI64 : Number → Option Int64
  | .posInt value => if value.toNat < 2 ^ 63 then some (Int64.ofInt value.toNat) else none
  | .negInt value _ => some value
  | .float _ => none

def asInt : Option Json → Option Int64
  | some (.number number) => number.asI64
  | some (.string text) => parseI64 text
  | _ => none

/-- The list in an upstream envelope: a bare array, `data`, `vouchers`, or the
first list-valued member. -/
def listField : Json → List Json
  | .array items => items
  | .object members =>
      match ["data", "vouchers"].findSome? fun key => (members.lookup key).bind Json.asArray with
      | some items => items
      | none => (members.findSome? fun member => member.2.asArray).getD []
  | _ => []

structure Site where
  id : String
  name : String
  deriving DecidableEq, Repr

structure Voucher where
  id : String
  code : String
  name : Option String
  timeLimitMinutes : Option Int64
  authorizedGuestLimit : Option Int64
  authorizedGuestCount : Option Int64
  expired : Bool
  expiresAt : Option String
  createdAt : Option String
  dataUsageLimitMBytes : Option Int64
  rxRateLimitKbps : Option Int64
  txRateLimitKbps : Option Int64
  deriving DecidableEq

section

variable [SerdeJson]

/-- The id of an entry, under either of the names it goes by. -/
def idOf (json : Json) : Option String :=
  (asStr (json.get "id")).or (asStr (json.get "_id"))

def Site.fromJson (json : Json) : Option Site :=
  match idOf json with
  | none => none
  | some id =>
      let name := ((asStr (json.get "name")).or (asStr (json.get "internalReference"))).or
        (asStr (json.get "desc"))
      some { id, name := name.getD id }

def Site.list (body : Json) : List Site := (listField body).filterMap Site.fromJson

def Voucher.fromJson (json : Json) : Option Voucher :=
  match idOf json with
  | none => none
  | some id => some
      { id
        code := (asStr (json.get "code")).getD ""
        name := asStr (json.get "name")
        timeLimitMinutes := asInt (json.get "timeLimitMinutes")
        authorizedGuestLimit := asInt (json.get "authorizedGuestLimit")
        authorizedGuestCount := asInt (json.get "authorizedGuestCount")
        expired := ((json.get "expired").bind Json.asBool).getD false
        expiresAt := asStr (json.get "expiresAt")
        createdAt := asStr (json.get "createdAt")
        dataUsageLimitMBytes := asInt (json.get "dataUsageLimitMBytes")
        rxRateLimitKbps := asInt (json.get "rxRateLimitKbps")
        txRateLimitKbps := asInt (json.get "txRateLimitKbps") }

def Voucher.list (body : Json) : List Voucher := (listField body).filterMap Voucher.fromJson

end

end VoucherProxy
