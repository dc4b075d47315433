import Mathlib.Data.List.Forall2
import VoucherProxy.Model

namespace VoucherProxy

/-! What forgiving parsing keeps of a list, and how far an odd field reaches. -/

variable [SerdeJson]

/-! ## Usable ids -/

/-- A value that can stand for an id: a string that is not empty, or a number. -/
inductive Json.Names : Json → String → Prop
  | string {text : String} (nonempty : text ≠ "") : Names (.string text) text
  | number (value : Number) : Names (.number value) value.toText

/-- The member under `key` names `id`. -/
def Json.NamesUnder (key : String) (item : Json) (id : String) : Prop :=
  ∃ value, item.get key = some value ∧ value.Names id

/-- The id of an entry stands under `id`, else under `_id`. -/
inductive HasId (item : Json) (id : String) : Prop
  | own (named : item.NamesUnder "id" id)
  | fallback (unnamed : ∀ other, ¬ item.NamesUnder "id" other) (named : item.NamesUnder "_id" id)

theorem asStr_eq_some_iff {found : Option Json} {text : String} :
    asStr found = some text ↔ ∃ value, found = some value ∧ value.Names text := by
  constructor
  · intro read
    cases found with
    | none => cases read
    | some value =>
        cases value with
        | string own =>
            have split : (if own.isEmpty then none else some own) = some text := read
            rcases Option.ite_none_left_eq_some.mp split with ⟨nonempty, same⟩
            rw [← Option.some.inj same]
            exact ⟨_, rfl, .string (by simpa using nonempty)⟩
        | number own =>
            rw [← Option.some.inj read]
            exact ⟨_, rfl, .number own⟩
        | _ => cases read
  · rintro ⟨value, rfl, names⟩
    cases names with
    | string nonempty => exact if_neg (by simpa using nonempty)
    | number own => rfl

theorem idOf_eq_some_iff {item : Json} {id : String} : idOf item = some id ↔ HasId item id := by
  rw [idOf, Option.or_eq_some_iff]
  constructor
  · rintro (own | ⟨unnamed, fallback⟩)
    · exact .own (asStr_eq_some_iff.mp own)
    · refine .fallback (fun other named => ?_) (asStr_eq_some_iff.mp fallback)
      rw [asStr_eq_some_iff.mpr named] at unnamed
      cases unnamed
  · intro has
    cases has with
    | own named => exact .inl (asStr_eq_some_iff.mpr named)
    | fallback unnamed named =>
        refine .inr ⟨?_, asStr_eq_some_iff.mpr named⟩
        apply Option.eq_none_iff_forall_ne_some.mpr
        intro other read
        exact unnamed other (asStr_eq_some_iff.mp read)

/-- The ids of the entries that have one, in order and each once. -/
inductive KeepsIds : List Json → List String → Prop
  | nil : KeepsIds [] []
  | keep {item id items ids} (has : HasId item id) (rest : KeepsIds items ids) :
      KeepsIds (item :: items) (id :: ids)
  | skip {item items ids} (without : ∀ id, ¬ HasId item id) (rest : KeepsIds items ids) :
      KeepsIds (item :: items) ids

/-- A parser that asks an entry for nothing but an id. -/
def Forgiving {α : Type} (id : α → String) (parse : Json → Option α) : Prop :=
  ∀ item, (parse item).map id = idOf item

theorem Site.forgiving : Forgiving Site.id Site.fromJson := by
  intro item
  rw [fromJson]
  cases idOf item <;> rfl

theorem Voucher.forgiving : Forgiving Voucher.id Voucher.fromJson := by
  intro item
  rw [fromJson]
  cases idOf item <;> rfl

theorem Forgiving.keepsIds {α : Type} {id : α → String} {parse : Json → Option α}
    (forgiving : Forgiving id parse) (items : List Json) :
    KeepsIds items ((items.filterMap parse).map id) := by
  induction items with
  | nil => exact .nil
  | cons item items induction =>
      have own := forgiving item
      cases parsed : parse item with
      | none =>
          rw [parsed] at own
          rw [List.filterMap_cons_none parsed]
          apply KeepsIds.skip _ induction
          intro other has
          rw [idOf_eq_some_iff.mpr has] at own
          cases own
      | some value =>
          rw [parsed] at own
          rw [List.filterMap_cons_some parsed]
          exact .keep (idOf_eq_some_iff.mp own.symm) induction

/-! ## One odd field -/

/-- The entry with the value of one field replaced. -/
def Replaced (key : String) (value item changed : Json) : Prop := changed = item.set key value

/-- The two bodies differ in one field of one entry of one of their lists. -/
inductive Edited (key : String) (value : Json) : Json → Json → Prop
  | bare (early : List Json) (item : Json) (late : List Json) :
      Edited key value (.array (early ++ item :: late))
        (.array (early ++ item.set key value :: late))
  | wrapped (before after : List (String × Json)) (name : String) (early : List Json)
      (item : Json) (late : List Json) :
      Edited key value (.object (before ++ (name, .array (early ++ item :: late)) :: after))
        (.object (before ++ (name, .array (early ++ item.set key value :: late)) :: after))

/-- The two lists are the same, or the same but for one related pair. -/
inductive ButOne {α : Type} (related : α → α → Prop) : List α → List α → Prop
  | same (items : List α) : ButOne related items items
  | differ {item edited : α} (pair : related item edited) (early late : List α) :
      ButOne related (early ++ item :: late) (early ++ edited :: late)

section

variable {α : Type} {related : α → α → Prop}

omit [SerdeJson] in
theorem rel_refl (reflexive : ∀ value, related value value) (found : Option α) :
    Option.Rel related found found := by
  cases found with
  | none => exact .none
  | some value => exact .some (reflexive value)

omit [SerdeJson] in
theorem rel_or {first second other last : Option α} (left : Option.Rel related first second)
    (right : Option.Rel related other last) :
    Option.Rel related (first.or other) (second.or last) := by
  cases left with
  | none => exact right
  | some pair => exact .some pair

omit [SerdeJson] in
theorem ButOne.insert {found other : Option α} (pair : Option.Rel related found other)
    (early late : List α) :
    ButOne related (early ++ (found.toList ++ late)) (early ++ (other.toList ++ late)) := by
  cases pair with
  | none => exact .same _
  | some pair => exact .differ pair early late

omit [SerdeJson] in
theorem ButOne.getD {found other : Option (List α)} (lists : Option.Rel (ButOne related) found other) :
    ButOne related (found.getD []) (other.getD []) := by
  cases lists with
  | none => exact .same []
  | some pair => exact pair

omit [SerdeJson] in
theorem filterMap_cons_toList {β : Type} (parse : α → Option β) (item : α) (late : List α) :
    (item :: late).filterMap parse = (parse item).toList ++ late.filterMap parse := by
  cases parsed : parse item with
  | none => exact List.filterMap_cons_none parsed
  | some value => exact List.filterMap_cons_some parsed

omit [SerdeJson] in
/-- A parser that takes related entries to related results takes lists that are
the same but for one entry to such lists again. -/
theorem ButOne.filterMap {β : Type} {alike : β → β → Prop} {parse : α → Option β}
    (carries : ∀ item other, related item other → Option.Rel alike (parse item) (parse other))
    {items others : List α} (butOne : ButOne related items others) :
    ButOne alike (items.filterMap parse) (others.filterMap parse) := by
  cases butOne with
  | same => exact .same _
  | @differ item other pair early late =>
      rw [List.filterMap_append, List.filterMap_append, filterMap_cons_toList,
        filterMap_cons_toList]
      exact .insert (carries item other pair) _ _

end

/-! ## The list that is selected -/

section

variable {related : Json → Json → Prop}

/-- Members under the same key, whose lists are the same but for one entry. -/
abbrev Mirrored (related : Json → Json → Prop) (member other : String × Json) : Prop :=
  member.1 = other.1 ∧ Option.Rel (ButOne related) member.2.asArray other.2.asArray

omit [SerdeJson] in
theorem listField_object (members : List (String × Json)) :
    listField (.object members) =
      ((((members.lookup "data").bind Json.asArray).or
        ((members.lookup "vouchers").bind Json.asArray)).or
          (members.findSome? fun member => member.2.asArray)).getD [] := by
  simp only [listField, List.findSome?_cons, List.findSome?_nil]
  cases (members.lookup "data").bind Json.asArray with
  | some items => rfl
  | none => cases (members.lookup "vouchers").bind Json.asArray <;> rfl

omit [SerdeJson] in
theorem rel_lookup {members others : List (String × Json)}
    (mirrored : List.Forall₂ (Mirrored related) members others) (key : String) :
    Option.Rel (ButOne related) ((members.lookup key).bind Json.asArray)
      ((others.lookup key).bind Json.asArray) := by
  induction mirrored with
  | nil => exact .none
  | @cons member other members others pair rest induction =>
      rcases member with ⟨present, value⟩
      rcases other with ⟨otherPresent, otherValue⟩
      rcases pair with ⟨rfl, lists⟩
      rw [lookup_cons_ite, lookup_cons_ite]
      split
      · exact lists
      · exact induction

omit [SerdeJson] in
theorem rel_first {members others : List (String × Json)}
    (mirrored : List.Forall₂ (Mirrored related) members others) :
    Option.Rel (ButOne related) (members.findSome? fun member => member.2.asArray)
      (others.findSome? fun member => member.2.asArray) := by
  have first : ∀ (member : String × Json) members,
      (member :: members).findSome? (fun member => member.2.asArray) =
        member.2.asArray.or (members.findSome? fun member => member.2.asArray) := by
    intro member members
    rw [List.findSome?_cons]
    cases member.2.asArray <;> rfl
  induction mirrored with
  | nil => exact .none
  | cons pair rest induction =>
      rw [first, first]
      exact rel_or pair.2 induction

omit [SerdeJson] in
/-- Which list is selected does not depend on what its entries hold. -/
theorem ButOne.listField {members others : List (String × Json)}
    (mirrored : List.Forall₂ (Mirrored related) members others) :
    ButOne related (listField (.object members)) (listField (.object others)) := by
  rw [listField_object, listField_object]
  exact .getD (rel_or (rel_or (rel_lookup mirrored "data") (rel_lookup mirrored "vouchers"))
    (rel_first mirrored))

omit [SerdeJson] in
theorem Edited.listField {key : String} {value body other : Json}
    (edited : Edited key value body other) :
    ButOne (Replaced key value) (listField body) (listField other) := by
  have replaced : ∀ item : Json, Replaced key value item (item.set key value) := fun _ => rfl
  cases edited with
  | bare early item late => exact .differ (replaced item) early late
  | wrapped before after name early item late =>
      have unchanged : ∀ members : List (String × Json),
          List.Forall₂ (Mirrored (Replaced key value)) members members := by
        intro members
        exact List.forall₂_same.mpr fun member _ => ⟨rfl, rel_refl .same _⟩
      apply ButOne.listField
      apply List.rel_append (unchanged before)
      exact .cons ⟨rfl, .some (.differ (replaced item) early late)⟩ (unchanged after)

end

/-! ## What an odd field reaches -/

/-- The same voucher but for what is read from the field `key`. -/
structure Voucher.SameBut (key : String) (voucher other : Voucher) : Prop where
  id : other.id = voucher.id
  code : key ≠ "code" → other.code = voucher.code
  name : key ≠ "name" → other.name = voucher.name
  timeLimitMinutes : key ≠ "timeLimitMinutes" → other.timeLimitMinutes = voucher.timeLimitMinutes
  authorizedGuestLimit : key ≠ "authorizedGuestLimit" →
    other.authorizedGuestLimit = voucher.authorizedGuestLimit
  authorizedGuestCount : key ≠ "authorizedGuestCount" →
    other.authorizedGuestCount = voucher.authorizedGuestCount
  expired : key ≠ "expired" → other.expired = voucher.expired
  expiresAt : key ≠ "expiresAt" → other.expiresAt = voucher.expiresAt
  createdAt : key ≠ "createdAt" → other.createdAt = voucher.createdAt
  dataUsageLimitMBytes : key ≠ "dataUsageLimitMBytes" →
    other.dataUsageLimitMBytes = voucher.dataUsageLimitMBytes
  rxRateLimitKbps : key ≠ "rxRateLimitKbps" → other.rxRateLimitKbps = voucher.rxRateLimitKbps
  txRateLimitKbps : key ≠ "txRateLimitKbps" → other.txRateLimitKbps = voucher.txRateLimitKbps

/-- The same site, unless `key` is one of the fields its name is read from. -/
structure Site.SameBut (key : String) (site other : Site) : Prop where
  id : other.id = site.id
  name : key ∉ ["name", "internalReference", "desc"] → other.name = site.name

section

variable {key : String}

theorem idOf_set (notId : key ∉ ["id", "_id"]) (item value : Json) :
    idOf (item.set key value) = idOf item := by
  rw [List.mem_cons, List.mem_singleton, not_or] at notId
  rw [idOf, idOf, Json.get_set_of_ne (Ne.symm notId.1), Json.get_set_of_ne (Ne.symm notId.2)]

theorem Voucher.fromJson_set (notId : key ∉ ["id", "_id"]) (item value : Json) :
    Option.Rel (SameBut key) (fromJson item) (fromJson (item.set key value)) := by
  have kept : ∀ other, key ≠ other → (item.set key value).get other = item.get other :=
    fun other different => Json.get_set_of_ne (Ne.symm different) item value
  rw [fromJson, fromJson, idOf_set notId]
  cases idOf item with
  | none => exact .none
  | some id =>
      apply Option.Rel.some
      constructor
      case id => rfl
      all_goals
        intro different
        simp only [kept _ different]

theorem Site.fromJson_set (notId : key ∉ ["id", "_id"]) (item value : Json) :
    Option.Rel (SameBut key) (fromJson item) (fromJson (item.set key value)) := by
  rw [fromJson, fromJson, idOf_set notId]
  cases idOf item with
  | none => exact .none
  | some id =>
      apply Option.Rel.some
      refine ⟨rfl, fun other => ?_⟩
      simp only [List.mem_cons, List.not_mem_nil, or_false, not_or] at other
      rcases other with ⟨name, reference, desc⟩
      simp only [Json.get_set_of_ne (Ne.symm name), Json.get_set_of_ne (Ne.symm reference),
        Json.get_set_of_ne (Ne.symm desc)]

end

/-- Forgiving parsing keeps every entry with a usable id, and an odd value in any
other field of one entry reaches nothing but what is read from that field. -/
theorem parsing_is_local (body : Json) :
    KeepsIds (listField body) ((Voucher.list body).map Voucher.id) ∧
    KeepsIds (listField body) ((Site.list body).map Site.id) ∧
    ∀ key value other, key ∉ ["id", "_id"] → Edited key value body other →
      ButOne (Voucher.SameBut key) (Voucher.list body) (Voucher.list other) ∧
      ButOne (Site.SameBut key) (Site.list body) (Site.list other) := by
  refine ⟨Voucher.forgiving.keepsIds _, Site.forgiving.keepsIds _, ?_⟩
  intro key value other notId edited
  constructor
  · apply edited.listField.filterMap
    intro item changed same
    rw [same]
    exact Voucher.fromJson_set notId item value
  · apply edited.listField.filterMap
    intro item changed same
    rw [same]
    exact Site.fromJson_set notId item value

section

/-- No number of the sample is a double. -/
local instance wholeNumbers : SerdeJson where
  errorText _ := ""
  floatText _ := ""
  fromStr _ := none

def listed (code : Json) : Json :=
  .object [("data", .array [.object [("code", code), ("id", .string "v1")],
    .object [("code", .string "orphan")], .object [("_id", .number (.posInt 7))]])]

/-- A code that is a list still leaves two vouchers, with the ids they had. -/
theorem parsing_is_local_listed :
    KeepsIds (listField (listed (.string "1234567890"))) ["v1", "7"] ∧
    ButOne (Voucher.SameBut "code") (Voucher.list (listed (.string "1234567890")))
      (Voucher.list (listed (.array []))) := by
  rcases parsing_is_local (listed (.string "1234567890")) with ⟨kept, -, reaches⟩
  exact ⟨kept, (reaches "code" (.array []) _ (by decide)
    (.wrapped [] [] "data" [] (.object [("code", .string "1234567890"), ("id", .string "v1")]) _)).1⟩

end

end VoucherProxy
