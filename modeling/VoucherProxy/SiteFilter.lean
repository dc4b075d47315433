import Mathlib.Data.Fintype.EquivFin
import VoucherProxy.Exits
import VoucherProxy.Surfaces

namespace VoucherProxy

/-! What a client that is held to some sites is told about the others: the list of
sites is filtered on each surface by code of its own. -/

/-! ## Envelopes -/

/-- Where a reply carries a list: it is the list, or has it as one of its members. -/
inductive Envelope
  | bare
  | member (before : List (String × Json)) (key : String) (after : List (String × Json))

namespace Envelope

def wrap : Envelope → List Json → Json
  | .bare, items => .array items
  | .member before key after, items => .object (before ++ (key, .array items) :: after)

/-- Whatever list the envelope carries, that list is found. -/
def Recognised (envelope : Envelope) : Prop := ∀ items, listField (envelope.wrap items) = items

theorem wrap_injective (envelope : Envelope) : Function.Injective envelope.wrap := by
  intro items others same
  cases envelope with
  | bare => simpa [wrap] using same
  | member before key after => simpa [wrap] using same

theorem recognised_bare : Envelope.bare.Recognised := fun _ => rfl

variable {before after : List (String × Json)} {key : String}

theorem lookup_member (sought : String) (value : Json) :
    (before ++ (key, value) :: after).lookup sought =
      (before.lookup sought).or (if sought = key then some value else after.lookup sought) := by
  rw [List.lookup_append, lookup_cons_ite]

/-- The first member under a key is the one that is found. -/
theorem lookup_first (absent : ∀ member ∈ before, member.1 ≠ key) (value : Json) :
    (before ++ (key, value) :: after).lookup key = some value := by
  have none : before.lookup key = none := by
    rw [List.lookup_eq_none_iff]
    intro member present
    simpa using (absent member present).symm
  rw [lookup_member, none, if_pos rfl]
  rfl

theorem asArray_eq_some {json : Json} {items : List Json} :
    json.asArray = some items ↔ json = .array items := by
  cases json <;> simp [Json.asArray]

/-- The list under a key, if there is one. -/
def listUnder (key : String) (members : List (String × Json)) : Option (List Json) :=
  (members.lookup key).bind Json.asArray

theorem listField_of_data {members : List (String × Json)} {items : List Json}
    (data : listUnder "data" members = some items) : listField (.object members) = items := by
  unfold listUnder at data
  simp [listField, data]

theorem listField_of_vouchers {members : List (String × Json)} {items : List Json}
    (noData : listUnder "data" members = none)
    (vouchers : listUnder "vouchers" members = some items) :
    listField (.object members) = items := by
  unfold listUnder at noData vouchers
  simp [listField, noData, vouchers]

theorem listField_of_neither {members : List (String × Json)}
    (noData : listUnder "data" members = none)
    (noVouchers : listUnder "vouchers" members = none) :
    listField (.object members) =
      (members.findSome? fun member => member.2.asArray).getD [] := by
  unfold listUnder at noData noVouchers
  simp [listField, noData, noVouchers]

theorem listUnder_eq_some {sought : String} {members : List (String × Json)} {items : List Json}
    (under : listUnder sought members = some items) :
    ∃ before after, members = before ++ (sought, .array items) :: after ∧
      ∀ member ∈ before, member.1 ≠ sought := by
  rcases Option.bind_eq_some_iff.mp under with ⟨value, found, isArray⟩
  rcases asArray_eq_some.mp isArray with rfl
  rcases List.lookup_eq_some_iff.mp found with ⟨before, after, split, absent⟩
  refine ⟨before, after, split, fun member present same => ?_⟩
  simpa [same] using absent member present

theorem listUnder_first (absent : ∀ member ∈ before, member.1 ≠ key) (items : List Json) :
    listUnder key (before ++ (key, .array items) :: after) = some items :=
  congrArg (Option.bind · Json.asArray) (lookup_first absent _)

/-- Another list in a member leaves the lists under other keys as they were. -/
theorem listUnder_ne {sought : String} (different : sought ≠ key) (value other : Json) :
    listUnder sought (before ++ (key, value) :: after) =
      listUnder sought (before ++ (key, other) :: after) := by
  rw [listUnder, listUnder, lookup_member, lookup_member, if_neg different, if_neg different]

/-- Another list in a member is under no key that had none. -/
theorem listUnder_eq_none {sought : String} {items : List Json}
    (nothing : listUnder sought (before ++ (key, .array items) :: after) = none)
    (others : List Json) :
    listUnder sought (before ++ (key, .array others) :: after) = none := by
  by_cases own : sought = key
  · subst own
    cases early : before.lookup sought with
    | none =>
        rw [listUnder, lookup_member, early, if_pos rfl] at nothing
        cases nothing
    | some value =>
        rw [listUnder, lookup_member, early] at nothing ⊢
        exact nothing
  · rw [listUnder_ne own _ (.array items)]
    exact nothing

theorem recognised_data (absent : ∀ member ∈ before, member.1 ≠ "data") :
    (Envelope.member before "data" after).Recognised :=
  fun items => listField_of_data (listUnder_first absent items)

theorem recognised_vouchers (absent : ∀ member ∈ before, member.1 ≠ "vouchers")
    {items : List Json}
    (noData : listUnder "data" (before ++ ("vouchers", .array items) :: after) = none) :
    (Envelope.member before "vouchers" after).Recognised := by
  intro others
  apply listField_of_vouchers _ (listUnder_first absent others)
  rw [listUnder_ne (by decide) _ (.array items)]
  exact noData

theorem recognised_first (noList : ∀ member ∈ before, member.2.asArray = none)
    {items : List Json}
    (noData : listUnder "data" (before ++ (key, .array items) :: after) = none)
    (noVouchers : listUnder "vouchers" (before ++ (key, .array items) :: after) = none) :
    (Envelope.member before key after).Recognised := by
  intro others
  have early : before.findSome? (fun member => member.2.asArray) = none :=
    List.findSome?_eq_none_iff.mpr noList
  rw [wrap, listField_of_neither (listUnder_eq_none noData others)
    (listUnder_eq_none noVouchers others), List.findSome?_append, early]
  rfl

/-- Every list that is found is in an envelope that is recognised. -/
theorem exists_recognised {body : Json} (carries : listField body ≠ []) :
    ∃ envelope : Envelope, envelope.Recognised ∧ body = envelope.wrap (listField body) := by
  have named : ∀ (envelope : Envelope) (items : List Json), envelope.Recognised →
      body = envelope.wrap items → ∃ envelope : Envelope, envelope.Recognised ∧
        body = envelope.wrap (listField body) := by
    intro envelope items recognised same
    refine ⟨envelope, recognised, ?_⟩
    rw [same, recognised items]
  cases body with
  | array items => exact ⟨.bare, recognised_bare, rfl⟩
  | object members =>
      cases data : listUnder "data" members with
      | some items =>
          rcases listUnder_eq_some data with ⟨before, after, rfl, absent⟩
          exact named _ items (recognised_data absent) rfl
      | none =>
          cases vouchers : listUnder "vouchers" members with
          | some items =>
              rcases listUnder_eq_some vouchers with ⟨before, after, rfl, absent⟩
              exact named _ items (recognised_vouchers absent data) rfl
          | none =>
              cases first : members.findSome? fun member => member.2.asArray with
              | none =>
                  refine absurd ?_ carries
                  rw [listField_of_neither data vouchers, first]
                  rfl
              | some items =>
                  rcases List.findSome?_eq_some_iff.mp first with
                    ⟨before, ⟨key, value⟩, after, rfl, isArray, noList⟩
                  rcases asArray_eq_some.mp isArray with rfl
                  exact named _ items (recognised_first noList data vouchers) rfl
  | _ => exact absurd rfl carries

/-- A list under `data` is the one that is carried. -/
theorem get_data {envelope : Envelope} (recognised : envelope.Recognised) {items list : List Json}
    (data : (envelope.wrap items).get "data" = some (.array list)) (others : List Json) :
    (envelope.wrap others).get "data" = some (.array others) := by
  have carried : ∀ {items list : List Json},
      (envelope.wrap items).get "data" = some (.array list) → list = items := by
    intro items list data
    rw [← recognised items]
    cases envelope with
    | bare => cases data
    | member before key after =>
        exact (listField_of_data (congrArg (Option.bind · Json.asArray) data)).symm
  have varies : ¬∀ list, (envelope.wrap list).get "data" = (envelope.wrap items).get "data" := by
    intro constant
    have empty := carried ((constant []).trans data)
    have single := carried ((constant [.null]).trans data)
    rw [empty] at single
    cases single
  cases envelope with
  | bare => cases data
  | member before key after =>
      simp only [wrap, Json.get_object, lookup_member] at varies ⊢
      cases early : before.lookup "data" with
      | some value => exact absurd (fun list => by simp [early]) varies
      | none =>
          by_cases own : "data" = key
          · simp [own]
          · exact absurd (fun list => by simp [own]) varies

end Envelope

/-! ## Entries for other sites -/

/-- There is a site that the token may not use. -/
theorem TokenConfig.exists_not_allowed {token : TokenConfig} (restricted : "*" ∉ token.sites) :
    ∃ id, id ≠ "" ∧ token.allowsSite id = false := by
  have injective : Function.Injective fun n => String.ofList (List.replicate n 'a') := by
    intro left right same
    simpa using congrArg List.length (String.ofList_injective same)
  have : Infinite String := Infinite.of_injective _ injective
  rcases Infinite.exists_notMem_finset ("" :: token.sites).toFinset with ⟨id, fresh⟩
  simp only [List.mem_toFinset, List.mem_cons, not_or] at fresh
  refine ⟨id, fresh.1, ?_⟩
  rw [allowsSite, List.any_eq_false]
  intro allowed member
  have notStar : allowed ≠ "*" := fun same => restricted (same ▸ member)
  have notId : allowed ≠ id := fun same => fresh.2 (same ▸ member)
  simp [notStar, notId]

section

variable [Crates]

/-- The entry is for a site that the token may not use. -/
def Hidden (token : TokenConfig) (entry : Json) : Bool :=
  (idOf entry).any fun id => !token.allowsSite id

/-- What is left of a list without the entries for other sites. -/
def visibleTo (token : TokenConfig) (items : List Json) : List Json :=
  items.filter fun entry => !Hidden token entry

/-! ## The filter of the REST route -/

/-- The entry has a string `id` of an allowed site. -/
def Kept (token : TokenConfig) (entry : Json) : Bool :=
  ((entry.get "id").bind Json.asStr).any token.allowsSite

omit [Crates] in
theorem filterSites_of_data {caller : Caller} (restricted : "*" ∉ caller.token.sites)
    {body : Json} {items : List Json} (data : body.get "data" = some (.array items)) :
    Routes.filterSites body caller =
      .object [("data", .array (items.filter (Kept caller.token)))] := by
  have noStar : caller.token.sites.any (· == "*") = false := by
    simpa using fun site member (same : site = "*") => restricted (same ▸ member)
  simp only [Routes.filterSites, noStar, data, Option.bind_some, Json.asArray]
  rfl

omit [Crates] in
theorem filterSites_of_other {caller : Caller} {body : Json}
    (noData : ∀ items, body.get "data" ≠ some (.array items)) :
    Routes.filterSites body caller = body := by
  have nothing : (body.get "data").bind Json.asArray = none := by
    rw [Option.eq_none_iff_forall_ne_some]
    intro items found
    rcases Option.bind_eq_some_iff.mp found with ⟨value, present, isArray⟩
    rw [Envelope.asArray_eq_some.mp isArray] at present
    exact noData items present
  unfold Routes.filterSites
  rw [nothing, ite_self]

omit [Crates] in
theorem kept_iff {token : TokenConfig} {entry : Json} :
    Kept token entry = true ↔
      ∃ id, entry.get "id" = some (.string id) ∧ token.allowsSite id = true := by
  rw [Kept, Option.any_eq_true]
  constructor
  · rintro ⟨id, found, allowed⟩
    rcases Option.bind_eq_some_iff.mp found with ⟨value, present, isString⟩
    cases value with
    | string text =>
        rcases Option.some.inj isString with rfl
        exact ⟨text, present, allowed⟩
    | _ => cases isString
  · rintro ⟨id, present, allowed⟩
    exact ⟨id, by rw [present]; rfl, allowed⟩

/-- Unless the allowlist has the empty string, a kept entry is for an allowed site. -/
theorem not_hidden_of_kept {token : TokenConfig} (restricted : "*" ∉ token.sites)
    (noEmpty : "" ∉ token.sites) {entry : Json} (kept : Kept token entry = true) :
    Hidden token entry = false := by
  rcases kept_iff.mp kept with ⟨id, present, allowed⟩
  have nonempty : id.isEmpty = false := by
    rw [Bool.eq_false_iff]
    intro empty
    rcases List.any_eq_true.mp allowed with ⟨site, member, admits⟩
    rcases Bool.or_eq_true_iff.mp admits with star | same
    · exact restricted (by simpa using (eq_of_beq star) ▸ member)
    · have isEmpty : site = "" := (eq_of_beq same).trans (by simpa using empty)
      exact noEmpty (isEmpty ▸ member)
  have read : idOf entry = some id := by
    simp [idOf, present, asStr, nonempty]
  simp [Hidden, read, allowed]

theorem filter_kept_visibleTo {token : TokenConfig} (restricted : "*" ∉ token.sites)
    (noEmpty : "" ∉ token.sites) (items : List Json) :
    (visibleTo token items).filter (Kept token) = items.filter (Kept token) := by
  rw [visibleTo, List.filter_filter]
  apply List.filter_congr
  intro entry _
  cases kept : Kept token entry with
  | false => rfl
  | true => simp [not_hidden_of_kept restricted noEmpty kept]

/-! ## The filter of the GraphQL field -/

theorem filter_sites_visibleTo (token : TokenConfig) (items : List Json) :
    ((visibleTo token items).filterMap Site.fromJson).filter (fun site => token.allowsSite site.id) =
      (items.filterMap Site.fromJson).filter fun site => token.allowsSite site.id := by
  rw [List.filter_filterMap, List.filter_filterMap, visibleTo, List.filterMap_filter]
  congr 1
  funext entry
  cases read : idOf entry with
  | none => simp [Site.fromJson, read]
  | some id =>
      cases allowed : token.allowsSite id <;>
        simp [Site.fromJson, Hidden, read, allowed, Option.filter]

/-! ## What a whole call answers -/

/-- What the caller of an operation is answered, given how the reply reads. -/
def Operation.answer {α : Type} (operation : Operation α) (read : Except ProxyError Json) :
    Except ProxyError α :=
  read.map operation.view

/-- A call that got no reply failed, and one that got a reply answers by it. -/
def Answered {α : Type} (operation : Operation α) (events : History)
    (result : Except ProxyError α) : Prop :=
  (exchanges events = [] ∧ ∃ why, result = .error why) ∨
    ∃ sent reply, exchanges events = [(sent, reply)] ∧ result = operation.answer reply.interpret

/-- Whatever a REST handler did, its answer is that of the operation. -/
theorem Handled.answered {α : Type} {operation : Operation α} {caller : Caller}
    {events : History} {result : Except ProxyError α}
    (handled : Handled operation caller events result) : Answered operation events result := by
  rcases handled.exchanged with nothing | ⟨plan, sent, reply, -, one, ended⟩
  · exact .inl nothing
  · exact .inr ⟨sent, reply, one, ended⟩

/-- And so is what a resolver answers, apart from how an error is shown. -/
theorem GraphQl.Ended.answered {operation : Operation FieldValue} {caller : Caller}
    {events : History} {result : Except GqlError FieldValue}
    (ended : GraphQl.Ended operation caller events result) :
    ∃ own, Answered operation events own ∧ result = own.mapError toGql := by
  rcases ended.exchanged with ⟨nothing, why, failed⟩ | ⟨plan, sent, reply, -, one, shown⟩
  · exact ⟨.error why, .inl ⟨nothing, why, rfl⟩, failed⟩
  · exact ⟨_, .inr ⟨sent, reply, one, rfl⟩, shown⟩

/-! ## What a client can tell apart -/

/-- The answers on both surfaces are the same for every list that differs in
entries for other sites only. -/
def Conceals (caller : Caller) (envelope : Envelope) (items : List Json) : Prop :=
  ∀ others, visibleTo caller.token others = visibleTo caller.token items →
    (Routes.listSites caller).answer (.ok (envelope.wrap others)) =
        (Routes.listSites caller).answer (.ok (envelope.wrap items)) ∧
      (GraphQl.sites caller).answer (.ok (envelope.wrap others)) =
        (GraphQl.sites caller).answer (.ok (envelope.wrap items))

namespace Conceals

variable {caller : Caller} {envelope : Envelope} {items : List Json}

theorem of_data (restricted : "*" ∉ caller.token.sites) (noEmpty : "" ∉ caller.token.sites)
    (recognised : envelope.Recognised)
    (data : ∀ list, (envelope.wrap list).get "data" = some (.array list)) :
    Conceals caller envelope items := by
  intro others same
  have rest : ∀ list, Routes.filterSites (envelope.wrap list) caller =
      .object [("data", .array ((visibleTo caller.token list).filter (Kept caller.token)))] := by
    intro list
    rw [filterSites_of_data restricted (data list),
      filter_kept_visibleTo restricted noEmpty]
  have graphql : ∀ list, (Site.list (envelope.wrap list)).filter
        (fun site => caller.token.allowsSite site.id) =
      ((visibleTo caller.token list).filterMap Site.fromJson).filter
        fun site => caller.token.allowsSite site.id := by
    intro list
    rw [Site.list, recognised list, filter_sites_visibleTo]
  refine ⟨congrArg Except.ok ?_, congrArg (fun sites => Except.ok (FieldValue.sites sites)) ?_⟩
  · exact (rest others).trans ((rest items).trans (by rw [same])).symm
  · exact (graphql others).trans ((graphql items).trans (by rw [same])).symm

/-- One more entry for another site is hidden. -/
theorem visibleTo_cons {token : TokenConfig} {entry : Json} (hidden : Hidden token entry = true)
    (items : List Json) : visibleTo token (entry :: items) = visibleTo token items := by
  simp [visibleTo, hidden]

theorem data_of_conceals (restricted : "*" ∉ caller.token.sites)
    (recognised : envelope.Recognised) (conceals : Conceals caller envelope items) :
    ∃ list, (envelope.wrap items).get "data" = some (.array list) := by
  rcases caller.token.exists_not_allowed restricted with ⟨id, nonempty, other⟩
  by_contra noData
  have noData : ∀ others list, (envelope.wrap others).get "data" ≠ some (.array list) :=
    fun others list data => noData ⟨items, Envelope.get_data recognised data items⟩
  have hidden : Hidden caller.token (.object [("id", .string id)]) = true := by
    simp [Hidden, idOf, asStr, nonempty, other, lookup_cons_ite]
  have told := (conceals _ (visibleTo_cons hidden items)).1
  have same : Routes.filterSites (envelope.wrap (.object [("id", .string id)] :: items)) caller =
      Routes.filterSites (envelope.wrap items) caller := Except.ok.inj told
  rw [filterSites_of_other (noData _), filterSites_of_other (noData _)] at same
  have longer := congrArg List.length (envelope.wrap_injective same)
  simp at longer

theorem noEmpty_of_conceals (restricted : "*" ∉ caller.token.sites)
    (recognised : envelope.Recognised) {list : List Json}
    (data : (envelope.wrap items).get "data" = some (.array list))
    (conceals : Conceals caller envelope items) : "" ∉ caller.token.sites := by
  rcases caller.token.exists_not_allowed restricted with ⟨id, nonempty, other⟩
  intro hasEmpty
  let entry : Json := .object [("id", .string ""), ("_id", .string id)]
  have hidden : Hidden caller.token entry = true := by
    simp [entry, Hidden, idOf, asStr, nonempty, other, lookup_cons_ite]
  have kept : Kept caller.token entry = true :=
    kept_iff.mpr ⟨"", rfl, List.any_eq_true.mpr ⟨"", hasEmpty, by simp⟩⟩
  have told := (conceals _ (visibleTo_cons hidden items)).1
  have same : Routes.filterSites (envelope.wrap (entry :: items)) caller =
      Routes.filterSites (envelope.wrap items) caller := Except.ok.inj told
  rw [filterSites_of_data restricted (Envelope.get_data recognised data _),
    filterSites_of_data restricted (Envelope.get_data recognised data _)] at same
  simp [kept] at same

end Conceals

/-- The list of sites conceals the others exactly when it comes under `data` and
the allowlist has no empty string. Nothing but the answer to the reply gets to the
client of either surface. -/
theorem conceals_iff {caller : Caller} (restricted : "*" ∉ caller.token.sites)
    {envelope : Envelope} (recognised : envelope.Recognised) (items : List Json) :
    (Conceals caller envelope items ↔
      (∃ list, (envelope.wrap items).get "data" = some (.array list)) ∧
        "" ∉ caller.token.sites) ∧
    (∀ events result,
      ((Routes.listSites caller).handle caller).Trace events (.pure result) →
        Answered (Routes.listSites caller) events result) ∧
    ∀ events result,
      (GraphQl.resolve caller (GraphQl.sites caller)).Trace events (.pure result) →
        ∃ own, Answered (GraphQl.sites caller) events own ∧ result = own.mapError toGql := by
  refine ⟨⟨?_, ?_⟩, ?_, ?_⟩
  · intro conceals
    rcases Conceals.data_of_conceals restricted recognised conceals with ⟨list, data⟩
    exact ⟨⟨list, data⟩, Conceals.noEmpty_of_conceals restricted recognised data conceals⟩
  · rintro ⟨⟨list, data⟩, noEmpty⟩
    exact Conceals.of_data restricted noEmpty recognised (Envelope.get_data recognised data)
  · exact fun events result trace => (handled_of_trace trace).answered
  · exact fun events result trace => (GraphQl.ended_of_trace trace).answered

end

def mainEntry : Json := .object [("id", .string "main")]

def annexEntry : Json := .object [("id", .string "annex")]

open Sample in
theorem conceals_iff_data :
    Conceals receptionCaller (.member [] "data" []) [mainEntry, annexEntry] := by
  have recognised : (Envelope.member [] "data" []).Recognised :=
    Envelope.recognised_data (by simp)
  exact (conceals_iff (by decide) recognised _).1.mpr ⟨⟨_, rfl⟩, by decide⟩

open Sample in
/-- A bare list goes to a REST client as it is, with the sites it may not use. -/
theorem bare_list_not_concealed :
    "*" ∉ receptionCaller.token.sites ∧ Envelope.bare.Recognised ∧
      visibleTo receptionCaller.token [mainEntry, annexEntry] =
        visibleTo receptionCaller.token [mainEntry] ∧
      ¬Conceals receptionCaller .bare [mainEntry] := by
  have same : visibleTo receptionCaller.token [mainEntry, annexEntry] =
      visibleTo receptionCaller.token [mainEntry] := rfl
  refine ⟨by decide, Envelope.recognised_bare, same, fun conceals => ?_⟩
  have told : Routes.filterSites (.array [mainEntry, annexEntry]) receptionCaller =
      Routes.filterSites (.array [mainEntry]) receptionCaller :=
    Except.ok.inj (conceals _ same).1
  cases told

end VoucherProxy
