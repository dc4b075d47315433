import VoucherProxy.Forgiving
import VoucherProxy.SiteFilter

namespace VoucherProxy

/-! Whether both surfaces show a token the same sites: the REST route passes on the
body with its list filtered, the GraphQL field reads the body for itself. -/

section

variable [Crates]

/-- The sites of the token that a body lists, in any of the accepted shapes. -/
def listedSites (token : TokenConfig) (body : Json) : Set String :=
  { id | token.allowsSite id = true ∧ ∃ entry ∈ listField body, HasId entry id }

/-- The sites of its token that a client can read from the REST route. -/
def restSites (caller : Caller) (body : Json) : Set String :=
  listedSites caller.token ((Routes.listSites caller).view body)

/-- The sites that the GraphQL field returns. -/
def graphqlSites (caller : Caller) (body : Json) : Set String :=
  { id | ∃ sites, (GraphQl.sites caller).view body = .sites sites ∧ ∃ site ∈ sites, site.id = id }

theorem graphqlSites_eq (caller : Caller) (body : Json) :
    graphqlSites caller body = listedSites caller.token body := by
  ext id
  constructor
  · rintro ⟨sites, shown, site, member, rfl⟩
    rw [← FieldValue.sites.inj shown, List.mem_filter] at member
    rcases List.mem_filterMap.mp member.1 with ⟨entry, listed, parsed⟩
    have own := Site.forgiving entry
    rw [parsed] at own
    exact ⟨member.2, entry, listed, idOf_eq_some_iff.mp own.symm⟩
  · rintro ⟨allowed, entry, listed, has⟩
    have own := Site.forgiving entry
    rw [idOf_eq_some_iff.mpr has, Option.map_eq_some_iff] at own
    rcases own with ⟨site, parsed, rfl⟩
    exact ⟨_, rfl, site,
      List.mem_filter.mpr ⟨List.mem_filterMap.mpr ⟨entry, listed, parsed⟩, allowed⟩, rfl⟩

/-- Each site of the token in the list has an entry that the REST filter
recognises: its `id` is a string of the allowlist. -/
def Recognisable (token : TokenConfig) (items : List Json) : Prop :=
  ∀ id, token.allowsSite id = true → (∃ entry ∈ items, HasId entry id) →
    ∃ entry ∈ items, HasId entry id ∧
      ∃ own, entry.get "id" = some (.string own) ∧ token.allowsSite own = true

omit [Crates] in
theorem listField_of_get {body : Json} {items : List Json}
    (data : body.get "data" = some (.array items)) : listField body = items := by
  cases body with
  | object members =>
      rw [Json.get_object] at data
      exact Envelope.listField_of_data (by rw [Envelope.listUnder, data]; rfl)
  | _ => cases data

theorem listedSites_filtered {caller : Caller} (restricted : "*" ∉ caller.token.sites)
    {body : Json} {items : List Json} (data : body.get "data" = some (.array items)) :
    restSites caller body = listedSites caller.token body ↔ Recognisable caller.token items := by
  have kept : ∀ entry, entry ∈ listField (Routes.filterSites body caller) ↔
      entry ∈ items ∧ ∃ own, entry.get "id" = some (.string own) ∧
        caller.token.allowsSite own = true := by
    intro entry
    rw [filterSites_of_data restricted data, listField_of_get rfl, List.mem_filter, kept_iff]
  constructor
  · intro same id allowed listed
    have shown : id ∈ restSites caller body := by
      rw [same]
      exact ⟨allowed, by rwa [listField_of_get data]⟩
    rcases shown with ⟨-, entry, member, has⟩
    rcases (kept entry).mp member with ⟨present, own⟩
    exact ⟨entry, present, has, own⟩
  · intro recognisable
    ext id
    constructor
    · rintro ⟨allowed, entry, member, has⟩
      refine ⟨allowed, entry, ?_, has⟩
      rw [listField_of_get data]
      exact ((kept entry).mp member).1
    · rintro ⟨allowed, listed⟩
      rw [listField_of_get data] at listed
      rcases recognisable id allowed listed with ⟨entry, present, has, own⟩
      exact ⟨allowed, entry, (kept entry).mpr ⟨present, own⟩, has⟩

/-- Both surfaces show a token the same sites exactly when it may use every site,
or the sites of its list are recognisable to the REST filter. What a client of
either surface is answered is the view of the reply. -/
theorem same_sites_iff (caller : Caller) (body : Json) :
    (restSites caller body = graphqlSites caller body ↔
      "*" ∈ caller.token.sites ∨
        ∀ items, body.get "data" = some (.array items) → Recognisable caller.token items) ∧
    (∀ events result,
      ((Routes.listSites caller).handle caller).Trace events (.pure result) →
        Answered (Routes.listSites caller) events result) ∧
    ∀ events result,
      (GraphQl.resolve caller (GraphQl.sites caller)).Trace events (.pure result) →
        ∃ own, Answered (GraphQl.sites caller) events own ∧ result = own.mapError toGql := by
  refine ⟨?_, fun events result trace => (handled_of_trace trace).answered,
    fun events result trace => (GraphQl.ended_of_trace trace).answered⟩
  rw [graphqlSites_eq]
  by_cases everySite : "*" ∈ caller.token.sites
  · have whole : Routes.filterSites body caller = body :=
      if_pos (List.any_eq_true.mpr ⟨_, everySite, by simp⟩)
    exact iff_of_true (congrArg (listedSites caller.token) whole) (.inl everySite)
  rw [or_iff_right everySite]
  by_cases data : ∃ items, body.get "data" = some (.array items)
  · rcases data with ⟨items, data⟩
    rw [listedSites_filtered everySite data]
    constructor
    · intro recognisable other found
      rw [data] at found
      cases found
      exact recognisable
    · intro recognisable
      exact recognisable items data
  · rw [not_exists] at data
    have whole : Routes.filterSites body caller = body := filterSites_of_other data
    exact iff_of_true (congrArg (listedSites caller.token) whole)
      fun items found => absurd found (data items)

end

section

open Sample

/-- The site `main` under the name its id goes by on some firmware. -/
def branchList : Json := .object [("data", .array [.object [("_id", .string "main")]])]

/-- The token of the reception may use the site, GraphQL shows it and REST does not. -/
theorem branch_is_dropped :
    receptionCaller.token.sites = ["main"] ∧ restSites receptionCaller branchList = ∅ ∧
      "main" ∈ graphqlSites receptionCaller branchList ∧
      restSites receptionCaller branchList ≠ graphqlSites receptionCaller branchList := by
  have fallback : HasId (.object [("_id", .string "main")]) "main" := idOf_eq_some_iff.mp rfl
  have allowed : receptionCaller.token.allowsSite "main" = true := by decide
  have shown : "main" ∈ graphqlSites receptionCaller branchList := by
    rw [graphqlSites_eq]
    exact ⟨allowed, _, List.mem_singleton_self _, fallback⟩
  have restricted : "*" ∉ receptionCaller.token.sites := by decide
  have data : branchList.get "data" = some (.array [.object [("_id", .string "main")]]) := rfl
  have dropped : [Json.object [("_id", .string "main")]].filter (Kept receptionCaller.token) = [] :=
    rfl
  have filtered : (Routes.listSites receptionCaller).view branchList =
      .object [("data", .array [])] := by
    rw [← dropped]
    exact filterSites_of_data restricted data
  have nothing : restSites receptionCaller branchList = ∅ := by
    rw [restSites, filtered]
    apply Set.eq_empty_of_forall_notMem
    rintro id ⟨-, entry, member, -⟩
    cases member
  refine ⟨rfl, nothing, shown, fun same => ?_⟩
  rw [← same, nothing] at shown
  exact shown

end

end VoucherProxy
