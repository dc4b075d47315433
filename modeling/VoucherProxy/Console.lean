import VoucherProxy.Confinement
import VoucherProxy.Foundation.Scan
import VoucherProxy.Minting

namespace VoucherProxy

/-! A stand-in console: it keeps the vouchers of each site in memory, and answers the
four calls, over its own envelope for each. -/

/-- How `serde_json` writes a value. -/
class SerdeText where
  toText : Json → String

def StatusCode.notFound : StatusCode := ⟨404, by decide⟩

def StatusCode.methodNotAllowed : StatusCode := ⟨405, by decide⟩

def Json.asU64 : Json → Option UInt64
  | .number (.posInt value) => some value
  | _ => none

namespace Console

structure Voucher where
  id : String
  code : String
  name : String
  timeLimitMinutes : UInt64
  authorizedGuestLimit : UInt32
  deriving DecidableEq, Repr

/-- There is no `expiresAt`, as in the real API. -/
def Voucher.toJson (voucher : Voucher) : Json :=
  .object [("authorizedGuestCount", .number (.posInt 0)),
    ("authorizedGuestLimit", .number (.posInt voucher.authorizedGuestLimit.toUInt64)),
    ("code", .string voucher.code),
    ("createdAt", .string "2026-01-01T00:00:00Z"),
    ("expired", .bool false),
    ("id", .string voucher.id),
    ("name", .string voucher.name),
    ("timeLimitMinutes", .number (.posInt voucher.timeLimitMinutes))]

/-- At least ten digits. -/
def codeText (number : UInt64) : String :=
  let digits := (toString number).toList
  String.ofList (List.replicate (10 - digits.length) '0' ++ digits)

/-- Where a request goes below the path of the API. -/
inductive Endpoint
  | sites
  | vouchers (site : String)
  | voucher (site id : String)
  deriving DecidableEq, Repr

def Endpoint.ofPath (path : String) : Option Endpoint :=
  match Text.split path '/' with
  | ["", "sites"] => some .sites
  | ["", "sites", site, "hotspot", "vouchers"] =>
      if site.isEmpty then none else some (.vouchers site)
  | ["", "sites", site, "hotspot", "vouchers", id] =>
      if site.isEmpty || id.isEmpty then none else some (.voucher site id)
  | _ => none

/-- A sign is allowed in front of the digits. -/
def parseUsize (text : String) : Option Nat :=
  let digits := match text.toList with
    | '+' :: digits => digits
    | digits => digits
  if digits.isEmpty || !digits.all Char.isDigit then none
  else
    let value := Decimal.read digits
    if value < 2 ^ 64 then some value else none

/-- The last of the values that a query gives a key. -/
def queryValue (query key : String) : Option String :=
  ((Text.split query '&').filterMap fun pair =>
    match Text.split pair '=' with
    | name :: value =>
        if name = key then some (String.intercalate "=" value) else none
    | [] => none).getLast?

def limit (query : String) : Nat :=
  min (((queryValue query "limit").bind parseUsize).getD 100) 1000

abbrev Reply := Except (StatusCode × Json) Json

def unauthorized : StatusCode × Json :=
  (.unauthorized, .object [("message", .string "Unauthorized")])

end Console

structure Console where
  /-- Scheme and address it listens on, and the path of its API. -/
  base : String
  apiKey : String
  always401 : Bool
  vouchers : String → List Console.Voucher
  next : UInt64

namespace Console

variable (console : Console)

/-- Any key that is not the configured one is refused. -/
def check (sent : UpstreamRequest) : Except (StatusCode × Json) Unit :=
  if console.always401 then .error unauthorized
  else if headerText (received (Text.utf8 sent.apiKey.expose.toList)) = some console.apiKey then
    .ok ()
  else .error unauthorized

def listSites (sent : UpstreamRequest) : Reply := do
  console.check sent
  return .object [("data", .array [.object
    [("id", .string "default"), ("internalReference", .string "default"),
      ("name", .string "Default")]])]

def listed (site : String) (count : Nat) : Json :=
  .object [("data", .array (((console.vouchers site).take count).map Voucher.toJson))]

def listVouchers (sent : UpstreamRequest) (site query : String) : Reply := do
  console.check sent
  return console.listed site (limit query)

/-- The vouchers a create makes, from what the body says or else the defaults. -/
def make (number : UInt64) (name : String) (minutes : UInt64) (guests : UInt32) : Voucher where
  id := "v" ++ toString number
  code := codeText (1000000000 + number)
  name := name
  timeLimitMinutes := minutes
  authorizedGuestLimit := guests

def made (body : Json) : List Voucher :=
  let count := ((body.get "count").bind Json.asU64).getD 1
  let minutes := ((body.get "timeLimitMinutes").bind Json.asU64).getD 60
  let name := ((body.get "name").bind Json.asStr).getD "Voucher"
  let guests := (((body.get "authorizedGuestLimit").bind Json.asU64).getD 1).toUInt32
  (List.range count.toNat).map fun index =>
    make (console.next + UInt64.ofNat index) name minutes guests

def created (vouchers : List Voucher) : Json :=
  .object [("vouchers", .array (vouchers.map Voucher.toJson))]

def createVouchers (sent : UpstreamRequest) (site : String) (body : Json) : Reply × Console :=
  match console.check sent with
  | .error why => (.error why, console)
  | .ok () =>
      let minutes := ((body.get "timeLimitMinutes").bind Json.asU64).getD 60
      if minutes = 0 ∨ minutes > 1000000 then
        (.error (.badRequest,
          .object [("message", .string "timeLimitMinutes out of range")]), console)
      else
        let made := console.made body
        (.ok (created made), { console with
          vouchers := Function.update console.vouchers site (console.vouchers site ++ made)
          next := console.next + UInt64.ofNat made.length })

def deleteVoucher (sent : UpstreamRequest) (site id : String) : Reply × Console :=
  match console.check sent with
  | .error why => (.error why, console)
  | .ok () =>
      let kept := (console.vouchers site).filter fun voucher => voucher.id ≠ id
      if kept.length = (console.vouchers site).length then
        (.error (.notFound, .object [("message", .string "Voucher not found")]), console)
      else (.ok (.object []), { console with
        vouchers := Function.update console.vouchers site kept })

variable [SerdeText] [Framework]

def written : Reply → StatusCode × String
  | .ok json => (.ok, SerdeText.toText json)
  | .error (status, json) => (status, SerdeText.toText json)

/-- A path parameter, decoded, for a handler. -/
def withParam (raw : String) (handler : String → (StatusCode × String) × Console) :
    (StatusCode × String) × Console :=
  match Framework.pathParam raw with
  | .error rejection => ((rejection.status, rejection.text), console)
  | .ok param => handler param

/-- The router. A body that is missing is refused before the handler runs. -/
def route (sent : UpstreamRequest) (query : String) :
    Option Endpoint → (StatusCode × String) × Console
  | none => ((.notFound, ""), console)
  | some .sites =>
      match sent.method with
      | .get => (written (console.listSites sent), console)
      | _ => ((.methodNotAllowed, ""), console)
  | some (.vouchers raw) =>
      match sent.method with
      | .get => console.withParam raw fun site =>
          (written (console.listVouchers sent site query), console)
      | .post => console.withParam raw fun site =>
          match sent.body with
          | none => ((⟨415, by decide⟩,
              "Expected request with `Content-Type: application/json`"), console)
          | some body =>
              let outcome := console.createVouchers sent site body
              (written outcome.1, outcome.2)
      | .delete => ((.methodNotAllowed, ""), console)
  | some (.voucher rawSite rawId) =>
      match sent.method with
      | .delete => console.withParam rawSite fun site => console.withParam rawId fun id =>
          let outcome := console.deleteVoucher sent site id
          (written outcome.1, outcome.2)
      | _ => ((.methodNotAllowed, ""), console)

/-- The endpoint of a path, and the query behind it. -/
def parts (below : String) : Option Endpoint × String :=
  match Text.split below '?' with
  | path :: query => (Endpoint.ofPath path, String.intercalate "?" query)
  | [] => (none, "")

/-- What a console answers to a request that is for it. -/
def serve (sent : UpstreamRequest) : Option ((StatusCode × String) × Console) :=
  (Text.stripStart sent.url console.base).map fun below =>
    console.route sent (parts below).2 (parts below).1

/-! ## What a request changes -/

/-- The endpoint a request is for. -/
def addressed (sent : UpstreamRequest) : Option Endpoint :=
  (Text.stripStart sent.url console.base).bind fun below => (parts below).1

/-- The console once a create is through. -/
def withMade (site : String) (body : Json) : Console :=
  { console with
    vouchers := Function.update console.vouchers site (console.vouchers site ++ console.made body)
    next := console.next + UInt64.ofNat (console.made body).length }

/-- The console once a voucher is gone. -/
def without (site id : String) : Console :=
  { console with
    vouchers := Function.update console.vouchers site
      ((console.vouchers site).filter fun voucher => voucher.id ≠ id) }

omit [SerdeText] [Framework] in
theorem vouchers_withMade (site own : String) (body : Json) :
    (console.withMade site body).vouchers own =
      if own = site then console.vouchers site ++ console.made body else console.vouchers own :=
  Function.update_apply ..

omit [SerdeText] [Framework] in
theorem vouchers_without (site own id : String) :
    (console.without site id).vouchers own =
      if own = site then (console.vouchers site).filter fun voucher => voucher.id ≠ id
      else console.vouchers own :=
  Function.update_apply ..

/-- All that a request can change. -/
inductive Changes (sent : UpstreamRequest) : Console → Prop
  | nothing : Changes sent console
  | created {raw site : String} {body : Json} : sent.method = .post → sent.body = some body →
      console.addressed sent = some (.vouchers raw) → Framework.pathParam raw = .ok site →
      Changes sent (console.withMade site body)
  | deleted {rawSite rawId site id : String} : sent.method = .delete →
      console.addressed sent = some (.voucher rawSite rawId) →
      Framework.pathParam rawSite = .ok site → Framework.pathParam rawId = .ok id →
      Changes sent (console.without site id)

omit [SerdeText] [Framework] in
theorem createVouchers_cases (sent : UpstreamRequest) (site : String) (body : Json) :
    (console.createVouchers sent site body).2 = console ∨
      (console.createVouchers sent site body).2 = console.withMade site body := by
  unfold createVouchers
  cases console.check sent with
  | error why => exact .inl rfl
  | ok _ =>
      dsimp only
      split
      · exact .inl rfl
      · exact .inr rfl

omit [SerdeText] [Framework] in
theorem deleteVoucher_cases (sent : UpstreamRequest) (site id : String) :
    (console.deleteVoucher sent site id).2 = console ∨
      (console.deleteVoucher sent site id).2 = console.without site id := by
  unfold deleteVoucher
  cases console.check sent with
  | error why => exact .inl rfl
  | ok _ =>
      dsimp only
      split
      · exact .inl rfl
      · exact .inr rfl

omit [SerdeText] in
theorem withParam_cases (raw : String)
    (handler : String → (StatusCode × String) × Console) :
    (console.withParam raw handler).2 = console ∨
      ∃ param, Framework.pathParam raw = .ok param ∧
        console.withParam raw handler = handler param := by
  unfold withParam
  cases decoded : Framework.pathParam raw with
  | error rejection => exact .inl rfl
  | ok param => exact .inr ⟨param, rfl, rfl⟩

theorem changes_route {sent : UpstreamRequest} {query : String} {endpoint : Option Endpoint}
    (here : console.addressed sent = endpoint) :
    console.Changes sent (console.route sent query endpoint).2 := by
  cases endpoint with
  | none => exact .nothing
  | some endpoint =>
      cases endpoint with
      | sites =>
          unfold route
          cases sent.method with
          | _ => exact .nothing
      | vouchers raw =>
          simp only [route]
          cases method : sent.method with
          | get =>
              simp only
              rcases console.withParam_cases raw fun site =>
                (written (console.listVouchers sent site query), console) with
                same | ⟨site, -, same⟩
              · rw [same]
                exact .nothing
              · rw [same]
                exact .nothing
          | post =>
              simp only
              rcases console.withParam_cases raw fun site =>
                match sent.body with
                | none => ((⟨415, by decide⟩,
                    "Expected request with `Content-Type: application/json`"), console)
                | some body =>
                    let outcome := console.createVouchers sent site body
                    (written outcome.1, outcome.2) with
                same | ⟨site, decoded, same⟩
              · rw [same]
                exact .nothing
              · rw [same]
                cases content : sent.body with
                | none => exact .nothing
                | some body =>
                    simp only
                    rcases console.createVouchers_cases sent site body with kept | made
                    · rw [kept]
                      exact .nothing
                    · rw [made]
                      exact .created method content here decoded
          | delete => exact .nothing
      | voucher rawSite rawId =>
          simp only [route]
          cases method : sent.method with
          | get => exact .nothing
          | post => exact .nothing
          | delete =>
              simp only
              rcases console.withParam_cases rawSite fun site => console.withParam rawId fun id =>
                let outcome := console.deleteVoucher sent site id
                (written outcome.1, outcome.2) with same | ⟨site, decoded, same⟩
              · rw [same]
                exact .nothing
              · rw [same]
                rcases console.withParam_cases rawId fun id =>
                  let outcome := console.deleteVoucher sent site id
                  (written outcome.1, outcome.2) with same | ⟨id, decodedId, same⟩
                · rw [same]
                  exact .nothing
                · rw [same]
                  simp only
                  rcases console.deleteVoucher_cases sent site id with kept | gone
                  · rw [kept]
                    exact .nothing
                  · rw [gone]
                    exact .deleted method here decoded decodedId

theorem changes_serve {sent : UpstreamRequest} {answer : StatusCode × String} {next : Console}
    (served : console.serve sent = some (answer, next)) : console.Changes sent next := by
  rcases Option.map_eq_some_iff.mp served with ⟨below, stripped, routed⟩
  have here : console.addressed sent = (parts below).1 := by
    rw [addressed, stripped]
    rfl
  have changes : console.Changes sent (console.route sent (parts below).2 (parts below).1).2 :=
    console.changes_route here
  rwa [routed] at changes

/-! ## Requests that a client forms -/

omit [SerdeText] [Framework] in
theorem ofPath_vouchers {path raw : String} (found : Endpoint.ofPath path = some (.vouchers raw)) :
    Text.split path '/' = ["", "sites", raw, "hotspot", "vouchers"] := by
  unfold Endpoint.ofPath at found
  split at found
  · cases found
  · next site same =>
      split at found
      · cases found
      · rcases Endpoint.vouchers.inj (Option.some.inj found) with rfl
        exact same
  · next site id same =>
      split at found <;> cases found
  · cases found

omit [SerdeText] [Framework] in
theorem ofPath_voucher {path rawSite rawId : String}
    (found : Endpoint.ofPath path = some (.voucher rawSite rawId)) :
    Text.split path '/' = ["", "sites", rawSite, "hotspot", "vouchers", rawId] := by
  unfold Endpoint.ofPath at found
  split at found
  · cases found
  · next site same =>
      split at found <;> cases found
  · next site id same =>
      split at found
      · cases found
      · rcases Endpoint.voucher.inj (Option.some.inj found) with ⟨rfl, rfl⟩
        exact same
  · cases found

omit [SerdeText] [Framework] in
/-- Without a query in it, the URL of a request ends in the path of its endpoint. -/
theorem split_of_addressed {sent : UpstreamRequest} {endpoint : Endpoint}
    (plain : '?' ∉ sent.url.toList) (here : console.addressed sent = some endpoint) :
    ∃ path, sent.url = console.base ++ path ∧ Endpoint.ofPath path = some endpoint := by
  rcases Option.bind_eq_some_iff.mp here with ⟨below, stripped, found⟩
  have spelled := Text.eq_append_of_stripStart stripped
  have clean : '?' ∉ below.toList := by
    rw [spelled, String.toList_append, List.mem_append] at plain
    exact fun member => plain (.inr member)
  have whole : Text.split below '?' = [below] := by
    apply Text.split_of_intercalate
    · simp
    · simpa using clean
    · simp
  rw [parts, whole] at found
  exact ⟨below, spelled, found⟩

omit [SerdeText] [Framework] in
/-- The segments of a call are those of the endpoint it gets to. -/
theorem segments_of_addressed {call : UpstreamCall} {upstream : Upstream}
    {sent : UpstreamRequest} (prepared : call.prepare upstream = .ok sent)
    (plain : '?' ∉ (upstream.base ++ call.path).toList) {endpoint : Endpoint}
    (here : console.addressed sent = some endpoint) {own pieces : List String}
    (segments : call.target.segments = "" :: own) (nonempty : own ≠ [])
    (spelled : ∀ path, Endpoint.ofPath path = some endpoint →
      Text.split path '/' = "" :: pieces) (length : own.length = pieces.length) :
    own = pieces := by
  rcases UpstreamCall.prepare_eq_ok.mp prepared with ⟨valid, rfl⟩
  rcases console.split_of_addressed plain here with ⟨rest, whole, found⟩
  have url : upstream.base ++ call.path = console.base ++ rest := whole
  have some : pieces ≠ [] := by
    rintro rfl
    exact nonempty (List.length_eq_zero_iff.mp length)
  have first : Text.split (upstream.base ++ call.path) '/' = Text.split upstream.base '/' ++ own :=
    Text.split_append_of_split ((UpstreamCall.split_path valid).trans segments) nonempty
  have second : Text.split (console.base ++ rest) '/' = Text.split console.base '/' ++ pieces :=
    Text.split_append_of_split (spelled rest found) some
  rw [url, second] at first
  exact (List.append_inj' first length.symm).2.symm

omit [SerdeText] [Framework] in
/-- A create that gets to a console is for the site that was named. -/
theorem eq_createVouchers {call : UpstreamCall} {upstream : Upstream} {sent : UpstreamRequest}
    (prepared : call.prepare upstream = .ok sent) (plain : '?' ∉ upstream.base.toList)
    {raw : String} (method : sent.method = .post)
    (here : console.addressed sent = some (.vouchers raw)) :
    IsId raw ∧ ∃ request : CreateVoucherRequest, call = .createVouchers raw request ∧
      sent.body = some (.object request.members) := by
  rcases UpstreamCall.prepare_eq_ok.mp prepared with ⟨valid, rfl⟩
  cases call with
  | createVouchers site request =>
      have isId : IsId site := valid site (by simp [UpstreamCall.ids])
      have noQuery : '?' ∉ (upstream.base ++
          (UpstreamCall.createVouchers site request).path).toList := by
        have path : (UpstreamCall.createVouchers site request).path =
            "/sites/" ++ site ++ "/hotspot/vouchers" := rfl
        have clean := isId.clean (c := '?') (by decide)
        rw [path]
        simp [plain, clean]
      have same := console.segments_of_addressed prepared noQuery here rfl (by simp)
        (fun _ => ofPath_vouchers) rfl
      rcases (List.cons.inj (List.cons.inj same).2).1 with rfl
      exact ⟨isId, request, rfl, rfl⟩
  | _ => cases method

omit [SerdeText] [Framework] in
/-- So is a delete, and for the voucher. -/
theorem eq_deleteVoucher {call : UpstreamCall} {upstream : Upstream} {sent : UpstreamRequest}
    (prepared : call.prepare upstream = .ok sent) (plain : '?' ∉ upstream.base.toList)
    {rawSite rawId : String} (method : sent.method = .delete)
    (here : console.addressed sent = some (.voucher rawSite rawId)) :
    IsId rawSite ∧ IsId rawId ∧ call = .deleteVoucher rawSite rawId := by
  rcases UpstreamCall.prepare_eq_ok.mp prepared with ⟨valid, rfl⟩
  cases call with
  | deleteVoucher site voucher =>
      have siteId : IsId site := valid site (by simp [UpstreamCall.ids])
      have voucherId : IsId voucher := valid voucher (by simp [UpstreamCall.ids])
      have noQuery : '?' ∉ (upstream.base ++
          (UpstreamCall.deleteVoucher site voucher).path).toList := by
        have path : (UpstreamCall.deleteVoucher site voucher).path =
            "/sites/" ++ site ++ "/hotspot/vouchers/" ++ voucher := rfl
        have siteClean := siteId.clean (c := '?') (by decide)
        have voucherClean := voucherId.clean (c := '?') (by decide)
        rw [path]
        simp [plain, siteClean, voucherClean]
      have same := console.segments_of_addressed prepared noQuery here rfl (by simp)
        (fun _ => ofPath_voucher) rfl
      rcases (List.cons.inj (List.cons.inj same).2).1 with rfl
      have last : voucher = rawId := by simpa using same
      subst last
      exact ⟨siteId, voucherId, rfl⟩
  | _ => cases method

end Console

end VoucherProxy
