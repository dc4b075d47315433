import VoucherProxy.Deployment

namespace VoucherProxy

/-! What clients see of the console: a call that is answered with success shows the
vouchers as they are at that moment, and what it creates or revokes is done. -/

namespace Console

/-- How the proxy reads a voucher of the console. -/
def Voucher.view (voucher : Voucher) : VoucherProxy.Voucher where
  id := voucher.id
  code := voucher.code
  name := if voucher.name.isEmpty then none else some voucher.name
  timeLimitMinutes := (Number.posInt voucher.timeLimitMinutes).asI64
  authorizedGuestLimit := (Number.posInt voucher.authorizedGuestLimit.toUInt64).asI64
  authorizedGuestCount := some 0
  expired := false
  expiresAt := none
  createdAt := some "2026-01-01T00:00:00Z"
  dataUsageLimitMBytes := none
  rxRateLimitKbps := none
  txRateLimitKbps := none

section

variable [SerdeJson]

theorem fromJson_toJson {voucher : Voucher} (named : voucher.id ≠ "") :
    VoucherProxy.Voucher.fromJson voucher.toJson = some voucher.view := by
  have id : idOf voucher.toJson = some voucher.id := by
    have written : voucher.toJson.get "id" = some (.string voucher.id) := rfl
    have absent : voucher.toJson.get "_id" = none := rfl
    simp [idOf, written, absent, asStr, named]
  have code : (asStr (voucher.toJson.get "code")).getD "" = voucher.code := by
    have written : voucher.toJson.get "code" = some (.string voucher.code) := rfl
    rw [written, asStr]
    split
    next blank => simpa using blank.symm
    next => rfl
  have name : asStr (voucher.toJson.get "name") = voucher.view.name := rfl
  unfold VoucherProxy.Voucher.fromJson
  rw [id]
  simp only [code, name]
  rfl

theorem list_of_views {vouchers : List Voucher} (named : ∀ voucher ∈ vouchers, voucher.id ≠ "") :
    (vouchers.map Voucher.toJson).filterMap VoucherProxy.Voucher.fromJson =
      vouchers.map Voucher.view := by
  rw [List.filterMap_map]
  apply List.filterMap_eq_map_iff_forall_eq_some.mpr
  intro voucher member
  exact fromJson_toJson (named voucher member)

end

/-! ## Where a call goes -/

/-- The endpoint of a call. -/
def Endpoint.ofCall : UpstreamCall → Endpoint
  | .listSites => .sites
  | .listVouchers site => .vouchers site
  | .createVouchers site _ => .vouchers site
  | .deleteVoucher site id => .voucher site id

/-- The query of a call. -/
def queryOf : UpstreamCall → String
  | .listVouchers _ => "limit=1000"
  | _ => ""

theorem isEmpty_of_isId {id : String} (isId : IsId id) : id.isEmpty = false := by
  rw [Bool.eq_false_iff]
  exact fun blank => isId.nonempty (String.isEmpty_iff.mp blank)

theorem ofPath_site {site : String} (isId : IsId site) :
    Endpoint.ofPath ("/sites/" ++ site ++ "/hotspot/vouchers") = some (.vouchers site) := by
  have pieces : Text.split ("/sites/" ++ site ++ "/hotspot/vouchers") '/' =
      ["", "sites", site, "hotspot", "vouchers"] := by
    apply Text.split_of_intercalate
    · simp [List.intercalate]
    · have words : ∀ word ∈ ["", "sites", "hotspot", "vouchers"], '/' ∉ word.toList := by decide
      have clean := isId.clean (c := '/') (by decide)
      intro piece member
      by_cases own : piece = site
      · rw [own]
        exact clean
      · exact words piece (by simp at member ⊢; tauto)
    · simp
  simp [Endpoint.ofPath, pieces, isEmpty_of_isId isId]

theorem ofPath_id {site id : String} (isSite : IsId site) (isId : IsId id) :
    Endpoint.ofPath ("/sites/" ++ site ++ "/hotspot/vouchers/" ++ id) =
      some (.voucher site id) := by
  have valid : ∀ own ∈ (UpstreamCall.deleteVoucher site id).ids, IsId own := by
    intro own member
    rcases List.mem_cons.mp member with rfl | last
    · exact isSite
    · rw [List.mem_singleton.mp last]
      exact isId
  have pieces : Text.split (UpstreamCall.deleteVoucher site id).path '/' =
      (UpstreamCall.deleteVoucher site id).target.segments := UpstreamCall.split_path valid
  change Endpoint.ofPath (UpstreamCall.deleteVoucher site id).path = _
  simp [Endpoint.ofPath, pieces, UpstreamCall.target, Target.segments, isEmpty_of_isId isSite,
    isEmpty_of_isId isId]

/-- A call gets to its endpoint, and only a listing has a query. -/
theorem parts_path {call : UpstreamCall} (valid : ∀ id ∈ call.ids, IsId id) :
    parts call.path = (some (Endpoint.ofCall call),
      queryOf call) := by
  cases call with
  | listSites => decide +kernel
  | listVouchers site =>
      have isId := valid site (by simp [UpstreamCall.ids])
      have clean := isId.clean (c := '?') (by decide)
      have path : (UpstreamCall.listVouchers site).path =
          "/sites/" ++ site ++ "/hotspot/vouchers?limit=1000" := by
        have limit : toString Upstream.voucherPageLimit = "1000" := by decide
        simp only [UpstreamCall.path, limit, String.append_assoc]
        rfl
      have pieces : Text.split (UpstreamCall.listVouchers site).path '?' =
          ["/sites/" ++ site ++ "/hotspot/vouchers", "limit=1000"] := by
        apply Text.split_of_intercalate
        · rw [path]
          simp [List.intercalate]
        · simp [clean]
        · simp
      simp only [parts, pieces, ofPath_site isId]
      rfl
  | createVouchers site request =>
      have isId := valid site (by simp [UpstreamCall.ids])
      have clean := isId.clean (c := '?') (by decide)
      have pieces : Text.split (UpstreamCall.createVouchers site request).path '?' =
          ["/sites/" ++ site ++ "/hotspot/vouchers"] := by
        apply Text.split_of_intercalate
        · simp [UpstreamCall.path]
          rfl
        · simp [clean]
        · simp
      simp only [parts, pieces, ofPath_site isId]
      rfl
  | deleteVoucher site id =>
      have isSite := valid site (by simp [UpstreamCall.ids])
      have isId := valid id (by simp [UpstreamCall.ids])
      have cleanSite := isSite.clean (c := '?') (by decide)
      have cleanId := isId.clean (c := '?') (by decide)
      have pieces : Text.split (UpstreamCall.deleteVoucher site id).path '?' =
          ["/sites/" ++ site ++ "/hotspot/vouchers/" ++ id] := by
        apply Text.split_of_intercalate
        · simp [UpstreamCall.path]
          rfl
        · simp [cleanSite, cleanId]
        · simp
      simp only [parts, pieces, ofPath_id isSite isId]
      rfl

/-! ## What a call does -/

section

variable [SerdeJson] [SerdeText] [Framework]

/-- What a call that is answered with success does, and what it shows. -/
def Shows (before after : Console) (body : Json) : UpstreamCall → Prop
  | .listSites => after = before ∧ Site.list body = [⟨"default", "Default"⟩]
  | .listVouchers site => after = before ∧
      VoucherProxy.Voucher.list body = ((before.vouchers site).take 1000).map Voucher.view
  | .createVouchers site request => ∃ made : List Voucher,
      after.vouchers = Function.update before.vouchers site (before.vouchers site ++ made) ∧
      made.length = request.count.toNat ∧
      (∀ voucher ∈ made, voucher.name = request.name ∧
        voucher.timeLimitMinutes = request.timeLimitMinutes ∧
        voucher.authorizedGuestLimit = request.authorizedGuestLimit) ∧
      VoucherProxy.Voucher.list body = made.map Voucher.view
  | .deleteVoucher site id => (∃ voucher ∈ before.vouchers site, voucher.id = id) ∧
      after.vouchers = Function.update before.vouchers site
        ((before.vouchers site).filter fun voucher => voucher.id ≠ id)

variable (console : Console)

omit [SerdeJson] [SerdeText] [Framework] in
theorem check_cases (sent : UpstreamRequest) :
    console.check sent = .ok () ∨ console.check sent = .error unauthorized := by
  unfold check
  split
  · exact .inr rfl
  · split
    · exact .inl rfl
    · exact .inr rfl

omit [SerdeJson] [Framework] in
/-- Only what went well is answered with success. -/
theorem written_of_success {reply : Reply}
    (refuses : ∀ why, reply = .error why → why.1.isSuccess = false)
    (success : (written reply).1.isSuccess = true) :
    ∃ document, reply = .ok document ∧ written reply = (.ok, SerdeText.toText document) := by
  cases reply with
  | ok document => exact ⟨document, rfl, rfl⟩
  | error why =>
      have refused := refuses why rfl
      change why.1.isSuccess = true at success
      rw [refused] at success
      cases success

variable {console} {sent : UpstreamRequest}

omit [SerdeText] [Framework] in
theorem shows_listSites {document : Json} (listed : console.listSites sent = .ok document) :
    console.Shows console document .listSites := by
  unfold listSites at listed
  rcases console.check_cases sent with passes | fails
  · rw [passes] at listed
    cases listed
    exact ⟨rfl, rfl⟩
  · rw [fails] at listed
    cases listed

omit [SerdeText] [Framework] in
theorem shows_listVouchers {site : String} {document : Json}
    (named : ∀ voucher ∈ console.vouchers site, voucher.id ≠ "")
    (listed : console.listVouchers sent site "limit=1000" = .ok document) :
    console.Shows console document (.listVouchers site) := by
  unfold listVouchers at listed
  rcases console.check_cases sent with passes | fails
  · rw [passes] at listed
    have whole : limit "limit=1000" = 1000 := by decide +kernel
    rw [whole] at listed
    cases listed
    have views := list_of_views fun voucher
      (member : voucher ∈ (console.vouchers site).take 1000) =>
        named voucher (List.mem_of_mem_take member)
    exact ⟨rfl, views⟩
  · rw [fails] at listed
    cases listed

omit [SerdeText] [Framework] in
theorem shows_withMade (site : String) (request : CreateVoucherRequest) :
    console.Shows (console.withMade site (.object request.members))
      (created (console.made (.object request.members))) (.createVouchers site request) := by
  have length : (console.made (.object request.members)).length = request.count.toNat := by
    rw [length_made, count_members]
  have views := list_of_views fun voucher
    (member : voucher ∈ console.made (.object request.members)) => (of_made member).named
  exact ⟨_, rfl, length, fun voucher member => of_members (of_made member), views⟩

omit [SerdeText] [Framework] in
theorem shows_createVouchers {site : String} {request : CreateVoucherRequest} {document : Json}
    (made : (console.createVouchers sent site (.object request.members)).1 = .ok document) :
    console.Shows (console.createVouchers sent site (.object request.members)).2 document
      (.createVouchers site request) := by
  unfold createVouchers at made ⊢
  rcases console.check_cases sent with passes | fails
  · rw [passes] at made ⊢
    dsimp only at made ⊢
    split at made
    · cases made
    · next within =>
        rw [if_neg within]
        cases made
        exact console.shows_withMade site request
  · rw [fails] at made
    cases made

omit [SerdeText] [Framework] in
theorem shows_without {site id : String} (document : Json)
    (known : ∃ voucher ∈ console.vouchers site, voucher.id = id) :
    console.Shows (console.without site id) document (.deleteVoucher site id) :=
  ⟨known, rfl⟩

omit [SerdeText] [Framework] in
theorem shows_deleteVoucher {site id : String} {document : Json}
    (deleted : (console.deleteVoucher sent site id).1 = .ok document) :
    console.Shows (console.deleteVoucher sent site id).2 document (.deleteVoucher site id) := by
  unfold deleteVoucher at deleted ⊢
  rcases console.check_cases sent with passes | fails
  · rw [passes] at deleted ⊢
    dsimp only at deleted ⊢
    split at deleted
    · cases deleted
    · next fewer =>
        rw [if_neg fewer]
        have shorter := lt_of_le_of_ne (List.length_filter_le _ _) fewer
        rcases List.length_filter_lt_length_iff_exists.mp shorter with ⟨voucher, member, own⟩
        exact console.shows_without document ⟨voucher, member, by simpa using own⟩
  · rw [fails] at deleted
    cases deleted

omit [SerdeJson] [SerdeText] [Framework] in
/-- What is refused for want of the key is no success; what else is refused is left open. -/
theorem refused_of_check {reply : Reply} {why : StatusCode × Json}
    (fails : console.check sent = .error unauthorized → reply = .error unauthorized)
    (passes : console.check sent = .ok () → reply = .error why → why.1.isSuccess = false)
    (refused : reply = .error why) : why.1.isSuccess = false := by
  rcases console.check_cases sent with passed | failed
  · exact passes passed refused
  · rw [fails failed] at refused
    cases refused
    rfl

omit [SerdeJson] [SerdeText] [Framework] in
theorem refused_listSites {why : StatusCode × Json}
    (refused : console.listSites sent = .error why) : why.1.isSuccess = false := by
  apply refused_of_check (fun failed => by rw [listSites, failed]; rfl) _ refused
  intro passed refused
  rw [listSites, passed] at refused
  cases refused

omit [SerdeJson] [SerdeText] [Framework] in
theorem refused_listVouchers {site query : String} {why : StatusCode × Json}
    (refused : console.listVouchers sent site query = .error why) : why.1.isSuccess = false := by
  apply refused_of_check (fun failed => by rw [listVouchers, failed]; rfl) _ refused
  intro passed refused
  rw [listVouchers, passed] at refused
  cases refused

omit [SerdeJson] [SerdeText] [Framework] in
theorem refused_createVouchers {site : String} {body : Json} {why : StatusCode × Json}
    (refused : (console.createVouchers sent site body).1 = .error why) :
    why.1.isSuccess = false := by
  apply refused_of_check (fun failed => by rw [createVouchers, failed]) _ refused
  intro passed refused
  rw [createVouchers, passed] at refused
  dsimp only at refused
  split at refused <;> cases refused
  rfl

omit [SerdeJson] [SerdeText] [Framework] in
theorem refused_deleteVoucher {site id : String} {why : StatusCode × Json}
    (refused : (console.deleteVoucher sent site id).1 = .error why) :
    why.1.isSuccess = false := by
  apply refused_of_check (fun failed => by rw [deleteVoucher, failed]) _ refused
  intro passed refused
  rw [deleteVoucher, passed] at refused
  dsimp only at refused
  split at refused <;> cases refused
  rfl

/-- What the console answers with success to a call, it shows. -/
theorem shows_serve {call : UpstreamCall} {upstream : Upstream}
    (prepared : call.prepare upstream = .ok sent) (base : upstream.base = console.base)
    (ids : ∀ id, IsId id → Framework.pathParam id = .ok id)
    (named : ∀ site, ∀ voucher ∈ console.vouchers site, voucher.id ≠ "")
    {answer : StatusCode × String} {next : Console}
    (served : console.serve sent = some (answer, next)) (success : answer.1.isSuccess = true) :
    ∃ document, answer = (.ok, SerdeText.toText document) ∧ console.Shows next document call := by
  rcases UpstreamCall.prepare_eq_ok.mp prepared with ⟨valid, same⟩
  have routed : console.route sent (queryOf call) (some (Endpoint.ofCall call)) =
      (answer, next) := by
    have url : sent.url = console.base ++ call.path := by
      rw [same, ← base]
      rfl
    rw [serve, url, Text.stripStart_append, Option.map_some, parts_path valid] at served
    exact Option.some.inj served
  have method : sent.method = call.method := congrArg UpstreamRequest.method same
  have body : sent.body = call.body := congrArg UpstreamRequest.body same
  have decoded : ∀ id ∈ call.ids, Framework.pathParam id = .ok id :=
    fun id member => ids id (valid id member)
  cases call with
  | listSites =>
      simp only [route, Endpoint.ofCall, method, UpstreamCall.method] at routed
      cases routed
      rcases written_of_success (fun _ => refused_listSites) success with
        ⟨document, listed, written⟩
      exact ⟨document, written, shows_listSites listed⟩
  | listVouchers site =>
      have param := decoded site (by simp [UpstreamCall.ids])
      simp only [route, Endpoint.ofCall, method, UpstreamCall.method, withParam, param] at routed
      cases routed
      rcases written_of_success (fun _ => refused_listVouchers) success with
        ⟨document, listed, written⟩
      exact ⟨document, written, shows_listVouchers (named site) listed⟩
  | createVouchers site request =>
      have param := decoded site (by simp [UpstreamCall.ids])
      simp only [route, Endpoint.ofCall, method, body, UpstreamCall.method, UpstreamCall.body,
        withParam, param] at routed
      cases routed
      rcases written_of_success (fun _ => refused_createVouchers) success with
        ⟨document, created, written⟩
      exact ⟨document, written, shows_createVouchers created⟩
  | deleteVoucher site id =>
      have param := decoded site (by simp [UpstreamCall.ids])
      have paramId := decoded id (by simp [UpstreamCall.ids])
      simp only [route, Endpoint.ofCall, method, UpstreamCall.method, withParam, param,
        paramId] at routed
      cases routed
      rcases written_of_success (fun _ => refused_deleteVoucher) success with
        ⟨document, deleted, written⟩
      exact ⟨document, written, shows_deleteVoucher deleted⟩

end

end Console

/-! ## Whole runs -/

namespace Errand

section

variable [Crates] [SerdeText] [Framework] [GraphQlEngine]

/-- What the proxy gets when a request goes out now. -/
def replyTo (settings : RouterSettings) (state : AppState) (console : Console)
    (errands : List Errand) (slot : Nat) (sent : UpstreamRequest) (outside : Outside)
    (link : Link) : Reply :=
  (Console.surroundings.input (.send slot sent) (outside, link)
    (run settings state console errands).state.2).reply

/-- A request that is about to go out does, and the console goes on from where it was. -/
theorem run_send {settings : RouterSettings} {state : AppState} {console : Console}
    {errands : List Errand} {index slot : Nat} {sent : UpstreamRequest} {program : Call Response}
    {next : Reply → Call Response}
    (about : (run settings state console errands).threads[index]? =
      some ⟨program, .perform (.send slot sent) next⟩) (outside : Outside) (link : Link) :
    (run settings state console (errands ++ [.advance index outside link])).log =
      (run settings state console errands).log ++ [.event index
        ⟨.send slot sent, replyTo settings state console errands slot sent outside link⟩] ∧
      (run settings state console (errands ++ [.advance index outside link])).state.2 =
        Console.surroundings.after (.send slot sent) (outside, link)
          (run settings state console errands).state.2 := by
  have last : run settings state console (errands ++ [.advance index outside link]) =
      Pool.turn (server.among Console.surroundings) (run settings state console errands)
        (.advance index (outside, link)) := by
    rw [run, List.map_append, Pool.run_append]
    rfl
  rw [last]
  simp only [Pool.turn, about]
  exact ⟨rfl, rfl⟩

/-- What is written can be read again. -/
def Readable (document : Json) : Prop :=
  (Text.trim (SerdeText.toText document)).isEmpty = false ∧
    SerdeJson.fromStr (SerdeText.toText document) = some document

variable {cfg : Config} {path : Option String} {state : AppState} {errands : List Errand}
  {index slot : Nat} {outside : Outside} {sent : UpstreamRequest} {body : Json}

omit [Framework] [GraphQlEngine] in
/-- A document that is delivered is what the proxy gets. -/
theorem eq_of_interpret {document : Json} (readable : Readable document)
    (success : Reply.interpret (.answered .ok (some (SerdeText.toText document))) = .ok body) :
    body = document := by
  rcases readable with ⟨some, reads⟩
  simp only [Reply.interpret, Option.getD_some, some, reads] at success
  exact (Except.ok.inj success).symm

omit [SerdeText] [Framework] [GraphQlEngine] in
theorem success_of_interpret {status : StatusCode} {text : Option String}
    (success : Reply.interpret (.answered status text) = .ok body) : status.isSuccess = true := by
  unfold Reply.interpret at success
  dsimp only at success
  split at success
  · next isSuccess => exact isSuccess
  · cases success

/-- At any time of any run: if the answer to a call gets through and is a success, then
some request was entitled to the call, the console has done it, and what the proxy gets
are the vouchers that the console then has or has just made. -/
theorem shown (settings : RouterSettings) (console : Console)
    (deployed : Deployed cfg path state (errands ++ [.advance index outside .delivered]))
    (base : ∀ config ∈ configurations cfg path (errands ++ [.advance index outside .delivered]),
      normalizeHost config.controller.host ++ "/proxy/network/integration/v1" = console.base)
    (named : ∀ site, ∀ voucher ∈ console.vouchers site, voucher.id ≠ "")
    {program : Call Response} {next : Reply → Call Response}
    (about : (run settings state console errands).threads[index]? =
      some ⟨program, .perform (.send slot sent) next⟩)
    (readable : ∀ document, replyTo settings state console errands slot sent outside .delivered =
      .answered .ok (some (SerdeText.toText document)) → Readable document)
    (success : (replyTo settings state console errands slot sent outside .delivered).interpret =
      .ok body) :
    ∃ call, Granted cfg path (errands ++ [.advance index outside .delivered]) call ∧
      (∃ upstream, call.prepare upstream = .ok sent) ∧
      (run settings state console errands).state.2.Shows
        (run settings state console (errands ++ [.advance index outside .delivered])).state.2
        body call := by
  rcases run_send about outside .delivered with ⟨happens, after⟩
  have here : .event index ⟨.send slot sent, _⟩ ∈
      (run settings state console (errands ++ [.advance index outside .delivered])).log :=
    happens ▸ List.mem_append_right _ (List.mem_singleton_self _)
  rcases permitted settings console deployed here with
    ⟨call, upstream, prepared, ⟨used, inForce, own⟩, granted⟩
  have explained := Console.explained_run settings state console errands
  have same : upstream.base = (run settings state console errands).state.2.base := by
    rw [own, base used inForce, explained.base]
  have ids : ∀ site, ∀ voucher ∈ (run settings state console errands).state.2.vouchers site,
      voucher.id ≠ "" := by
    intro site voucher member
    rcases explained.made site voucher member with old |
      ⟨_, _, _, _, _, _, _, _, _, _, _, made⟩
    · exact named site voucher old
    · exact made.named
  cases served : (run settings state console errands).state.2.serve sent with
  | none =>
      rcases UpstreamCall.prepare_eq_ok.mp prepared with ⟨-, rfl⟩
      have stripped := Text.stripStart_append upstream.base call.path
      rw [same] at stripped
      simp [Console.serve, Upstream.prepare, same, stripped] at served
  | some outcome =>
      rcases outcome with ⟨answer, next⟩
      have answered : replyTo settings state console errands slot sent outside .delivered =
          .answered answer.1 (some answer.2) := by
        simp only [replyTo, Console.surroundings, served, Link.reply]
      have went : Console.surroundings.after (.send slot sent) (outside, .delivered)
          (run settings state console errands).state.2 = next := by
        simp only [Console.surroundings, served, Link.arrives, if_true]
      rw [answered] at readable success
      rw [after, went]
      rcases Console.shows_serve prepared same deployed.ids ids served
        (success_of_interpret success) with ⟨document, written, shows⟩
      subst written
      rw [eq_of_interpret (readable document rfl) success]
      exact ⟨call, granted, ⟨upstream, prepared⟩, shows⟩

end

end Errand

section

open Sample

local instance clerk : SerdeText := writer

/-- A listing of the vouchers of a site, up to the call. -/
def listingErrands : List Errand :=
  .arrive [] (request "GET" "/proxy/network/integration/v1/sites/main/hotspot/vouchers"
    receptionKey []) :: List.replicate 8 (.advance 0 outside .delivered)

theorem eq_of_emptyText {document : Json}
    (same : "\x7b\"data\":[]\x7d" = SerdeText.toText document) : document = emptyList := by
  change _ = emptyText document at same
  unfold emptyText at same
  split at same
  · rfl
  · exact absurd same (by decide)

def listingRequest : UpstreamRequest where
  method := .get
  url := "https://unifi.local/proxy/network/integration/v1/sites/main/hotspot/vouchers?limit=1000"
  apiKey := ⟨"controller-key"⟩
  accept := "application/json"
  body := none

theorem listing_answered :
    Errand.replyTo settings state emptyConsole listingErrands 0 listingRequest outside .delivered =
      .answered .ok (some "\x7b\"data\":[]\x7d") := by
  decide +kernel

/-- The slot and the parts of a request that is about to go out. -/
def about? : Option (Thread Effect Answer Response) →
    Option (Nat × Method × String × Secret × String × Bool)
  | some ⟨_, .perform (.send slot sent) _⟩ =>
      some (slot, sent.method, sent.url, sent.apiKey, sent.accept, sent.body.isSome)
  | _ => none

theorem listing_about : ∃ program next,
    (Errand.run settings state emptyConsole listingErrands).threads[0]? =
      some ⟨program, .perform (.send 0 listingRequest) next⟩ := by
  have parts : about? (Errand.run settings state emptyConsole listingErrands).threads[0]? =
      some (0, listingRequest.method, listingRequest.url, listingRequest.apiKey,
        listingRequest.accept, false) := by
    decide +kernel
  unfold about? at parts
  split at parts
  · next program slot sent next found =>
      rcases sent with ⟨method, url, apiKey, accept, body⟩
      simp only [Option.some.injEq, Prod.mk.injEq, Option.isSome_eq_false_iff,
        Option.isNone_iff_eq_none] at parts
      rcases parts with ⟨rfl, rfl, rfl, rfl, rfl, rfl⟩
      exact ⟨program, next, found⟩
  · cases parts

/-- An empty list of an empty console. -/
theorem Errand.shown_listing :
    ∃ call, Granted cfg (some "config.toml")
        (listingErrands ++ [.advance 0 outside .delivered]) call ∧
      (∃ upstream, call.prepare upstream = .ok listingRequest) ∧
      (run settings state emptyConsole listingErrands).state.2.Shows
        (run settings state emptyConsole
          (listingErrands ++ [.advance 0 outside .delivered])).state.2 emptyList call := by
  have digests : Set.InjOn Credentials.sha256 (Step.presented
      [.arrive [] (request "GET" "/proxy/network/integration/v1/sites/main/hotspot/vouchers"
        receptionKey [])]) := collisionFree (by decide)
  have only : configurations cfg (some "config.toml")
      (listingErrands ++ [.advance 0 outside .delivered]) = [cfg] := rfl
  have plain : ∀ config ∈ [cfg], '?' ∉ config.controller.host.toList := by decide
  have base : ∀ config ∈ [cfg], normalizeHost config.controller.host ++
      "/proxy/network/integration/v1" = emptyConsole.base := by decide +kernel
  have deployed : Deployed cfg (some "config.toml") state
      (listingErrands ++ [.advance 0 outside .delivered]) :=
    ⟨started, digests, fun _ _ => rfl, only ▸ plain⟩
  rcases listing_about with ⟨program, next, about⟩
  apply shown settings emptyConsole deployed (only ▸ base)
    (fun _ _ none => absurd none (List.not_mem_nil)) about
  · intro document answered
    rw [listing_answered] at answered
    have same : "\x7b\"data\":[]\x7d" = SerdeText.toText document :=
      Option.some.inj (Reply.answered.inj answered).2
    rw [eq_of_emptyText same]
    exact ⟨by decide, rfl⟩
  · rw [listing_answered]
    rfl

end

end VoucherProxy
