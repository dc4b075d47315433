import VoucherProxy.Exits

namespace VoucherProxy

/-! The four REST routes, from the arrival of a request to its last event. -/

/-- A route with the path segments as they were sent. -/
inductive Endpoint
  | sites
  | listing (site : String)
  | creation (site : String)
  | revocation (site voucher : String)
  deriving DecidableEq, Repr

namespace Endpoint

def ofRequest (request : HttpRequest) : Option Endpoint :=
  match Route.ofPath request.path with
  | some .sites =>
      if request.method = "GET" ∨ request.method = "HEAD" then some .sites else none
  | some (.vouchers site) =>
      if request.method = "POST" then some (.creation site)
      else if request.method = "GET" ∨ request.method = "HEAD" then some (.listing site)
      else none
  | some (.voucher site voucher) =>
      if request.method = "DELETE" then some (.revocation site voucher) else none
  | _ => none

def action : Endpoint → String
  | .sites => "sites:list"
  | .listing _ => "vouchers:list"
  | .creation _ => "vouchers:create"
  | .revocation _ _ => "vouchers:revoke"

def scope : Endpoint → Scope
  | .sites => .sitesRead
  | .listing _ => .vouchersRead
  | .creation _ => .vouchersCreate
  | .revocation _ _ => .vouchersRevoke

/-- The segment of the site, still encoded. -/
def segment : Endpoint → Option String
  | .sites => none
  | .listing site => some site
  | .creation site => some site
  | .revocation site _ => some site

variable [Framework]

/-- The token has the scope of the route and allows its site. A segment that names
no site is allowed by a token that allows every site. -/
def entitles (endpoint : Endpoint) (token : TokenConfig) : Bool :=
  token.hasScope endpoint.scope &&
    endpoint.segment.all fun segment =>
      match Framework.pathParam segment with
      | .ok site => token.allowsSite site
      | .error _ => token.sites.any (· == "*")

variable [Crates] [GraphQlEngine]

/-- What the handler does for a caller, if the framework extracts all it takes. -/
def operation (settings : RouterSettings) (request : HttpRequest) (caller : Caller) :
    Endpoint → Except Rejection (Operation Json)
  | .sites => return Routes.listSites caller
  | .listing site => do
      let site ← Framework.pathParam site
      return Routes.listVouchers site
  | .creation site => do
      let site ← Framework.pathParam site
      let body ← Framework.jsonBody settings.maxBodyBytes request
      return Routes.createVouchers caller site body
  | .revocation site voucher => do
      let site ← Framework.pathParam site
      let voucher ← Framework.pathParam voucher
      return Routes.deleteVoucher site voucher

/-- The router runs the operation of the route once the caller is known. -/
theorem dispatch_eq (settings : RouterSettings) (turns : List Nat) {request : HttpRequest}
    {endpoint : Endpoint} (asks : ofRequest request = some endpoint) :
    Routes.dispatch settings turns request =
      Routes.withCaller request fun caller =>
        Routes.withExtracted (endpoint.operation settings request caller)
          (Routes.respond caller) := by
  have bound : ∀ {α β : Type} (extracted : Except Rejection α)
      (next : α → Except Rejection β) (handler : β → Call Response),
      Routes.withExtracted (extracted >>= next) handler =
        Routes.withExtracted extracted fun value =>
          Routes.withExtracted (next value) handler := by
    intro α β extracted next handler
    cases extracted <;> rfl
  unfold ofRequest at asks
  unfold Routes.dispatch
  cases found : Route.ofPath request.path with
  | none => simp [found] at asks
  | some route =>
      cases route with
      | sites =>
          simp only [found, Option.ite_none_right_eq_some, Option.some.injEq] at asks
          rcases asks with ⟨reads, rfl⟩
          simp only [Routes.getting, if_pos reads]
          rfl
      | vouchers site =>
          simp only [found] at asks
          by_cases posts : request.method = "POST"
          · simp only [posts, if_true, Option.some.injEq] at asks ⊢
            subst asks
            simp only [operation, bound]
            rfl
          · simp only [posts, if_false, Option.ite_none_right_eq_some,
              Option.some.injEq] at asks ⊢
            rcases asks with ⟨reads, rfl⟩
            simp only [Routes.getting, if_pos reads, operation, bound]
            rfl
      | voucher site voucher =>
          simp only [found, Option.ite_none_right_eq_some, Option.some.injEq] at asks
          rcases asks with ⟨deletes, rfl⟩
          simp only [if_pos deletes, operation, bound]
          rfl
      | _ => simp [found] at asks

omit [GraphQlEngine] in
/-- An operation that was extracted is the one of its route. -/
theorem operation_eq_ok {settings : RouterSettings} {request : HttpRequest} {caller : Caller}
    {endpoint : Endpoint} {operation : Operation Json}
    (takes : endpoint.operation settings request caller = .ok operation) :
    operation.action = endpoint.action ∧
      (caller.permits operation = .ok () ↔ endpoint.entitles caller.token = true) := by
  rw [Caller.permits_eq_ok]
  cases endpoint with
  | sites =>
      rcases Except.ok.inj takes with rfl
      refine ⟨rfl, ?_⟩
      simp [entitles, segment, scope, Routes.listSites]
  | listing site =>
      rcases bind_eq_ok.mp takes with ⟨decoded, decodes, made⟩
      rcases Except.ok.inj made with rfl
      refine ⟨rfl, ?_⟩
      simp [entitles, segment, scope, decodes, Routes.listVouchers]
  | creation site =>
      rcases bind_eq_ok.mp takes with ⟨decoded, decodes, rest⟩
      rcases bind_eq_ok.mp rest with ⟨body, -, made⟩
      rcases Except.ok.inj made with rfl
      refine ⟨rfl, ?_⟩
      simp [entitles, segment, scope, decodes, Routes.createVouchers]
  | revocation site voucher =>
      rcases bind_eq_ok.mp takes with ⟨decoded, decodes, rest⟩
      rcases bind_eq_ok.mp rest with ⟨id, -, made⟩
      rcases Except.ok.inj made with rfl
      refine ⟨rfl, ?_⟩
      simp [entitles, segment, scope, decodes, Routes.deleteVoucher]

omit [GraphQlEngine] in
theorem operation_sanctioned {settings : RouterSettings} {request : HttpRequest}
    {caller : Caller} {endpoint : Endpoint} {operation : Operation Json}
    (takes : endpoint.operation settings request caller = .ok operation) :
    operation.Sanctioned caller := by
  cases endpoint with
  | sites =>
      rcases Except.ok.inj takes with rfl
      exact Acting.listSites_sanctioned caller
  | listing site =>
      rcases bind_eq_ok.mp takes with ⟨decoded, -, made⟩
      rcases Except.ok.inj made with rfl
      exact Acting.listVouchers_sanctioned caller decoded
  | creation site =>
      rcases bind_eq_ok.mp takes with ⟨decoded, -, rest⟩
      rcases bind_eq_ok.mp rest with ⟨body, -, made⟩
      rcases Except.ok.inj made with rfl
      exact Acting.createVouchers_sanctioned caller decoded body
  | revocation site voucher =>
      rcases bind_eq_ok.mp takes with ⟨decoded, -, rest⟩
      rcases bind_eq_ok.mp rest with ⟨id, -, made⟩
      rcases Except.ok.inj made with rfl
      exact Acting.deleteVoucher_sanctioned caller decoded id

end Endpoint

/-! ## Extraction -/

section Extraction

variable [Crates]

/-- The steps of an extraction that nothing has refused so far. -/
def extracts : Event Effect Answer → Bool
  | ⟨.live, _⟩ => true
  | ⟨.checkIp _ _, granted⟩ => granted
  | ⟨.cacheGet _ _, _⟩ => true
  | ⟨.cacheInsert _ _ _, _⟩ => true
  | ⟨.nowUtc, _⟩ => true
  | _ => false

def Extracting (events : History) : Prop := ∀ event ∈ events, extracts event = true

/-- Why extraction refuses a token: the name and the reason it records, and the error. -/
inductive Refusal (guard : Guard) : String → String → ProxyError → Prop
  | missing : Refusal guard "-" "missing_token" .unauthorized
  | unknown : Refusal guard "-" "unknown_token" .unauthorized
  | expired {token : TokenConfig} (known : token ∈ guard.value.auth.tokens.map Prod.fst)
      (text : String) : Refusal guard token.name "token_expired" (.tokenExpired text)

/-- What a refusal leaves: one line and one count. -/
def refusing (request : HttpRequest) (token reason : String) (why : ProxyError) : History :=
  [⟨.audit (.rejected request.path reason why.status.code), ()⟩,
    ⟨.recordRequest token (matchedRoute request) reason, ()⟩]

/-- How extraction ends: silently with a caller of the `Live` it loaded, or in a
refusal of the address or of the token. -/
inductive Extraction (request : HttpRequest) : History → Except ProxyError Caller → Prop
  | admitted {guard : Guard} {steps : History} {caller : Caller} (extracting : Extracting steps)
      (known : caller.token ∈ guard.value.auth.tokens.map Prod.fst) :
      Extraction request (⟨.live, guard⟩ :: steps) (.ok caller)
  | limited {guard : Guard} {ip : IpAddr} :
      Extraction request (⟨.live, guard⟩ :: ⟨.checkIp guard.slot ip, false⟩ ::
        refusing request "-" "ip_rate_limited" .rateLimited) (.error .rateLimited)
  | refused {guard : Guard} {steps : History} {token reason : String} {why : ProxyError}
      (extracting : Extracting steps) (refusal : Refusal guard token reason why) :
      Extraction request (⟨.live, guard⟩ :: (steps ++ refusing request token reason why))
        (.error why)

open Program

section

variable {request : HttpRequest} {guard : Guard}

theorem Extracting.append {early late : History} (first : Extracting early)
    (second : Extracting late) : Extracting (early ++ late) :=
  fun event member => (List.mem_append.mp member).elim (first event) (second event)

theorem Extracting.filterMap_eq_nil {α : Type} {events : History} (extracting : Extracting events)
    {select : Event Effect Answer → Option α}
    (skips : ∀ event, extracts event = true → select event = none) :
    events.filterMap select = [] :=
  List.filterMap_eq_nil_iff.mpr fun event member => skips event (extracting event member)

/-- Steps of extraction neither charge, nor send, nor record. -/
theorem Extracting.silent {events : History} (extracting : Extracting events) :
    charges events = [] ∧ exchanges events = [] ∧ audits events = [] ∧ counts events = [] := by
  refine ⟨extracting.filterMap_eq_nil ?_, extracting.filterMap_eq_nil ?_,
    extracting.filterMap_eq_nil ?_, extracting.filterMap_eq_nil ?_⟩ <;>
  · rintro ⟨effect, answer⟩ extracted
    cases effect <;> first | rfl | cases extracted

theorem refusing_of_trace {token reason : String} {why : ProxyError} {events : History}
    {result : Except ProxyError Caller}
    (trace : (Caller.refuse request token reason why).Trace events (.pure result)) :
    events = refusing request token reason why ∧ result = .error why := by
  rcases Trace.of_request trace with ⟨_, counted, rfl, tail⟩
  rcases Trace.of_request tail with ⟨_, nothing, rfl, last⟩
  rcases Trace.of_pure last with ⟨rfl, rfl⟩
  exact ⟨rfl, rfl⟩

/-- Refusing a token after some steps of extraction. -/
theorem Extraction.of_refuse {token reason : String} {why : ProxyError} {steps events : History}
    {result : Except ProxyError Caller} (extracting : Extracting steps)
    (refusal : Refusal guard token reason why)
    (trace : (Caller.refuse request token reason why).Trace events (.pure result)) :
    Extraction request (⟨.live, guard⟩ :: (steps ++ events)) result := by
  rcases refusing_of_trace trace with ⟨rfl, rfl⟩
  exact .refused extracting refusal

theorem admittingPeer_of_trace {events : History} {verdict : Bool}
    (trace : (Caller.admitPeer request guard).Trace events (.pure verdict)) :
    (verdict = true ∧ Extracting events) ∨
      verdict = false ∧ ∃ ip, events = [⟨.checkIp guard.slot ip, false⟩] := by
  unfold Caller.admitPeer at trace
  cases peer : request.peer with
  | none =>
      rw [peer] at trace
      rcases trace.of_pure with ⟨rfl, rfl⟩
      exact .inl ⟨rfl, by simp [Extracting]⟩
  | some ip =>
      rw [peer] at trace
      rcases Trace.of_request trace with ⟨answer, nothing, rfl, last⟩
      rcases Trace.of_pure last with ⟨rfl, rfl⟩
      cases verdict with
      | true => exact .inl ⟨rfl, by simp [Extracting, extracts]⟩
      | false => exact .inr ⟨rfl, ip, rfl⟩

/-- An entry that is found is one of the `Live`. -/
theorem authenticating_of_trace {presented : String} {events : History}
    {found : Option TokenConfig}
    (trace : (guard.authenticate presented).Trace events (.pure found)) :
    Extracting events ∧
      ∀ token, found = some token → token ∈ guard.value.auth.tokens.map Prod.fst := by
  have entries : ∀ position token,
      Authenticator.entry guard.value.auth.tokens position = some token →
        token ∈ guard.value.auth.tokens.map Prod.fst := by
    intro position token entry
    rcases Option.map_eq_some_iff.mp entry with ⟨candidate, present, rfl⟩
    exact List.mem_map_of_mem (List.mem_of_getElem? present)
  unfold Guard.authenticate at trace
  cases empty : presented.isEmpty with
  | true =>
      simp only [empty, if_true] at trace
      rcases Trace.of_pure trace with ⟨rfl, rfl⟩
      simp [Extracting]
  | false =>
      simp only [empty, Bool.false_eq_true, if_false] at trace
      rcases Trace.of_request trace with ⟨answer, later, rfl, tail⟩
      cases answer with
      | some position =>
          rcases Trace.of_pure tail with ⟨rfl, rfl⟩
          exact ⟨by simp [Extracting, extracts], entries position⟩
      | none =>
          cases scanned : Authenticator.scan guard.value.auth.tokens presented with
          | none =>
              simp only [scanned] at tail
              rcases Trace.of_pure tail with ⟨rfl, rfl⟩
              simp [Extracting, extracts]
          | some position =>
              simp only [scanned] at tail
              rcases Trace.of_request tail with ⟨_, nothing, rfl, last⟩
              rcases Trace.of_pure last with ⟨rfl, rfl⟩
              exact ⟨by simp [Extracting, extracts], entries position⟩

theorem extraction_of_trace {events : History} {result : Except ProxyError Caller}
    (trace : (Caller.fromRequestParts request).Trace events (.pure result)) :
    Extraction request events result := by
  rcases Trace.of_request trace with ⟨guard, later, rfl, checks⟩
  rcases Trace.of_bind checks with ⟨peering, verdict, rest, rfl, peer, tail⟩
  rcases admittingPeer_of_trace peer with ⟨rfl, peered⟩ | ⟨rfl, ip, rfl⟩
  · simp only [if_true] at tail
    cases header : tokenFromHeaders request.headers with
    | none =>
        simp only [header] at tail
        exact .of_refuse peered .missing tail
    | some presented =>
        simp only [header] at tail
        rcases Trace.of_bind tail with ⟨looking, found, last, rfl, look, decides⟩
        rcases authenticating_of_trace look with ⟨looked, known⟩
        have steps := peered.append looked
        rw [← List.append_assoc]
        cases found with
        | none => exact .of_refuse steps .unknown decides
        | some token =>
            have known := known token rfl
            simp only [Caller.unlessExpired] at decides
            cases expires : token.expiresAt with
            | none =>
                simp only [expires] at decides
                rcases Trace.of_pure decides with ⟨rfl, rfl⟩
                rw [List.append_nil]
                exact .admitted steps known
            | some expiry =>
                simp only [expires] at decides
                rcases Trace.of_request decides with ⟨now, ending, rfl, ended⟩
                have timed : Extracting (peering ++ looking ++ [⟨.nowUtc, now⟩]) :=
                  steps.append (by simp [Extracting, extracts])
                rw [List.append_cons]
                cases lapsed : token.isExpiredAt now with
                | true =>
                    simp only [lapsed, if_true] at ended
                    exact .of_refuse timed (.expired known _) ended
                | false =>
                    simp only [lapsed, Bool.false_eq_true, if_false] at ended
                    rcases Trace.of_pure ended with ⟨rfl, rfl⟩
                    rw [List.append_nil]
                    exact .admitted timed known
  · rcases refusing_of_trace tail with ⟨rfl, rfl⟩
    exact .limited

/-- Extraction neither charges nor sends. -/
theorem Extraction.silent {events : History} {result : Except ProxyError Caller}
    (extraction : Extraction request events result) :
    charges events = [] ∧ exchanges events = [] := by
  cases extraction with
  | admitted extracting _ => exact ⟨extracting.silent.1, extracting.silent.2.1⟩
  | limited => exact ⟨rfl, rfl⟩
  | @refused guard steps token reason why extracting _ =>
      rcases extracting.silent with ⟨uncharged, unsent, -⟩
      refine ⟨?_, ?_⟩
      · change charges (steps ++ _) = []
        rw [charges_append, uncharged]
        rfl
      · change exchanges (steps ++ _) = []
        rw [exchanges_append, unsent]
        rfl

/-- A caller that is let in has left no record. -/
theorem Extraction.unrecorded {events : History} {caller : Caller}
    (extraction : Extraction request events (.ok caller)) :
    audits events = [] ∧ counts events = [] := by
  cases extraction with
  | admitted extracting _ => exact extracting.silent.2.2

/-- A refusal leaves one line and one count, under the pattern of the route. -/
theorem Extraction.recorded {events : History} {why : ProxyError}
    (extraction : Extraction request events (.error why)) :
    ∃ token reason, audits events = [.rejected request.path reason why.status.code] ∧
      counts events = [(token, matchedRoute request, reason)] := by
  cases extraction with
  | limited => exact ⟨_, _, rfl, rfl⟩
  | @refused guard steps token reason why extracting _ =>
      rcases extracting.silent with ⟨-, -, unwritten, uncounted⟩
      refine ⟨token, reason, ?_, ?_⟩
      · change audits (steps ++ _) = _
        rw [audits_append, unwritten]
        rfl
      · change counts (steps ++ _) = _
        rw [counts_append, uncounted]
        rfl

end

end Extraction

/-! ## The whole request -/

section

variable [Crates] [Framework] [GraphQlEngine]

/-- How a request to a REST route ends. -/
inductive Served (settings : RouterSettings) (request : HttpRequest) (endpoint : Endpoint) :
    History → Response → Prop
  | oversized {rejection : Rejection}
      (exceeds : Framework.oversized settings.maxBodyBytes request = some rejection) :
      Served settings request endpoint [] (.ofRejection rejection)
  | refused {extraction : History} {why : ProxyError}
      (fits : Framework.oversized settings.maxBodyBytes request = none)
      (extracted : (Caller.fromRequestParts request).Trace extraction (.pure (.error why))) :
      Served settings request endpoint extraction (.ofError why)
  | rejected {extraction : History} {caller : Caller} {rejection : Rejection}
      (fits : Framework.oversized settings.maxBodyBytes request = none)
      (extracted : (Caller.fromRequestParts request).Trace extraction (.pure (.ok caller)))
      (rejects : endpoint.operation settings request caller = .error rejection) :
      Served settings request endpoint extraction (.ofRejection rejection)
  | handled {extraction events : History} {caller : Caller} {operation : Operation Json}
      {result : Except ProxyError Json}
      (fits : Framework.oversized settings.maxBodyBytes request = none)
      (extracted : (Caller.fromRequestParts request).Trace extraction (.pure (.ok caller)))
      (takes : endpoint.operation settings request caller = .ok operation)
      (handles : (operation.handle caller).Trace events (.pure result)) :
      Served settings request endpoint (extraction ++ events) (.ofResult result)

open Program

/-- What the client is shown: to `HEAD`, the response without its content. -/
def Response.shown (request : HttpRequest) (response : Response) : Response :=
  if request.method = "HEAD" then { response with content := .empty } else response

theorem served_of_trace {settings : RouterSettings} {turns : List Nat} {request : HttpRequest}
    {endpoint : Endpoint} (asks : Endpoint.ofRequest request = some endpoint)
    {events : History} {response : Response}
    (trace : (Routes.serve settings turns request).Trace events (.pure response)) :
    ∃ whole : Response, response = whole.shown request ∧
      Served settings request endpoint events whole := by
  rcases Trace.of_bind trace with ⟨early, whole, late, rfl, routed, stripped⟩
  rcases Trace.of_pure stripped with ⟨rfl, rfl⟩
  refine ⟨whole, rfl, ?_⟩
  rw [List.append_nil]
  unfold Routes.limited at routed
  cases size : Framework.oversized settings.maxBodyBytes request with
  | some rejection =>
      rw [size] at routed
      rcases routed.of_pure with ⟨rfl, rfl⟩
      exact .oversized size
  | none =>
      rw [size] at routed
      simp only [Endpoint.dispatch_eq settings turns asks] at routed
      rcases Trace.of_bind routed with ⟨extraction, result, later, rfl, extracted, rest⟩
      cases result with
      | error why =>
          rcases Trace.of_pure rest with ⟨rfl, rfl⟩
          rw [List.append_nil]
          exact .refused size extracted
      | ok caller =>
          simp only [Routes.withExtracted] at rest
          cases takes : endpoint.operation settings request caller with
          | error rejection =>
              rw [takes] at rest
              rcases Trace.of_pure rest with ⟨rfl, rfl⟩
              rw [List.append_nil]
              exact .rejected size extracted takes
          | ok operation =>
              rw [takes] at rest
              rcases Trace.of_bind rest with ⟨handling, ended, last, rfl, handled, answered⟩
              rcases Trace.of_pure answered with ⟨rfl, rfl⟩
              rw [List.append_nil]
              exact .handled size extracted takes handled

end

end VoucherProxy
