import VoucherProxy.GraphQl

namespace VoucherProxy

/-! The HTTP surface: the handlers behind the routes, and the router that
refuses everything else. -/

variable [Crates]

/-! ## The four REST operations -/

/-- What an operation left behind, for its record. -/
structure Outcome (α : Type) where
  result : Except ProxyError α
  /-- Time spent waiting on the controller, in nanoseconds. -/
  upstream : Nat
  count : Option UInt32

def Operation.run {α : Type} (operation : Operation α) (caller : Caller) (guard : Guard) :
    Call (Outcome α) := do
  match ← caller.admission guard operation with
  | .error why => return ⟨.error why, 0, none⟩
  | .ok () =>
      match operation.plan with
      | .error why => return ⟨.error why, 0, none⟩
      | .ok plan =>
          let up ← Call.instant
          let body ← guard.send (plan.request guard.value.upstream)
          let now ← Call.instant
          return ⟨body.map operation.view, now - up, plan.count⟩

/-- Status and outcome tag of a result, as they are recorded. -/
def resultTag {α : Type} : Except ProxyError α → Nat × String
  | .ok _ => (200, "ok")
  | .error why => (why.status.code, why.kind)

/-- Emits the audit record for a completed operation and hands on its result. -/
def finish {α : Type} (caller : Caller) (operation : Operation α) (started : Nat)
    (outcome : Outcome α) : Call (Except ProxyError α) := do
  let tag := resultTag outcome.result
  Call.recordRequest caller.name operation.action tag.2
  Call.recordUpstream outcome.upstream
  match outcome.result, outcome.count with
  | .ok _, some count => Call.recordVouchersCreated caller.name count
  | _, _ => pure ()
  let now ← Call.instant
  let record : AuditRecord :=
    { token := caller.name
      action := operation.action
      site := operation.site
      target := operation.target
      count := outcome.count
      status := tag.1
      outcome := tag.2
      elapsed := now - started }
  Call.audit record.line
  return outcome.result

def Operation.handle {α : Type} (operation : Operation α) (caller : Caller) :
    Call (Except ProxyError α) := do
  let started ← Call.instant
  let guard ← Call.live
  let outcome ← operation.run caller guard
  finish caller operation started outcome

namespace Routes

/-- A token scoped to specific sites must not learn that other sites exist. -/
def filterSites (body : Json) (caller : Caller) : Json :=
  if caller.token.sites.any (· == "*") then body
  else
    match (body.get "data").bind Json.asArray with
    | none => body
    | some list =>
        let kept := list.filter fun site =>
          ((site.get "id").bind Json.asStr).any caller.token.allowsSite
        .object [("data", .array kept)]

def listSites (caller : Caller) : Operation Json where
  action := "sites:list"
  scope := .sitesRead
  site := none
  target := none
  plan := .ok (.call Upstream.listSites)
  view body := filterSites body caller

def listVouchers (site : String) : Operation Json where
  action := "vouchers:list"
  scope := .vouchersRead
  site := some site
  target := none
  plan := .ok (.call fun upstream => upstream.listVouchers site)
  view body := body

def createVouchers (caller : Caller) (site : String) (body : Json) : Operation Json where
  action := "vouchers:create"
  scope := .vouchersCreate
  site := some site
  target := none
  plan := Plan.create caller site (CreateVoucherRequest.parse body)
  view created := created

def deleteVoucher (site voucher : String) : Operation Json where
  action := "vouchers:revoke"
  scope := .vouchersRevoke
  site := some site
  target := some voucher
  plan := .ok (.call fun upstream => upstream.deleteVoucher site voucher)
  view deleted := deleted

end Routes

/-! ## Responses -/

inductive Content
  | empty
  | json (value : Json)
  | text (value : String)
  | html (value : String)
  | graphql (response : GraphQlResponse)

structure Response where
  status : StatusCode
  content : Content

namespace Response

def ofError (error : ProxyError) : Response :=
  ⟨error.status, .json (.object [("message", .string error.message)])⟩

def ofRejection (rejection : Rejection) : Response := ⟨rejection.status, .text rejection.text⟩

def ofResult : Except ProxyError Json → Response
  | .ok body => ⟨.ok, .json body⟩
  | .error why => ofError why

end Response

/-! ## The router -/

variable [Framework] [GraphQlEngine]

/-- What the router is built with at startup; a reload does not change it. -/
structure RouterSettings where
  maxBodyBytes : Nat
  graphqlPlayground : Bool

namespace Routes

def packageVersion : String := "0.1.1"

/-- Unauthenticated liveness probe. Reveals nothing about the controller. -/
def healthz : Call Response :=
  return ⟨.ok, .json (.object
    [("service", .string "unifi-voucher-proxy"), ("status", .string "ok")])⟩

/-- What the caller is allowed to do. -/
def infoBody (caller : Caller) : Json :=
  .object
    [("limits", .object
      [("maxValidityMinutes", .number (.posInt caller.ceilings.maxValidityMinutes)),
       ("maxVouchersPerRequest", .number (.posInt caller.ceilings.maxVouchers.toUInt64))]),
     ("scopes", .array (caller.token.scopes.map fun scope => .string scope.asStr)),
     ("service", .string "unifi-voucher-proxy"),
     ("sites", .array (caller.token.sites.map .string)),
     ("token", .string caller.token.name),
     ("version", .string packageVersion)]

def info (caller : Caller) : Call Response := do
  Call.recordRequest caller.name "info" "ok"
  return ⟨.ok, .json (infoBody caller)⟩

def graphqlSdl (caller : Caller) : Call Response := do
  Call.recordRequest caller.name "graphql:schema" "ok"
  return ⟨.ok, .text GraphQlEngine.sdl⟩

def graphqlPlayground : Call Response := return ⟨.ok, .html GraphQlEngine.graphiql⟩

/-- The document itself is not logged: variables can carry guest names. -/
def graphqlHandler (turns : List Nat) (caller : Caller) (request : GraphQlRequest) :
    Call Response := do
  let started ← Call.instant
  let response ← GraphQl.execute turns caller request
  let outcome := if response.isOk then "ok" else "graphql_errors"
  Call.recordRequest caller.name "graphql" outcome
  let now ← Call.instant
  let record : AuditRecord :=
    { token := caller.name
      action := "graphql"
      site := none
      target := some (GraphQl.describe request.query)
      count := none
      status := if response.isOk then 200 else 400
      outcome := outcome
      elapsed := now - started }
  Call.audit record.line
  return ⟨.ok, .graphql response⟩

def notAllowed (request : HttpRequest) : Call Response := do
  Call.audit (.rejected request.path s!"blocked_{request.method}" 403)
  return .ofError .notAllowed

/-- No handler that takes a caller can be reached anonymously. -/
def withCaller (request : HttpRequest) (handler : Caller → Call Response) :
    Call Response := do
  match ← Caller.fromRequestParts request with
  | .error why => return .ofError why
  | .ok caller => handler caller

def withExtracted {α : Type} (extracted : Except Rejection α) (handler : α → Call Response) :
    Call Response :=
  match extracted with
  | .error rejection => return .ofRejection rejection
  | .ok value => handler value

/-- Run an operation and answer with its result. -/
def respond (caller : Caller) (operation : Operation Json) : Call Response := do
  let result ← operation.handle caller
  return .ofResult result

/-- A `get` handler also answers `HEAD`. -/
def getting (request : HttpRequest) (handler : Call Response) : Call Response :=
  if request.method = "GET" ∨ request.method = "HEAD" then handler else notAllowed request

/-- What runs for a request, by route and method. Anything not named is refused
rather than forwarded. -/
def dispatch (settings : RouterSettings) (turns : List Nat) (request : HttpRequest) :
    Call Response :=
  match Route.ofPath request.path with
  | none => notAllowed request
  | some .healthz => getting request healthz
  | some .info => getting request (withCaller request info)
  | some .graphqlSdl => getting request (withCaller request graphqlSdl)
  | some .graphql =>
      if request.method = "POST" then
        withCaller request fun caller =>
          withExtracted (Framework.graphQlBody settings.maxBodyBytes request) fun body =>
            graphqlHandler turns caller body
      else if settings.graphqlPlayground then getting request graphqlPlayground
      else notAllowed request
  | some .sites =>
      getting request (withCaller request fun caller => respond caller (listSites caller))
  | some (.vouchers site) =>
      if request.method = "POST" then
        withCaller request fun caller =>
          withExtracted (Framework.pathParam site) fun site =>
            withExtracted (Framework.jsonBody settings.maxBodyBytes request) fun body =>
              respond caller (createVouchers caller site body)
      else
        getting request <| withCaller request fun caller =>
          withExtracted (Framework.pathParam site) fun site =>
            respond caller (listVouchers site)
  | some (.voucher site voucher) =>
      if request.method = "DELETE" then
        withCaller request fun caller =>
          withExtracted (Framework.pathParam site) fun site =>
            withExtracted (Framework.pathParam voucher) fun voucher =>
              respond caller (deleteVoucher site voucher)
      else notAllowed request

def limited (settings : RouterSettings) (turns : List Nat) (request : HttpRequest) :
    Call Response :=
  match Framework.oversized settings.maxBodyBytes request with
  | some rejection => return .ofRejection rejection
  | none => dispatch settings turns request

/-- A whole request. A response to `HEAD` carries no content. -/
def serve (settings : RouterSettings) (turns : List Nat) (request : HttpRequest) :
    Call Response := do
  let response ← limited settings turns request
  return if request.method = "HEAD" then { response with content := .empty } else response

end Routes

end VoucherProxy
