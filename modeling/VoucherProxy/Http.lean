import VoucherProxy.Auth
import VoucherProxy.Error
import VoucherProxy.RateLimit

namespace VoucherProxy

/-! A request as the server hands it on, the routes it can match, and what is
taken from the web framework. -/

structure HttpRequest where
  method : String
  /-- The path as sent, still percent-encoded. -/
  path : String
  headers : HeaderMap
  /-- The peer's address, when the server knows it. -/
  peer : Option IpAddr
  body : List UInt8

/-- What the framework itself answers when an extractor fails. -/
structure Rejection where
  status : StatusCode
  text : String
  deriving DecidableEq, Repr

structure GraphQlRequest where
  query : String
  operationName : Option String
  variableValues : Json

/-- What is taken from `axum`: decoding a path segment, refusing a request by
its announced length, and reading a body within the limit. -/
class Framework where
  pathParam : String → Except Rejection String
  oversized : Nat → HttpRequest → Option Rejection
  jsonBody : Nat → HttpRequest → Except Rejection Json
  graphQlBody : Nat → HttpRequest → Except Rejection GraphQlRequest

inductive Route
  | healthz
  | info
  | graphqlSdl
  | graphql
  | sites
  | vouchers (site : String)
  | voucher (site voucher : String)
  deriving DecidableEq, Repr

namespace Route

/-- The pattern a route is registered under. -/
def pattern : Route → String
  | .healthz => "/healthz"
  | .info => "/proxy/info"
  | .graphqlSdl => "/graphql/schema"
  | .graphql => "/graphql"
  | .sites => "/proxy/network/integration/v1/sites"
  | .vouchers _ => "/proxy/network/integration/v1/sites/{site}/hotspot/vouchers"
  | .voucher _ _ => "/proxy/network/integration/v1/sites/{site}/hotspot/vouchers/{voucher}"

/-- Matching segment by segment; a placeholder takes any one nonempty segment. -/
def ofPath (path : String) : Option Route :=
  match Text.split path '/' with
  | ["", "healthz"] => some .healthz
  | ["", "proxy", "info"] => some .info
  | ["", "graphql", "schema"] => some .graphqlSdl
  | ["", "graphql"] => some .graphql
  | ["", "proxy", "network", "integration", "v1", "sites"] => some .sites
  | ["", "proxy", "network", "integration", "v1", "sites", site, "hotspot", "vouchers"] =>
      if site.isEmpty then none else some (.vouchers site)
  | ["", "proxy", "network", "integration", "v1", "sites", site, "hotspot", "vouchers",
      id] =>
      if site.isEmpty || id.isEmpty then none else some (.voucher site id)
  | _ => none

end Route

/-- The route pattern a request matched, never its raw path. -/
def matchedRoute (request : HttpRequest) : String :=
  match Route.ofPath request.path with
  | some route => route.pattern
  | none => "unmatched"

end VoucherProxy
