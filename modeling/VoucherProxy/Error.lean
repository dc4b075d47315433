import VoucherProxy.Foundation.Json

namespace VoucherProxy

/-! Everything the proxy can refuse or fail with, and the response it becomes. -/

structure StatusCode where
  code : Nat
  valid : 100 ≤ code ∧ code < 1000
  deriving DecidableEq, Repr

namespace StatusCode

def ok : StatusCode := ⟨200, by decide⟩
def badRequest : StatusCode := ⟨400, by decide⟩
def unauthorized : StatusCode := ⟨401, by decide⟩
def forbidden : StatusCode := ⟨403, by decide⟩
def tooManyRequests : StatusCode := ⟨429, by decide⟩
def internalServerError : StatusCode := ⟨500, by decide⟩
def badGateway : StatusCode := ⟨502, by decide⟩

def isSuccess (status : StatusCode) : Bool := 200 ≤ status.code && status.code < 300

def isServerError (status : StatusCode) : Bool := 500 ≤ status.code && status.code < 600

end StatusCode

inductive ProxyError
  | unauthorized
  /-- The token was recognised but has lapsed. -/
  | tokenExpired (expiry : String)
  | forbidden (message : String)
  | badRequest (message : String)
  | rateLimited
  | notAllowed
  /-- The controller answered, but not with success. -/
  | upstream (status : StatusCode) (message : String)
  | upstreamUnreachable (message : String)
  | internal (detail : String)
  deriving DecidableEq, Repr

namespace ProxyError

def toString : ProxyError → String
  | .unauthorized => "missing or invalid API key"
  | .tokenExpired expiry => s!"this token expired on {expiry}"
  | .forbidden message => message
  | .badRequest message => message
  | .rateLimited => "rate limit exceeded — slow down"
  | .notAllowed => "this proxy only forwards hotspot voucher operations"
  | .upstream _ message => message
  | .upstreamUnreachable message => s!"cannot reach the UniFi controller: {message}"
  | .internal _ => "internal proxy error"

def status : ProxyError → StatusCode
  | .unauthorized => .unauthorized
  | .tokenExpired _ => .unauthorized
  | .forbidden _ => .forbidden
  | .notAllowed => .forbidden
  | .badRequest _ => .badRequest
  | .rateLimited => .tooManyRequests
  | .upstream status _ => status
  | .upstreamUnreachable _ => .badGateway
  | .internal _ => .internalServerError

/-- Short machine-readable tag, used in audit records. -/
def kind : ProxyError → String
  | .unauthorized => "unauthorized"
  | .tokenExpired _ => "token_expired"
  | .forbidden _ => "forbidden"
  | .notAllowed => "not_allowed"
  | .badRequest _ => "bad_request"
  | .rateLimited => "rate_limited"
  | .upstream _ _ => "upstream_error"
  | .upstreamUnreachable _ => "upstream_unreachable"
  | .internal _ => "internal"

/-- The text a client may read: internal errors are reported opaquely. -/
def message : ProxyError → String
  | .internal _ => "internal proxy error"
  | other => other.toString

end ProxyError

end VoucherProxy
