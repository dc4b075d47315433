import VoucherProxy.Http
import VoucherProxy.Policy
import VoucherProxy.State

namespace VoucherProxy

/-! An authenticated client, resolved from the request's token. -/

structure Caller where
  token : TokenConfig
  ceilings : Ceilings
  deriving DecidableEq

variable [Crates]

namespace Caller

def name (caller : Caller) : String := caller.token.name

def requireScope (caller : Caller) (scope : Scope) : Except ProxyError Unit :=
  if caller.token.hasScope scope then .ok ()
  else .error (.forbidden
    s!"token '{caller.token.name}' does not carry the {scope.asStr} scope")

def requireSite (caller : Caller) (site : String) : Except ProxyError Unit :=
  if caller.token.allowsSite site then .ok ()
  else .error (.forbidden
    s!"token '{caller.token.name}' is not allowed to use site '{site}'")

/-- Spends one unit of the caller's quota. -/
def charge (caller : Caller) (guard : Guard) (action : String) :
    Call (Except ProxyError Unit) := do
  if ← guard.check caller.token then
    return .ok ()
  else
    Call.audit (.rejected action "rate_limited" 429)
    return .error .rateLimited

/-! ## Extraction -/

/-- Leave a line and a count, then refuse. -/
def refuse (request : HttpRequest) (token reason : String) (error : ProxyError) :
    Call (Except ProxyError Caller) := do
  Call.audit (.rejected request.path reason error.status.code)
  Call.recordRequest token (matchedRoute request) reason
  return .error error

/-- Without a peer address there is no key to count against. -/
def admitPeer (request : HttpRequest) (guard : Guard) : Call Bool :=
  match request.peer with
  | none => return true
  | some ip => guard.checkIp ip

/-- The caller a token stands for under the limits in force. -/
def ofToken (token : TokenConfig) (limits : Limits) : Caller where
  token := token
  ceilings :=
    { maxVouchers := token.effectiveMaxVouchers limits
      maxValidityMinutes := token.effectiveMaxValidity limits }

/-- Checked per request, so a token stops working the moment it lapses. -/
def unlessExpired (request : HttpRequest) (guard : Guard) (token : TokenConfig) :
    Call (Except ProxyError Caller) :=
  match token.expiresAt with
  | none => return .ok (ofToken token guard.value.limits)
  | some expiry => do
      let now ← Call.nowUtc
      if token.isExpiredAt now then
        refuse request token.name "token_expired"
          (.tokenExpired ((TimeFormat.rfc3339 expiry).getD "an earlier date"))
      else
        return .ok (ofToken token guard.value.limits)

/-- The checks on the `Live` that was loaded for them. -/
def fromLive (request : HttpRequest) (guard : Guard) : Call (Except ProxyError Caller) := do
  -- Charged before the token is even read: verifying a wrong one is expensive.
  if ← admitPeer request guard then
    match tokenFromHeaders request.headers with
    | none => refuse request "-" "missing_token" .unauthorized
    | some presented =>
        match ← guard.authenticate presented with
        | none => refuse request "-" "unknown_token" .unauthorized
        | some token => unlessExpired request guard token
  else
    refuse request "-" "ip_rate_limited" .rateLimited

def fromRequestParts (request : HttpRequest) : Call (Except ProxyError Caller) := do
  let guard ← Call.live
  fromLive request guard

end Caller

end VoucherProxy
