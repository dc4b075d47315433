import VoucherProxy.Foundation.Url
import VoucherProxy.Upstream

namespace VoucherProxy

/-! The readers of `controller.host`: the test for plaintext, the base of the proxy's
calls, and the base that `fetch-fingerprint` probes. -/

/-- The base whose certificate `fetch-fingerprint` reads. -/
def fetchFingerprintBase (host : String) : String :=
  if Text.startsWith host "http://" || Text.startsWith host "https://" then
    Text.trimEndMatches host '/'
  else "https://" ++ Text.trimEndMatches host '/'

/-! ## What the operator wrote -/

section

variable {host : String}

end

end VoucherProxy
