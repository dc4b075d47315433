import VoucherProxy.Config
import VoucherProxy.Error
import VoucherProxy.Foundation.Codec

namespace VoucherProxy

/-! The client that holds the controller's API key. There is no way to forward
an arbitrary path: the four requests below are all it can form. -/

inductive Method
  | get
  | post
  | delete
  deriving DecidableEq, Repr

/-- How the HTTP client towards the controller is set up. Times are in
milliseconds; it follows no redirect. -/
structure ClientSettings where
  verifier : Tls.Verifier
  timeout : Nat
  connectTimeout : Nat
  followRedirects : Bool
  deriving DecidableEq, Repr

/-- Whether `reqwest` can build a client with these settings. -/
class Reqwest where
  build : ClientSettings → Except String Unit

structure Upstream where
  client : ClientSettings
  /-- `https://host/proxy/network/integration/v1` -/
  base : String
  apiKey : Secret
  deriving DecidableEq

structure UpstreamRequest where
  method : Method
  url : String
  apiKey : Secret
  accept : String
  body : Option Json

/-- A request that got no answer: the error's own text followed by those of its
sources, and the two classes the client library tells apart. -/
structure TransportError where
  texts : List String
  isTimeout : Bool
  isConnect : Bool
  deriving DecidableEq, Repr

inductive Reply
  | failed (error : TransportError)
  /-- The text is `none` when the body could not be read to its end. -/
  | answered (status : StatusCode) (text : Option String)
  deriving DecidableEq, Repr

/-- Bare addresses mean https; a scheme in lower case is kept. -/
def normalizeHost (host : String) : String :=
  let trimmed := Text.trimEndMatches (Text.trim host) '/'
  if Text.startsWith trimmed "http://" || Text.startsWith trimmed "https://" then trimmed
  else s!"https://{trimmed}"

def isIdCharacter (c : Char) : Bool := Text.isAsciiAlphanumeric c || c == '-' || c == '_'

/-- Path segments come from the client, so they are whitelisted rather than
escaped. The length is counted in bytes. -/
def validateId (value what : String) : Except ProxyError String :=
  if value.isEmpty || 128 < value.utf8ByteSize then
    .error (.badRequest s!"{what} has an implausible length")
  else if !value.toList.all isIdCharacter then
    .error (.badRequest s!"{what} contains characters that are not allowed")
  else
    .ok value

theorem isIdCharacter_iff {c : Char} :
    isIdCharacter c = true ↔
      ('a' ≤ c ∧ c ≤ 'z') ∨ ('A' ≤ c ∧ c ≤ 'Z') ∨ ('0' ≤ c ∧ c ≤ '9') ∨ c = '_' ∨ c = '-' := by
  simp [isIdCharacter, Text.isAsciiAlphanumeric]
  tauto

theorem utf8Size_of_isIdCharacter {c : Char} (allowed : isIdCharacter c = true) :
    c.utf8Size = 1 := by
  rw [Char.utf8Size_eq_one_iff]
  rcases isIdCharacter_iff.mp allowed with ⟨_, last⟩ | ⟨_, last⟩ | ⟨_, last⟩ | rfl | rfl
  · exact UInt32.le_trans last (by decide)
  · exact UInt32.le_trans last (by decide)
  · exact UInt32.le_trans last (by decide)
  · decide
  · decide

/-- 1 to 128 characters of `[A-Za-z0-9_-]`. -/
structure IsId (value : String) : Prop where
  nonempty : value ≠ ""
  short : value.toList.length ≤ 128
  characters : ∀ c ∈ value.toList, isIdCharacter c = true

/-- The whitelist leaves one byte a character, so the bytes may be counted. -/
theorem validateId_cases (value what : String) :
    (IsId value ∧ validateId value what = .ok value) ∨
      (¬IsId value ∧ ∃ message, validateId value what = .error (.badRequest message)) := by
  unfold validateId
  by_cases characters : ∀ c ∈ value.toList, isIdCharacter c = true
  · rw [Text.utf8ByteSize_of_ascii fun c member => utf8Size_of_isIdCharacter (characters c member)]
    by_cases length : value.isEmpty ∨ 128 < value.toList.length
    · refine .inr ⟨?_, _, if_pos (by simpa using length)⟩
      rintro ⟨nonempty, short, -⟩
      rcases length with empty | long
      · exact nonempty (by simpa using empty)
      · omega
    · refine .inl ⟨⟨?_, ?_, characters⟩, ?_⟩
      · rintro rfl
        exact length (.inl (by decide))
      · exact Nat.le_of_not_lt fun long => length (.inr long)
      · rw [if_neg (by simpa using length), if_neg (by simpa using characters)]
  · refine .inr ⟨fun id => characters id.characters, ?_⟩
    split
    · exact ⟨_, rfl⟩
    · exact ⟨_, if_pos (by simpa using characters)⟩

theorem validateId_eq_ok {value what accepted : String} :
    validateId value what = .ok accepted ↔ IsId value ∧ accepted = value := by
  rcases validateId_cases value what with ⟨id, accepts⟩ | ⟨notId, message, refuses⟩
  · simp [accepts, id, eq_comm]
  · simp [refuses, notId]

def isControl (c : Char) : Bool := c.toNat < 32 || (127 ≤ c.toNat && c.toNat < 160)

/-- Bounds a message coming from the controller before it is echoed anywhere. -/
def clamp (raw : String) : String :=
  let cleaned := String.ofList (raw.toList.map fun c => if isControl c then ' ' else c)
  let trimmed := Text.trim cleaned
  if 200 < trimmed.toList.length then String.ofList (trimmed.toList.take 200) ++ "…"
  else trimmed

/-- Trims a transport error down to something safe and useful for a client. A
pinning failure is looked for first, anywhere in the chain of causes. -/
def shortReqwestError (error : TransportError) : String :=
  let full := String.intercalate ": " error.texts
  if Text.contains full "fingerprint mismatch" then
    "certificate fingerprint mismatch — the controller is not the one this proxy is pinned to"
  else if error.isTimeout then
    "timed out"
  else if Text.contains full "invalid peer certificate" || Text.contains full "UnknownIssuer" then
    "the controller's certificate is not trusted — pin its fingerprint with `fetch-fingerprint`"
  else if error.isConnect then
    "connection refused or host unreachable"
  else
    "request failed"

namespace Upstream

/-- The Integration API pages voucher reads at 100 by default and caps at 1000. -/
def voucherPageLimit : Nat := 1000

def new [Reqwest] (cfg : ControllerConfig) (timeout : Nat) : Except String Upstream := do
  let verifier ← Tls.clientConfig cfg.tls
  let client : ClientSettings :=
    { verifier, timeout, connectTimeout := 10000, followRedirects := false }
  Reqwest.build client
  return { client
           base := s!"{normalizeHost cfg.host}/proxy/network/integration/v1"
           apiKey := cfg.apiKey }

variable (upstream : Upstream)

def prepare (method : Method) (path : String) (body : Option Json) : UpstreamRequest where
  method := method
  url := upstream.base ++ path
  apiKey := upstream.apiKey
  accept := "application/json"
  body := body

def listSites : Except ProxyError UpstreamRequest :=
  .ok (upstream.prepare .get "/sites" none)

def listVouchers (site : String) : Except ProxyError UpstreamRequest := do
  let site ← validateId site "site id"
  return upstream.prepare .get s!"/sites/{site}/hotspot/vouchers?limit={voucherPageLimit}" none

def createVouchers (site : String) (body : Json) : Except ProxyError UpstreamRequest := do
  let site ← validateId site "site id"
  return upstream.prepare .post s!"/sites/{site}/hotspot/vouchers" (some body)

def deleteVoucher (site voucher : String) : Except ProxyError UpstreamRequest := do
  let site ← validateId site "site id"
  let voucher ← validateId voucher "voucher id"
  return upstream.prepare .delete s!"/sites/{site}/hotspot/vouchers/{voucher}" none

end Upstream

/-- What a reply of the controller means to the caller. -/
def Reply.interpret [SerdeJson] : Reply → Except ProxyError Json
  | .failed error => .error (.upstreamUnreachable (shortReqwestError error))
  | .answered status read =>
      let text := read.getD ""
      let json :=
        if (Text.trim text).isEmpty then Json.null else (SerdeJson.fromStr text).getD .null
      if status.isSuccess then .ok json
      else
        let message :=
          if status.isServerError then
            s!"the controller reported an error (HTTP {status.code})"
          else if status = .unauthorized ∨ status = .forbidden then
            "the controller rejected the proxy's API key"
          else match (json.get "message").bind Json.asStr with
            | some message => clamp message
            | none => s!"controller request failed (HTTP {status.code})"
        .error (.upstream status message)

end VoucherProxy
