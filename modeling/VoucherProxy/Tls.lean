import VoucherProxy.Foundation.Text

namespace VoucherProxy

/-! Certificate pinning: how an operator may spell a fingerprint, and which
verifier the client towards the controller is built with. -/

structure TlsConfig where
  fingerprintSha256 : Option (List String) := none
  insecureSkipVerify : Bool := false
  silenceInsecureWarning : Bool := false
  allowPlaintext : Bool := false
  deriving DecidableEq, Repr

namespace Tls

/-- Accepts `AB:CD:...`, `sha256:abcd...` and plain hex, case-insensitively. -/
def normalizeFingerprint (raw : String) : Except String String :=
  let stripped :=
    Text.trimStartMatches (Text.trimStartMatches (Text.trim raw) "sha256:") "SHA256:"
  let cleaned := Text.toAsciiLowercase <| String.ofList <|
    stripped.toList.filter fun c => !(c == ':' || c == ' ' || c == '-')
  let length := cleaned.utf8ByteSize
  if length != 64 || !cleaned.toList.all Text.isAsciiHexdigit then
    .error s!"not a SHA-256 certificate fingerprint (expected 64 hex characters, got {length})"
  else
    .ok cleaned

/-- How a client decides whether to trust the certificate it is shown. -/
inductive Verifier
  | pinned (expected : List String)
  | capturing
  | webPki
  deriving DecidableEq, Repr

/-- The three modes of the controller connection: pinned, unverified, WebPKI. -/
def clientConfig (cfg : TlsConfig) : Except String Verifier :=
  match cfg.fingerprintSha256 with
  | some raw =>
      match raw.mapM normalizeFingerprint with
      | .ok expected => .ok (.pinned expected)
      | .error why => .error s!"controller.tls.fingerprint_sha256 is not usable: {why}"
  | none => if cfg.insecureSkipVerify then .ok .capturing else .ok .webPki

end Tls

end VoucherProxy
