import Mathlib.Data.List.Nodup
import VoucherProxy.Foundation.Checks
import VoucherProxy.Tls

namespace VoucherProxy

/-! The configuration: what an operator may set, which ceilings follow from it
for one token, and what `validate` refuses. -/

/-- An instant, in nanoseconds since the Unix epoch. -/
abbrev OffsetDateTime := Int

/-- A string that is never printed; `expose` is the only way to read it. -/
structure Secret where
  expose : String
  deriving DecidableEq

def Secret.isEmpty (secret : Secret) : Bool := secret.expose.isEmpty

inductive Scope
  | sitesRead
  | vouchersRead
  | vouchersCreate
  | vouchersRevoke
  deriving DecidableEq, Repr

def Scope.asStr : Scope → String
  | .sitesRead => "sites:read"
  | .vouchersRead => "vouchers:read"
  | .vouchersCreate => "vouchers:create"
  | .vouchersRevoke => "vouchers:revoke"

/-- Ceilings applied to every request, before any per-token override. -/
structure Limits where
  maxVouchersPerRequest : UInt32 := 10
  maxValidityMinutes : UInt64 := 60 * 24 * 30
  rateLimitPerMinute : UInt32 := 60
  rateLimitPerIpPerMinute : UInt32 := 120
  deriving DecidableEq, Repr

structure TokenConfig where
  name : String
  hash : String
  sites : List String := ["*"]
  scopes : List Scope := [.sitesRead, .vouchersRead, .vouchersCreate, .vouchersRevoke]
  maxVouchersPerRequest : Option UInt32 := none
  maxValidityMinutes : Option UInt64 := none
  rateLimitPerMinute : Option UInt32 := none
  expiresAt : Option OffsetDateTime := none
  deriving DecidableEq, Repr

structure ControllerConfig where
  host : String
  apiKey : Secret
  tls : TlsConfig := {}
  deriving DecidableEq

structure ServerConfig where
  /-- Milliseconds. -/
  upstreamTimeout : Nat := 15000
  maxBodyBytes : Nat := 64 * 1024
  graphqlPlayground : Bool := false
  deriving DecidableEq, Repr

structure Config where
  server : ServerConfig := {}
  controller : ControllerConfig
  limits : Limits := {}
  tokens : List TokenConfig := []
  deriving DecidableEq

/-- Whether the configured host disables TLS outright. An absent scheme means
https, so only an explicit `http://` counts. -/
def ControllerConfig.isPlaintext (controller : ControllerConfig) : Bool :=
  Text.startsWith (Text.toAsciiLowercase (Text.trim controller.host)) "http://"

namespace TokenConfig

def allowsSite (token : TokenConfig) (site : String) : Bool :=
  token.sites.any fun allowed => allowed == "*" || allowed == site

def hasScope (token : TokenConfig) (scope : Scope) : Bool := token.scopes.contains scope

/-- Whether the token has lapsed as of `now`; the instant itself counts. -/
def isExpiredAt (token : TokenConfig) (now : OffsetDateTime) : Bool :=
  match token.expiresAt with
  | some expiry => decide (expiry ≤ now)
  | none => false

def effectiveMaxVouchers (token : TokenConfig) (limits : Limits) : UInt32 :=
  match token.maxVouchersPerRequest with
  | some own => min own limits.maxVouchersPerRequest
  | none => limits.maxVouchersPerRequest

def effectiveMaxValidity (token : TokenConfig) (limits : Limits) : UInt64 :=
  match token.maxValidityMinutes with
  | some own => min own limits.maxValidityMinutes
  | none => limits.maxValidityMinutes

/-- `0` means unlimited on either side, yet only a global `0` is told apart. -/
def effectiveRateLimit (token : TokenConfig) (limits : Limits) : UInt32 :=
  match token.rateLimitPerMinute with
  | some own =>
      if limits.rateLimitPerMinute = 0 then own else min own limits.rateLimitPerMinute
  | none => limits.rateLimitPerMinute

theorem toNat_min_uint32 (left right : UInt32) :
    (min left right).toNat = min left.toNat right.toNat := by
  change (if left ≤ right then left else right).toNat = _
  split
  · next order => rw [UInt32.le_iff_toNat_le] at order; omega
  · next order => rw [UInt32.le_iff_toNat_le] at order; omega

theorem toNat_min_uint64 (left right : UInt64) :
    (min left right).toNat = min left.toNat right.toNat := by
  change (if left ≤ right then left else right).toNat = _
  split
  · next order => rw [UInt64.le_iff_toNat_le] at order; omega
  · next order => rw [UInt64.le_iff_toNat_le] at order; omega

/-- A token's voucher ceiling is the smaller of its own, if set, and the global
one. -/
theorem effectiveMaxVouchers_le_iff (token : TokenConfig) (limits : Limits) (n : UInt32) :
    n ≤ token.effectiveMaxVouchers limits ↔
      (∀ own, token.maxVouchersPerRequest = some own → n ≤ own) ∧
        n ≤ limits.maxVouchersPerRequest := by
  unfold effectiveMaxVouchers
  cases token.maxVouchersPerRequest with
  | none => simp
  | some own => simp [UInt32.le_iff_toNat_le, toNat_min_uint32, Nat.le_min]

theorem effectiveMaxValidity_le_iff (token : TokenConfig) (limits : Limits) (n : UInt64) :
    n ≤ token.effectiveMaxValidity limits ↔
      (∀ own, token.maxValidityMinutes = some own → n ≤ own) ∧
        n ≤ limits.maxValidityMinutes := by
  unfold effectiveMaxValidity
  cases token.maxValidityMinutes with
  | none => simp
  | some own => simp [UInt64.le_iff_toNat_le, toNat_min_uint64, Nat.le_min]

theorem effectiveRateLimit_of_none {token : TokenConfig} (limits : Limits)
    (unset : token.rateLimitPerMinute = none) :
    token.effectiveRateLimit limits = limits.rateLimitPerMinute := by
  simp [effectiveRateLimit, unset]

theorem effectiveRateLimit_of_some {token : TokenConfig} {limits : Limits} {own : UInt32}
    (set : token.rateLimitPerMinute = some own) (limited : limits.rateLimitPerMinute ≠ 0) :
    token.effectiveRateLimit limits = min own limits.rateLimitPerMinute := by
  simp [effectiveRateLimit, set, limited]

end TokenConfig

/-- What is taken from the `figment` and `toml` crates: reading a file, laying
the environment's keys over it, and extracting a configuration. -/
class Figment where
  extract : Option String → List (List String × String) → Except String Config

namespace Config

/-- The entry of the token list at a position. -/
def token (cfg : Config) (entry : Fin cfg.tokens.length) : TokenConfig :=
  cfg.tokens.get entry

theorem token_mem (cfg : Config) (entry : Fin cfg.tokens.length) :
    cfg.token entry ∈ cfg.tokens := List.get_mem _ _

theorem token_inj_of_nodup {cfg : Config} (distinct : (cfg.tokens.map (·.name)).Nodup)
    {left right : Fin cfg.tokens.length}
    (same : (cfg.token left).name = (cfg.token right).name) : left = right := by
  have position : ∀ entry : Fin cfg.tokens.length,
      entry.val < (cfg.tokens.map (·.name)).length := fun entry => by simp
  apply Fin.ext
  apply (@List.Nodup.getElem_inj_iff _ _ distinct _ (position left) _ (position right)).mp
  simpa [token] using same

def validateToken (token : TokenConfig) : Except String Unit := do
  if (Text.trim token.name).isEmpty then
    throw "every token needs a non-empty name (it is what shows up in the audit log)"
  if !Text.startsWith token.hash "$argon2" then
    throw s!"token '{token.name}' has a hash that is not an Argon2 PHC string — store the output of `unifi-voucher-proxy hash-token`, not the token itself"
  if token.scopes.isEmpty then
    throw s!"token '{token.name}' has no scopes and could do nothing"

def validateFingerprint (fingerprint : String) : Except String Unit :=
  match Tls.normalizeFingerprint fingerprint with
  | .ok _ => .ok ()
  | .error why => .error s!"controller.tls.fingerprint_sha256 is not usable: {why}"

def validate (cfg : Config) : Except String Unit := do
  if cfg.controller.apiKey.isEmpty then
    throw "controller.api_key is empty — set it in the config file or via UVP_CONTROLLER__API_KEY"
  if cfg.tokens.isEmpty then
    throw "no tokens configured — the proxy would reject every request; add at least one [[tokens]] entry (generate one with `unifi-voucher-proxy hash-token`)"
  cfg.tokens.forM validateToken
  let tls := cfg.controller.tls
  if tls.insecureSkipVerify && tls.fingerprintSha256.isSome then
    throw "controller.tls: set either fingerprint_sha256 or insecure_skip_verify, not both"
  if cfg.controller.isPlaintext && !tls.allowPlaintext then
    throw s!"controller.host is {Text.trim cfg.controller.host} — the API key would travel unencrypted. Use https://, or set controller.tls.allow_plaintext = true if a TLS-terminating sidecar on this host is doing the encryption"
  match tls.fingerprintSha256 with
  | none => return
  | some fingerprints =>
      if fingerprints.isEmpty then
        throw "controller.tls.fingerprint_sha256 is an empty list — remove the key to fall back to WebPKI verification, or put a fingerprint in it"
      fingerprints.forM validateFingerprint

theorem validateFingerprint_eq_ok {fingerprint : String} :
    validateFingerprint fingerprint = .ok () ↔
      ∃ pin, Tls.normalizeFingerprint fingerprint = .ok pin := by
  unfold validateFingerprint
  cases Tls.normalizeFingerprint fingerprint <;> simp

/-- What a validated configuration is known to satisfy. -/
structure Valid (cfg : Config) : Prop where
  apiKey : cfg.controller.apiKey.isEmpty = false
  tokens : cfg.tokens ≠ []
  token : ∀ token ∈ cfg.tokens, validateToken token = .ok ()
  verification : cfg.controller.tls.insecureSkipVerify = true →
    cfg.controller.tls.fingerprintSha256 = none
  encrypted : cfg.controller.isPlaintext = true → cfg.controller.tls.allowPlaintext = true
  pins : ∀ fingerprints, cfg.controller.tls.fingerprintSha256 = some fingerprints →
    fingerprints ≠ [] ∧ ∀ fingerprint ∈ fingerprints,
      ∃ pin, Tls.normalizeFingerprint fingerprint = .ok pin

/-- The last step of `validate`, on the list of pins. -/
theorem forM_validateFingerprint_eq_ok {fingerprints : List String} :
    (if fingerprints.isEmpty then do
        throw "controller.tls.fingerprint_sha256 is an empty list — remove the key to fall back to WebPKI verification, or put a fingerprint in it"
        fingerprints.forM validateFingerprint
      else fingerprints.forM validateFingerprint) = .ok () ↔
      fingerprints ≠ [] ∧ ∀ fingerprint ∈ fingerprints,
        ∃ pin, Tls.normalizeFingerprint fingerprint = .ok pin := by
  simp only [check_eq_ok, forM_eq_ok,
    validateFingerprint_eq_ok, List.isEmpty_iff, ne_eq]

theorem validate_eq_ok {cfg : Config} : cfg.validate = .ok () ↔ cfg.Valid := by
  unfold validate
  rw [check_eq_ok, check_eq_ok, bind_eq_ok]
  simp only [check_eq_ok, Bool.not_eq_true]
  constructor
  · rintro ⟨apiKey, tokens, ⟨⟩, each, verification, encrypted, pins⟩
    refine ⟨apiKey, by simpa using tokens, forM_eq_ok.mp each, ?_, ?_, ?_⟩
    · intro insecure
      simpa [insecure] using verification
    · intro plaintext
      simpa [plaintext] using encrypted
    · intro fingerprints set
      rw [set] at pins
      exact forM_validateFingerprint_eq_ok.mp pins
  · rintro ⟨apiKey, tokens, each, verification, encrypted, pins⟩
    refine ⟨apiKey, by simpa using tokens, (), forM_eq_ok.mpr each, ?_, ?_, ?_⟩
    · cases insecure : cfg.controller.tls.insecureSkipVerify with
      | false => rfl
      | true => simp [verification insecure]
    · cases plaintext : cfg.controller.isPlaintext with
      | false => rfl
      | true => simp [encrypted plaintext]
    · cases set : cfg.controller.tls.fingerprintSha256 with
      | none => rfl
      | some fingerprints => exact forM_validateFingerprint_eq_ok.mpr (pins fingerprints set)

/-! ## Loading -/

/-- The process environment, name by name. -/
abbrev Environment := List (String × String)

/-- The `UVP_` variables as nested keys, in lower case; the two that steer
tracing are ignored. -/
def overlay (environment : Environment) : List (List String × String) :=
  environment.filterMap fun setting =>
    (Text.stripStart (Text.toAsciiLowercase setting.1) "uvp_").bind fun key =>
      if key = "log" ∨ key = "log_format" then none
      else some (key.splitOn "__", setting.2)

/-- `file` is what is found at `path`, and `none` when nothing is. -/
def load [Figment] (path file : Option String) (environment : Environment) :
    Except String Config := do
  match path, file with
  | some path, none => throw s!"config file not found: {path}"
  | _, _ => pure ()
  match Figment.extract (path.bind fun _ => file) (overlay environment) with
  | .error why => throw s!"invalid configuration: {why}"
  | .ok cfg => do
      cfg.validate
      return cfg

/-- What is loaded is what was extracted, once it is valid. -/
theorem load_eq_ok [Figment] {path file : Option String} {environment : Environment}
    {cfg : Config} :
    load path file environment = .ok cfg ↔
      (path.isSome = true → file.isSome = true) ∧
      Figment.extract (path.bind fun _ => file) (overlay environment) = .ok cfg ∧ cfg.Valid := by
  have rest : (match Figment.extract (path.bind fun _ => file) (overlay environment) with
        | .error why => throw s!"invalid configuration: {why}"
        | .ok cfg => do
            cfg.validate
            return cfg : Except String Config) = .ok cfg ↔
      Figment.extract (path.bind fun _ => file) (overlay environment) = .ok cfg ∧
        cfg.Valid := by
    cases Figment.extract (path.bind fun _ => file) (overlay environment) with
    | error why => simp [throw, throwThe, MonadExceptOf.throw]
    | ok found =>
        simp only [bind_eq_ok, Pure.pure, Except.pure, Except.ok.injEq]
        constructor
        · rintro ⟨⟨⟩, validated, rfl⟩
          exact ⟨rfl, validate_eq_ok.mp validated⟩
        · rintro ⟨rfl, valid⟩
          exact ⟨(), validate_eq_ok.mpr valid, rfl⟩
  unfold load
  cases path with
  | none => simpa using rest
  | some path =>
      cases file with
      | none => simp [throw, throwThe, MonadExceptOf.throw, Bind.bind, Except.bind]
      | some file => simpa using rest

end Config

end VoucherProxy
