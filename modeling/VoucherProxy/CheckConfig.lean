import VoucherProxy.Sample

namespace VoucherProxy

/-! What `check-config` approves of, against what `serve` starts with and what a
reload accepts. -/

section

variable [Credentials]

def loadHashCheck (hash : String) : Except String Unit :=
  match Credentials.parsePasswordHash hash with
  | .ok _ => .ok ()
  | .error why => .error s!"not a valid Argon2 PHC string: {why}"

/-- The hash is one that `argon2` parses. -/
def Parses (hash : String) : Prop := ∃ parsed, Credentials.parsePasswordHash hash = .ok parsed

theorem loadHashCheck_eq_ok {hash : String} : loadHashCheck hash = .ok () ↔ Parses hash := by
  rw [loadHashCheck, Parses]
  cases Credentials.parsePasswordHash hash with
  | ok parsed => exact iff_of_true rfl ⟨parsed, rfl⟩
  | error why => exact iff_of_false (by simp) (by simp)

theorem not_parses_iff {hash : String} :
    ¬ Parses hash ↔ ∃ why, Credentials.parsePasswordHash hash = .error why := by
  rw [Parses]
  cases Credentials.parsePasswordHash hash with
  | ok parsed => exact iff_of_false (not_not_intro ⟨parsed, rfl⟩) (by simp)
  | error why => exact iff_of_true (by simp) ⟨why, rfl⟩

namespace Authenticator

theorem exists_mapM_parseToken_iff {tokens : List TokenConfig} :
    (∃ parsed, tokens.mapM parseToken = .ok parsed) ↔ ∀ token ∈ tokens, Parses token.hash := by
  induction tokens with
  | nil => exact iff_of_true ⟨[], rfl⟩ (by simp)
  | cons token tokens induction =>
      have own : (∃ parsed, parseToken token = .ok parsed) ↔ Parses token.hash := by
        constructor
        · rintro ⟨parsed, parses⟩
          exact ⟨parsed.2, (parseToken_eq_ok.mp parses).2⟩
        · rintro ⟨parsed, parses⟩
          exact ⟨(token, parsed), parseToken_eq_ok.mpr ⟨rfl, parses⟩⟩
      rw [List.forall_mem_cons, ← own, ← induction]
      simp only [mapM_parseToken_cons]
      constructor
      · rintro ⟨_, first, others, parses, parsesOthers, rfl⟩
        exact ⟨⟨first, parses⟩, others, parsesOthers⟩
      · rintro ⟨⟨first, parses⟩, others, parsesOthers⟩
        exact ⟨_, first, others, parses, parsesOthers, rfl⟩

/-- An authenticator is made of any number of tokens whose hashes parse, and of no
others. -/
theorem exists_new_iff {tokens : List TokenConfig} :
    (∃ auth, new tokens = .ok auth) ↔ ∀ token ∈ tokens, Parses token.hash := by
  rw [← exists_mapM_parseToken_iff]
  constructor
  · rintro ⟨auth, created⟩
    exact ⟨auth.tokens, (new_eq_ok.mp created).1⟩
  · rintro ⟨parsed, parses⟩
    exact ⟨⟨parsed, ∅⟩, new_eq_ok.mpr ⟨parses, rfl⟩⟩

end Authenticator

end

/-! ## The TLS settings -/

/-- The settings of a validated configuration can always be used. -/
theorem Config.Valid.exists_clientConfig {cfg : Config} (valid : cfg.Valid) :
    ∃ verifier, Tls.clientConfig cfg.controller.tls = .ok verifier := by
  cases set : cfg.controller.tls.fingerprintSha256 with
  | none =>
      rw [Tls.clientConfig, set]
      exact ⟨_, (apply_ite _ _ _ _).symm⟩
  | some fingerprints =>
      rcases exists_mapM (valid.pins fingerprints set).2 with ⟨expected, mapped, -⟩
      exact ⟨.pinned expected, by simp only [Tls.clientConfig, set, mapped]⟩

section

variable [Crates]

/-- `reqwest` builds a client whatever the settings. -/
def BuildsClients : Prop := ∀ settings, Reqwest.build settings = .ok ()

theorem exists_upstream {cfg : Config} (builds : BuildsClients) (valid : cfg.Valid) :
    ∃ upstream, Upstream.new cfg.controller cfg.server.upstreamTimeout = .ok upstream := by
  rcases valid.exists_clientConfig with ⟨verifier, configured⟩
  exact ⟨_, bind_eq_ok.mpr ⟨verifier, configured, bind_eq_ok.mpr ⟨(), builds _, rfl⟩⟩⟩

/-- Of a validated configuration only the hashes are left that may be unusable. -/
theorem exists_build_iff {cfg : Config} (builds : BuildsClients) (valid : cfg.Valid) :
    (∃ live, Live.build cfg = .ok live) ↔ ∀ token ∈ cfg.tokens, Parses token.hash := by
  rw [← Authenticator.exists_new_iff]
  constructor
  · rintro ⟨live, built⟩
    exact ⟨live.auth, (Live.build_eq_ok.mp built).1⟩
  · rintro ⟨auth, created⟩
    rcases exists_upstream builds valid with ⟨upstream, connected⟩
    exact ⟨⟨auth, upstream, cfg.limits, RateLimits.fromConfig cfg, cfg.tokens.length⟩,
      Live.build_eq_ok.mpr ⟨created, connected, rfl, rfl, rfl⟩⟩

/-! ## The three readers of a configuration -/

/-- The check that is made of a file beforehand. -/
def checkConfig (path : String) (found : Reload) : Except String Unit := do
  let cfg ← Config.load (some path) found.file found.environment
  cfg.tokens.forM fun token => loadHashCheck token.hash

/-- What `serve` does before it listens. -/
def serve (path : String) (found : Reload) : Except String AppState := do
  let cfg ← Config.load (some path) found.file found.environment
  AppState.withPath cfg (some path)

/-- A configuration is loaded, and a `Live` built from it. -/
def Builds (path : String) (found : Reload) : Prop :=
  ∃ cfg live, Config.load (some path) found.file found.environment = .ok cfg ∧
    Live.build cfg = .ok live

theorem checkConfig_eq_ok (builds : BuildsClients) (path : String) (found : Reload) :
    checkConfig path found = .ok () ↔ Builds path found := by
  rw [checkConfig, bind_eq_ok, Builds]
  apply exists_congr
  intro cfg
  rw [exists_and_left]
  apply and_congr_right
  intro loaded
  rw [exists_build_iff builds (Config.load_eq_ok.mp loaded).2.2, forM_eq_ok]
  exact forall₂_congr fun token _ => loadHashCheck_eq_ok

theorem exists_serve_iff (path : String) (found : Reload) :
    (∃ state, serve path found = .ok state) ↔ Builds path found := by
  constructor
  · rintro ⟨state, served⟩
    rcases bind_eq_ok.mp served with ⟨cfg, loaded, started⟩
    rcases bind_eq_ok.mp started with ⟨live, built, -⟩
    exact ⟨cfg, live, loaded, built⟩
  · rintro ⟨cfg, live, loaded, built⟩
    exact ⟨_, bind_eq_ok.mpr ⟨cfg, loaded, bind_eq_ok.mpr ⟨live, built, rfl⟩⟩⟩

theorem isOk_reload_iff {state : AppState} {path : String} {found : Reload}
    (remembered : state.configPath = some path) :
    (state.reload found).1.isOk = true ↔ Builds path found := by
  rw [Builds]
  cases loaded : Config.load (some path) found.file found.environment with
  | error why =>
      simp only [AppState.reload, AppState.load, remembered, loaded]
      exact iff_of_false Bool.false_ne_true (by simp)
  | ok cfg =>
      cases built : Live.build cfg with
      | error why =>
          simp only [AppState.reload, AppState.load, remembered, loaded, built]
          apply iff_of_false Bool.false_ne_true
          rintro ⟨other, live, same, otherBuilt⟩
          cases same
          rw [built] at otherBuilt
          cases otherBuilt
      | ok live =>
          simp only [AppState.reload, AppState.load, remembered, loaded, built]
          exact iff_of_true rfl ⟨cfg, live, rfl, built⟩

/-- `check-config` approves of exactly those files that `serve` starts with, and that
a reload accepts. Of what is loaded the TLS settings can always be used, and no
`Live` is built only where the hash of some token does not parse. -/
theorem checkConfig_agrees (builds : BuildsClients) (path : String) (found : Reload) :
    (checkConfig path found = .ok () ↔ Builds path found) ∧
    (checkConfig path found = .ok () ↔ ∃ state, serve path found = .ok state) ∧
    (∀ state : AppState, state.configPath = some path →
      (checkConfig path found = .ok () ↔ (state.reload found).1.isOk = true)) ∧
    ∀ (source file : Option String) (environment : Config.Environment) (cfg : Config),
      Config.load source file environment = .ok cfg →
      (∃ verifier, Tls.clientConfig cfg.controller.tls = .ok verifier) ∧
      ((∃ why, Live.build cfg = .error why) ↔
        ∃ token ∈ cfg.tokens, ∃ why, Credentials.parsePasswordHash token.hash = .error why) := by
  have approved := checkConfig_eq_ok builds path found
  refine ⟨approved, approved.trans (exists_serve_iff path found).symm,
    fun state remembered => approved.trans (isOk_reload_iff remembered).symm, ?_⟩
  intro source file environment cfg loaded
  have valid := (Config.load_eq_ok.mp loaded).2.2
  refine ⟨valid.exists_clientConfig, ?_⟩
  have fails : (∃ why, Live.build cfg = .error why) ↔ ¬ ∃ live, Live.build cfg = .ok live := by
    cases Live.build cfg with
    | error why => exact iff_of_true ⟨why, rfl⟩ (by simp)
    | ok live => exact iff_of_false (by simp) (not_not_intro ⟨live, rfl⟩)
  rw [fails, exists_build_iff builds valid]
  simp only [← not_parses_iff, not_forall, exists_prop]

end

section

open Sample

theorem checkConfig_agrees_sample :
    checkConfig "config.toml" ⟨some cfgFile, []⟩ = .ok () ∧
      ∃ state, serve "config.toml" ⟨some cfgFile, []⟩ = .ok state := by
  rcases checkConfig_agrees (fun _ => rfl) "config.toml" ⟨some cfgFile, []⟩ with ⟨-, serves, -⟩
  have approved : checkConfig "config.toml" ⟨some cfgFile, []⟩ = .ok () := by
    decide +kernel
  exact ⟨approved, serves.mp approved⟩

end

end VoucherProxy
