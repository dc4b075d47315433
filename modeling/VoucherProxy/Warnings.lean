import VoucherProxy.Deployment
import VoucherProxy.Throttling

namespace VoucherProxy

/-! What a start without warnings promises. A setting that works but weakens the guarantees
is called out; where none is, the guarantees hold over whole runs, reloads included. -/

/-- A line of the log that calls a setting out. -/
structure Warning where
  message : String
  token : Option String := none
  deriving DecidableEq, Repr

/-- Configuration that works but weakens the guarantees is called out on every start, not
silently accepted. -/
def warnAboutWeakSettings (cfg : Config) : List Warning :=
  (if cfg.controller.tls.insecureSkipVerify && !cfg.controller.tls.silenceInsecureWarning then
    [{ message := "controller.tls.insecure_skip_verify is on — the connection to the " ++
        "controller is unauthenticated and an on-path attacker could capture the API key. " ++
        "Run `unifi-voucher-proxy fetch-fingerprint` and pin the certificate instead." }]
  else []) ++
  (if cfg.controller.tls.allowPlaintext && cfg.controller.isPlaintext then
    [{ message := "controller.host is plaintext http:// and allow_plaintext is on — the " ++
        "full-control API key travels unencrypted. This is only safe if a TLS-terminating " ++
        "sidecar on this host is doing the encryption." }]
  else []) ++
  (if cfg.limits.rateLimitPerIpPerMinute == 0 then
    [{ message := "limits.rate_limit_per_ip_per_minute is 0 — nothing bounds how much " ++
        "Argon2 work an unauthenticated caller can trigger. Leave this on unless something " ++
        "in front of the proxy already limits by source address." }]
  else []) ++
  (cfg.tokens.filter fun token => token.sites.any (· == "*")).map fun token =>
    { message := "token may use every site on the controller; consider listing site ids " ++
        "explicitly"
      token := some token.name }

/-- Nothing weakens the guarantees. -/
structure Config.Unweakened (cfg : Config) : Prop where
  authenticated : cfg.controller.tls.insecureSkipVerify = false
  encrypted : cfg.controller.isPlaintext = false
  bounded : cfg.limits.rateLimitPerIpPerMinute ≠ 0
  listed : ∀ token ∈ cfg.tokens, "*" ∉ token.sites

/-- A start that is not told to be silent warns exactly where something is weakened. -/
theorem warnAboutWeakSettings_eq_nil {cfg : Config} (valid : cfg.Valid)
    (spoken : cfg.controller.tls.silenceInsecureWarning = false) :
    warnAboutWeakSettings cfg = [] ↔ cfg.Unweakened := by
  have plaintext : (cfg.controller.tls.allowPlaintext && cfg.controller.isPlaintext) = true ↔
      cfg.controller.isPlaintext = true := by
    rw [Bool.and_eq_true]
    exact ⟨fun both => both.2, fun plain => ⟨valid.encrypted plain, plain⟩⟩
  have wildcard : ∀ token : TokenConfig,
      token.sites.any (· == "*") = true ↔ "*" ∈ token.sites := by
    intro token
    simp
  simp only [warnAboutWeakSettings, plaintext, spoken, Bool.not_false, Bool.and_true,
    List.append_eq_nil_iff, List.map_eq_nil_iff, List.filter_eq_nil_iff, wildcard, beq_iff_eq,
    ite_eq_right_iff, List.cons_ne_nil, imp_false, Bool.not_eq_true]
  constructor
  · rintro ⟨⟨⟨authenticated, encrypted⟩, bounded⟩, listed⟩
    exact ⟨authenticated, encrypted, bounded, listed⟩
  · intro unweakened
    exact ⟨⟨⟨unweakened.authenticated, unweakened.encrypted⟩, unweakened.bounded⟩,
      unweakened.listed⟩

/-- A client that is told to verify does. -/
theorem Tls.verifier_ne_capturing {tls : TlsConfig} (verifies : tls.insecureSkipVerify = false)
    {verifier : Verifier} (chosen : clientConfig tls = .ok verifier) :
    verifier ≠ .capturing := by
  rintro rfl
  unfold clientConfig at chosen
  rw [verifies] at chosen
  cases pins : tls.fingerprintSha256 with
  | none =>
      rw [pins] at chosen
      cases chosen
  | some raw =>
      rw [pins] at chosen
      dsimp only at chosen
      split at chosen <;> cases chosen

/-- An entry that does not stand for every site is good for those it lists. -/
theorem TokenConfig.mem_sites_of_allowsSite {token : TokenConfig} (listed : "*" ∉ token.sites)
    {site : String} (allowed : token.allowsSite site = true) : site ∈ token.sites := by
  rcases List.any_eq_true.mp allowed with ⟨entry, member, fits⟩
  rcases Bool.or_eq_true_iff.mp fits with every | own
  · rw [eq_of_beq every] at member
    exact absurd member listed
  · rwa [← eq_of_beq own]

section

variable [Crates]

theorem Upstream.verifier_of_new {cfg : ControllerConfig} {timeout : Nat} {upstream : Upstream}
    (created : Upstream.new cfg timeout = .ok upstream) :
    Tls.clientConfig cfg.tls = .ok upstream.client.verifier := by
  unfold Upstream.new at created
  rcases bind_eq_ok.mp created with ⟨verifier, chosen, rest⟩
  rcases bind_eq_ok.mp rest with ⟨⟨⟩, -, last⟩
  rcases Except.ok.inj last with rfl
  exact chosen

/-- A store that is there stays there. -/
theorem AppState.isSome_store_exec (state : AppState) (effect : Effect) (outside : Outside)
    (present : ∀ slot, (state.lives slot).rate.store.isSome = true) (slot : Nat) :
    ((state.exec effect outside).2.lives slot).rate.store.isSome = true := by
  cases effect with
  | checkIp own ip =>
      change ((state.modify own _).lives slot).rate.store.isSome = true
      by_cases here : slot = own
      · rcases Option.isSome_iff_exists.mp (present own) with ⟨keyed, stored⟩
        rw [here, lives_modify_self,
          (RateLimits.checkIp_of_store stored ip outside.clock).2]
        rfl
      · rw [lives_modify_ne state _ here]
        exact present slot
  | _ =>
      rw [state.store_exec outside (by simp)]
      exact present slot

namespace Step

variable [Framework] [GraphQlEngine] {settings : RouterSettings} {cfg : Config}
  {path : Option String} {state : AppState} {steps : List Step}

omit [Framework] [GraphQlEngine] in
/-- Whatever is in force in the course of a run is valid, if the first configuration is. -/
theorem valid_of_mem (valid : cfg.Valid) {config : Config}
    (member : config ∈ configurations cfg path steps) : config.Valid := by
  rcases List.mem_cons.mp member with rfl | reloaded
  · exact valid
  · rcases List.mem_filterMap.mp reloaded with ⟨found, -, accepted⟩
    exact (Config.load_eq_ok.mp (Reload.load_of_accepted accepted)).2.2

/-- What every configuration brings and every step of a request keeps, every `Live` of a
run has. -/
theorem lives_run (started : AppState.withPath cfg path = .ok state) {holds : Live → Prop}
    (built : ∀ config ∈ configurations cfg path steps, ∀ live,
      Live.build config = .ok live → holds live)
    (kept : ∀ (state : AppState) effect outside, (∀ slot, holds (state.lives slot)) →
      ∀ slot, holds ((state.exec effect outside).2.lives slot)) (slot : Nat) :
    holds ((run settings state steps).state.lives slot) := by
  revert slot
  apply @run_timeline _ _ _ settings cfg path state started
    (fun later _ => ∀ slot, holds (later.lives slot))
  case start =>
    intro slot
    exact built cfg List.mem_cons_self _ (AppState.lives_withPath started slot)
  case exec =>
    intro early index program effect next outside happened found before
    exact kept _ effect outside before
  case sighup =>
    intro later happened signal within before slot
    rcases later.sighup_accepted signal with ⟨-, same⟩ | ⟨config, live, accepted, created, same⟩
    · rw [same]
      exact before slot
    · have replaced : (later.sighup signal).lives slot =
          if slot = later.current + 1 then live else later.lives slot := by
        rw [same]
        exact Function.update_apply ..
      rw [replaced]
      split
      · exact built config (within config accepted) live created
      · exact before slot

/-- Addresses are limited on every `Live`, if every configuration has a limit for them. -/
theorem limits_addresses (started : AppState.withPath cfg path = .ok state)
    (bounded : ∀ config ∈ configurations cfg path steps,
      config.limits.rateLimitPerIpPerMinute ≠ 0) (slot : Nat) :
    ((run settings state steps).state.lives slot).rate.perIp.isSome = true := by
  have stored : ((run settings state steps).state.lives slot).rate.store.isSome = true := by
    refine @lives_run _ _ _ settings cfg path state steps started
      (fun live => live.rate.store.isSome = true) ?_ AppState.isSome_store_exec slot
    intro config member live built
    have limit : config.limits.rateLimitPerIpPerMinute =
        (⟨_, bounded config member⟩ : NonZeroU32).val := rfl
    rw [Live.store_of_build built limit]
    rfl
  rwa [RateLimits.store, Option.isSome_map] at stored

/-- What a request to the controller keeps to: it goes out over TLS, through a client that
checks certificates, and about a site that the entry of its token lists. -/
structure Sheltered (configs : List Config) (upstream : Upstream) (request : HttpRequest)
    (sent : UpstreamRequest) : Prop where
  encrypted : Text.startsWith sent.url "https://" = true
  authenticated : upstream.client.verifier ≠ .capturing
  listed : ∃ call : UpstreamCall, call.prepare upstream = .ok sent ∧
    ∃ config ∈ configs, ∃ token, config.tokenFor request = some token ∧
      ∀ site, call.site = some site → site ∈ token.sites

/-- Where no configuration of a run is one that a start warns of, whatever is sent in the
run is sheltered, and addresses are limited throughout. -/
theorem sheltered (settings : RouterSettings) (valid : cfg.validate = .ok ())
    (started : AppState.withPath cfg path = .ok state)
    (collisionFree : Set.InjOn Credentials.sha256 (presented steps))
    (quiet : ∀ config ∈ configurations cfg path steps, warnAboutWeakSettings config = [])
    (spoken : ∀ config ∈ configurations cfg path steps,
      config.controller.tls.silenceInsecureWarning = false) :
    (∀ index schedule request, (requests steps)[index]? = some (schedule, request) →
      ∀ slot sent reply, (⟨.send slot sent, reply⟩ : Event Effect Answer) ∈
          history settings state steps index →
        Sheltered (configurations cfg path steps)
          ((run settings state steps).state.lives slot).upstream request sent) ∧
    ∀ slot, ((run settings state steps).state.lives slot).rate.perIp.isSome = true := by
  have unweakened : ∀ config ∈ configurations cfg path steps, config.Unweakened := by
    intro config member
    have valid := valid_of_mem (Config.validate_eq_ok.mp valid) member
    exact (warnAboutWeakSettings_eq_nil valid (spoken config member)).mp (quiet config member)
  constructor
  · intro index schedule request arrived slot sent reply member
    rcases Step.permitted settings started collisionFree arrived member with
      ⟨call, prepared, ⟨used, active, created⟩, config, inForce, token, permits⟩
    have kept := unweakened used active
    constructor
    case encrypted => exact call.startsWith_of_prepare created kept.encrypted prepared
    case authenticated =>
      exact Tls.verifier_ne_capturing kept.authenticated (Upstream.verifier_of_new created)
    case listed =>
      refine ⟨call, prepared, config, inForce, token, permits.bearer, fun site about => ?_⟩
      have configured := (Config.tokenFor_eq_some permits.bearer).1
      have listed := (unweakened config inForce).listed token configured
      exact TokenConfig.mem_sites_of_allowsSite listed (permits.site site about)
  · exact limits_addresses started fun config member => (unweakened config member).bounded

end Step

end

section

open Sample

/-- A configuration that nothing has to be called out of. -/
def listedOnly : Config where
  controller := controller
  tokens := [reception]

/-- The state the proxy starts in under `listedOnly`. -/
def listedState : AppState where
  lives _ :=
    { auth := ⟨[(reception, receptionHash)], ∅⟩
      upstream := ⟨⟨.webPki, 15000, 10000, false⟩,
        "https://unifi.local/proxy/network/integration/v1", ⟨"controller-key"⟩⟩
      limits := listedOnly.limits
      rate := RateLimits.fromConfig listedOnly
      tokenCount := 1 }
  current := 0
  metrics := {}
  configPath := none

/-- The list of vouchers that a document asks for is about the one site listed. -/
theorem Step.sheltered_aliased :
    ∃ sent reply, (⟨.send 0 sent, reply⟩ : Event Effect Answer) ∈
        Step.history settings listedState aliasedSteps 0 ∧
      sent.url = "https://unifi.local/proxy/network/integration/v1" ++
        "/sites/main/hotspot/vouchers?limit=1000" ∧
      Step.Sheltered [listedOnly]
        ((Step.run settings listedState aliasedSteps).state.lives 0).upstream
        (request "POST" "/graphql" receptionKey aliasedBody) sent := by
  have digests : Set.InjOn Credentials.sha256 (Step.presented aliasedSteps) :=
    collisionFree (by decide)
  have started : AppState.withPath listedOnly none = .ok listedState := rfl
  have valid : listedOnly.validate = .ok () := by decide +kernel
  have calm : Step.configurations listedOnly none aliasedSteps = [listedOnly] := rfl
  have arrived : (Step.requests aliasedSteps)[0]? = some
      ([0, 1, 0, 1, 0, 1, 0, 1], request "POST" "/graphql" receptionKey aliasedBody) := rfl
  have sends : (Step.history settings listedState aliasedSteps 0)[12]?.bind sent? =
      some (0, .get, "https://unifi.local/proxy/network/integration/v1" ++
        "/sites/main/hotspot/vouchers?limit=1000") := by
    decide +kernel
  rcases sent?_eq_some sends with ⟨sent, reply, found, -, url⟩
  have sheltered := Step.sheltered settings valid started digests
    (by rw [calm, List.forall_mem_singleton]; decide +kernel)
    (by rw [calm, List.forall_mem_singleton]; rfl)
  have own := sheltered.1 0 _ _ arrived 0 sent reply (List.mem_of_getElem? found)
  rw [calm] at own
  exact ⟨sent, reply, List.mem_of_getElem? found, url, own⟩

end

end VoucherProxy
