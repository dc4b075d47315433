import VoucherProxy.Mediation

namespace VoucherProxy

/-! Reload and revocation: which configuration is in force, what a failed reload
leaves behind, and whom a request is recognised as after a successful one. -/

section

variable [Crates]

/-- How a configuration answers the token of a request: the caller it is let in
as, or why not. -/
inductive Admission (cfg : Config) (request : HttpRequest) (events : History) :
    Except ProxyError Caller → Prop
  | limited {slot : Nat} {ip : IpAddr} : request.peer = some ip →
      (⟨.checkIp slot ip, false⟩ : Event Effect Answer) ∈ events →
      Admission cfg request events (.error .rateLimited)
  | unrecognised : cfg.tokenFor request = none →
      Admission cfg request events (.error .unauthorized)
  | expired {token : TokenConfig} {expiry now : OffsetDateTime} {text : String} :
      cfg.tokenFor request = some token → token.expiresAt = some expiry →
      (⟨.nowUtc, now⟩ : Event Effect Answer) ∈ events → expiry ≤ now →
      Admission cfg request events (.error (.tokenExpired text))
  | admitted {token : TokenConfig} : cfg.tokenFor request = some token →
      (∀ expiry, token.expiresAt = some expiry →
        ∃ now : OffsetDateTime, (⟨.nowUtc, now⟩ : Event Effect Answer) ∈ events ∧ now < expiry) →
      Admission cfg request events (.ok (Caller.ofToken token cfg.limits))

/-- What was found on a genuine `Live` is what its configuration finds. -/
theorem Found.tokenFor {cfg : Config} {live : Live} (built : Live.build cfg = .ok live)
    {request : HttpRequest} {history : History} {guard : Guard} (genuine : Genuine request history)
    (loaded : Loaded history guard) (same : guard.value.Same live) {presented : String}
    (header : tokenFromHeaders request.headers = some presented) {found : Option TokenConfig}
    (held : Found history guard presented found) : cfg.tokenFor request = found := by
  have recognised := genuine guard presented found loaded header held
  rw [same.tokens, Authenticator.recognise_new (Live.build_eq_ok.mp built).1
    (tokenFromHeaders_isEmpty header)] at recognised
  rw [Config.tokenFor, header]
  exact recognised.symm

/-- Extraction on a `Live` ends as the configuration it was built from says. -/
theorem Resolved.admission {cfg : Config} {live : Live} (built : Live.build cfg = .ok live)
    {request : HttpRequest} {history : History} {guard : Guard} {result : Except ProxyError Caller}
    (resolved : Resolved request history guard result) (genuine : Genuine request history)
    (loaded : Loaded history guard) (same : guard.value.Same live) :
    Admission cfg request history result := by
  cases resolved with
  | limited peer refused => exact .limited peer refused
  | anonymous missing => exact .unrecognised (by simp [Config.tokenFor, missing])
  | unknown header found => exact .unrecognised (found.tokenFor built genuine loaded same header)
  | expired header found expires member lapsed =>
      exact .expired (found.tokenFor built genuine loaded same header) expires member lapsed
  | @extracted caller extracted =>
      have ceilings := extracted.ceilings
      rw [same.limits, (Live.build_eq_ok.mp built).2.2.1] at ceilings
      rw [ceilings]
      exact .admitted (extracted.tokenFor built genuine same) extracted.unexpired

namespace Step

variable [Framework] [GraphQlEngine]

theorem run_append (settings : RouterSettings) (state : AppState) (early late : List Step) :
    run settings state (early ++ late) =
      Pool.run server (run settings state early) (late.map (turn settings)) := by
  rw [run, List.map_append, Pool.run_append]
  rfl

end Step

end

end VoucherProxy
