import VoucherProxy.Charging
import VoucherProxy.Sample
import VoucherProxy.Snapshots

namespace VoucherProxy

/-! Complete mediation: under one configuration, no call reaches the controller
unless its request passed every check before, and each has a charge of its own. -/

section

variable [Crates]

/-- The checks behind a call that a request makes with the rights of a token;
`before` is what the request did until then. -/
structure Authorised (cfg : Config) (request : HttpRequest) (before : History) (slot : Nat)
    (token : TokenConfig) (call : UpstreamCall) (sent : UpstreamRequest) : Prop where
  admitted : ∀ ip, request.peer = some ip →
    (⟨.checkIp slot ip, true⟩ : Event Effect Answer) ∈ before
  configured : token ∈ cfg.tokens
  verified : ∃ presented, tokenFromHeaders request.headers = some presented ∧
    token.verifies presented = true
  unexpired : ∀ expiry, token.expiresAt = some expiry →
    ∃ now : OffsetDateTime, (⟨.nowUtc, now⟩ : Event Effect Answer) ∈ before ∧ now < expiry
  scope : token.hasScope call.scope = true
  site : ∀ site, call.site = some site → token.allowsSite site = true
  policy : call.Within (Caller.ofToken token cfg.limits).ceilings
  sent : ∃ upstream, Upstream.new cfg.controller cfg.server.upstreamTimeout = .ok upstream ∧
    sent = upstream.prepare call.method call.path call.body

/-- The entry of a configuration that a request's token belongs to. -/
def Config.tokenFor (cfg : Config) (request : HttpRequest) : Option TokenConfig :=
  (tokenFromHeaders request.headers).bind fun presented =>
    cfg.tokens.find? fun token => token.verifies presented

theorem Config.tokenFor_eq_some {cfg : Config} {request : HttpRequest} {token : TokenConfig}
    (found : cfg.tokenFor request = some token) :
    token ∈ cfg.tokens ∧ ∃ presented, tokenFromHeaders request.headers = some presented ∧
      token.verifies presented = true := by
  rcases Option.bind_eq_some_iff.mp found with ⟨presented, header, first⟩
  exact ⟨List.mem_of_find?_eq_some first, presented, header, by simpa using List.find?_some first⟩

/-- A caller extracted under a configuration has the entry its token belongs to. -/
theorem Extracted.tokenFor {cfg : Config} {live : Live} (built : Live.build cfg = .ok live)
    {request : HttpRequest} {history : History} {guard : Guard} {caller : Caller}
    (extracted : Extracted request history guard caller) (genuine : Genuine request history)
    (same : guard.value.Same live) : cfg.tokenFor request = some caller.token := by
  rcases extracted.recognised with ⟨presented, header, found⟩
  have recognised := genuine guard presented _ extracted.loaded header found
  rw [same.tokens, Authenticator.recognise_new (Live.build_eq_ok.mp built).1
    (tokenFromHeaders_isEmpty header)] at recognised
  rw [Config.tokenFor, header]
  exact recognised.symm

/-- A call mediated in a request that saw one configuration only is authorised
by that configuration. -/
theorem Mediated.authorised {cfg : Config} {live : Live} (built : Live.build cfg = .ok live)
    {request : HttpRequest} {before : History} {slot home : Nat} {sent : UpstreamRequest}
    (mediated : Mediated request before slot sent) (genuine : Genuine request before)
    (one : ∀ guard, Loaded before guard → guard.slot = home ∧ guard.value.Same live) :
    slot = home ∧ ∃ token call, Authorised cfg request before slot token call sent ∧
      cfg.tokenFor request = some token := by
  rcases mediated with ⟨extraction, caller, call, extracted, acts⟩
  rcases acts.prepared with ⟨guard, loaded, rfl, prepared⟩
  rcases one extraction extracted.loaded with ⟨extractedHome, same⟩
  rcases one guard loaded with ⟨usedHome, sameUsed⟩
  have parts := Live.build_eq_ok.mp built
  have found := extracted.tokenFor built genuine same
  rcases Config.tokenFor_eq_some found with ⟨configured, verified⟩
  have ceilings : caller = Caller.ofToken caller.token cfg.limits := by
    rw [← parts.2.2.1, ← same.limits]
    exact extracted.ceilings
  refine ⟨usedHome, caller.token, call,
    ⟨?_, configured, verified, extracted.unexpired, acts.scope, acts.site, ?_, ?_⟩, found⟩
  · rw [usedHome, ← extractedHome]
    exact extracted.admitted
  · rw [← ceilings]
    exact acts.policy
  · refine ⟨guard.value.upstream, ?_, (UpstreamCall.prepare_eq_ok.mp prepared).2⟩
    rw [sameUsed.upstream]
    exact parts.2.1

theorem charging_costsAt {events : History} {position : Nat} :
    charging.CostsAt events position ↔
      ∃ slot sent reply, events[position]? = some ⟨.send slot sent, reply⟩ := by
  constructor
  · rintro ⟨⟨effect, answer⟩, found, costs⟩
    cases effect with
    | send slot sent => exact ⟨slot, sent, answer, found⟩
    | _ => simp [charging] at costs
  · rintro ⟨slot, sent, reply, found⟩
    exact ⟨_, found, rfl⟩

theorem charging_earnsAt {events : History} {position : Nat}
    (earns : charging.EarnsAt events position) :
    ∃ slot token, events[position]? = some ⟨.check slot token, true⟩ := by
  rcases earns with ⟨⟨effect, answer⟩, found, granted⟩
  cases effect with
  | check slot token =>
      cases granted
      exact ⟨slot, token, found⟩
  | _ => simp [charging] at granted

namespace Step

variable [Framework] [GraphQlEngine]

/-- The reloads of a run. -/
def reloads (steps : List Step) : List Reload :=
  steps.filterMap fun
    | .reload found => some found
    | _ => none

theorem filterMap_made? (settings : RouterSettings) (steps : List Step) :
    (steps.map (turn settings)).filterMap Pool.made? = reloads steps := by
  induction steps with
  | nil => rfl
  | cons step steps induction =>
      cases step with
      | arrive schedule request => exact induction
      | advance index outside => exact induction
      | reload found => exact congrArg (found :: ·) induction

/-- The moves of the log are the reloads of the run. -/
theorem moves_run (settings : RouterSettings) (state : AppState) (steps : List Step) :
    Pool.moves (run settings state steps).log = reloads steps := by
  rw [run, Pool.run_moves, filterMap_made?]
  rfl

/-- Without reloads a request sees the first configuration only. -/
theorem loaded_of_calm (settings : RouterSettings) {cfg : Config} {path : Option String}
    {state : AppState} (started : AppState.withPath cfg path = .ok state) {steps : List Step}
    (calm : reloads steps = []) {live : Live} (built : Live.build cfg = .ok live)
    {index : Nat} {guard : Guard}
    (loaded : Loaded (history settings state steps index) guard) :
    guard.slot = 0 ∧ guard.value.Same live := by
  have snapshots := Snapshots.run started (steps.map (turn settings))
  rcases place_of_loaded loaded with ⟨early, late, place⟩
  have none : acceptedIn path early = [] := by
    have quiet := moves_run settings state steps
    rw [place, calm, Pool.moves_append] at quiet
    rw [acceptedIn, (List.append_eq_nil_iff.mp quiet).1]
    rfl
  rcases snapshots.loaded_built place with ⟨slot, other, builtOther, sameOther⟩
  have inForce : inForce path cfg early = cfg := by simp [inForce, none]
  rw [inForce, built] at builtOther
  cases builtOther
  exact ⟨by simpa [none] using slot, sameOther⟩

/-- Complete mediation. Every call a request makes to the controller is one of
the four, is authorised by what the request did before, and is paid for by a
successful charge of the same token that pays for no other call. -/
theorem mediated (settings : RouterSettings) {cfg : Config} {path : Option String}
    {state : AppState} (started : AppState.withPath cfg path = .ok state) {steps : List Step}
    (calm : reloads steps = [])
    (collisionFree : Set.InjOn Credentials.sha256 (presented steps)) {index : Nat}
    {schedule : List Nat} {request : HttpRequest}
    (arrived : (requests steps)[index]? = some (schedule, request)) :
    ∃ payer : Nat → Nat,
      Set.InjOn payer {position | ∃ slot sent reply,
        (history settings state steps index)[position]? = some ⟨.send slot sent, reply⟩} ∧
      ∀ position slot sent reply,
        (history settings state steps index)[position]? = some ⟨.send slot sent, reply⟩ →
        ∃ token call,
          Authorised cfg request ((history settings state steps index).take position) slot token
            call sent ∧
          payer position < position ∧
          (history settings state steps index)[payer position]? =
            some ⟨.check slot token, true⟩ := by
  rcases AppState.withPath_eq_ok started with ⟨live, built, -⟩
  have disciplined := run_disciplined settings state arrived
  have genuine : ∀ position, Genuine request ((history settings state steps index).take position) :=
    fun position => run_genuine settings started collisionFree arrived (List.take_subset _ _)
  have one : ∀ {position guard}, Loaded ((history settings state steps index).take position) guard →
      guard.slot = 0 ∧ guard.value.Same live :=
    fun loaded => loaded_of_calm settings started calm built (List.take_subset _ _ loaded)
  rcases events_trace settings state arrived with ⟨rest, trace⟩
  rcases (Charging.serve_pays settings schedule request).balanced trace with
    ⟨payer, distinct, paid⟩
  refine ⟨payer, ?_, ?_⟩
  · simpa only [charging_costsAt] using distinct
  · intro position slot sent reply found
    rcases paid position (charging_costsAt.mpr ⟨slot, sent, reply, found⟩) with ⟨earlier, earns⟩
    rcases charging_earnsAt earns with ⟨chargedSlot, charged, foundCharge⟩
    have mediated : Mediated request _ slot sent := disciplined.at found
    rcases mediated.authorised built (genuine position) fun _ loaded => one loaded with
      ⟨rfl, token, call, authorised, presents⟩
    rcases disciplined.at foundCharge with ⟨⟨guard, loaded, rfl⟩, extraction, caller, extracted, rfl⟩
    have bearer := extracted.tokenFor built (genuine _) (one extracted.loaded).2
    rw [presents, Option.some.injEq] at bearer
    refine ⟨token, call, authorised, earlier, ?_⟩
    rw [foundCharge, (one loaded).1, bearer]

end Step

end

open Sample in
/-- One document that asks for two fields, resolved side by side. -/
def aliasedSteps : List Step :=
  .arrive [0, 1, 0, 1, 0, 1, 0, 1] (request "POST" "/graphql" receptionKey aliasedBody) ::
    List.replicate 13 (.advance 0 outside)

open Sample in
abbrev aliasedHistory : History := Step.history settings state aliasedSteps 0

open Sample in
/-- Both calls of the document are authorised, each with a charge of its own. -/
theorem Step.mediated_aliased :
    ∃ first second, first ≠ second ∧
      (∃ sent reply token call, aliasedHistory[11]? = some ⟨.send 0 sent, reply⟩ ∧
        sent.url = "https://unifi.local/proxy/network/integration/v1/sites" ∧
        Authorised cfg (request "POST" "/graphql" receptionKey aliasedBody)
          (aliasedHistory.take 11) 0 token call sent ∧
        first < 11 ∧ aliasedHistory[first]? = some ⟨.check 0 token, true⟩) ∧
      ∃ sent reply token call, aliasedHistory[12]? = some ⟨.send 0 sent, reply⟩ ∧
        sent.url =
          "https://unifi.local/proxy/network/integration/v1/sites/main/hotspot/vouchers?limit=1000" ∧
        Authorised cfg (request "POST" "/graphql" receptionKey aliasedBody)
          (aliasedHistory.take 12) 0 token call sent ∧
        second < 12 ∧ aliasedHistory[second]? = some ⟨.check 0 token, true⟩ := by
  have digests : Set.InjOn Credentials.sha256 (presented aliasedSteps) :=
    collisionFree (by decide)
  have arrived : (requests aliasedSteps)[0]? = some
      ([0, 1, 0, 1, 0, 1, 0, 1], request "POST" "/graphql" receptionKey aliasedBody) := rfl
  rcases mediated settings started rfl digests arrived with ⟨payer, distinct, paid⟩
  have sends : (aliasedHistory[11]?.bind sent?, aliasedHistory[12]?.bind sent?) =
      (some (0, .get, "https://unifi.local/proxy/network/integration/v1/sites"),
       some (0, .get,
        "https://unifi.local/proxy/network/integration/v1/sites/main/hotspot/vouchers?limit=1000")) := by
    decide +kernel
  rcases Prod.mk.inj sends with ⟨one, two⟩
  rcases sent?_eq_some one with ⟨sentOne, replyOne, foundOne, -, urlOne⟩
  rcases sent?_eq_some two with ⟨sentTwo, replyTwo, foundTwo, -, urlTwo⟩
  rcases paid 11 0 sentOne replyOne foundOne with ⟨tokenOne, callOne, authorisedOne, paysOne⟩
  rcases paid 12 0 sentTwo replyTwo foundTwo with ⟨tokenTwo, callTwo, authorisedTwo, paysTwo⟩
  refine ⟨payer 11, payer 12, ?_,
    ⟨sentOne, replyOne, tokenOne, callOne, foundOne, urlOne, authorisedOne, paysOne⟩,
    sentTwo, replyTwo, tokenTwo, callTwo, foundTwo, urlTwo, authorisedTwo, paysTwo⟩
  intro same
  have positions := distinct ⟨0, sentOne, replyOne, foundOne⟩ ⟨0, sentTwo, replyTwo, foundTwo⟩ same
  omega

end VoucherProxy
