import VoucherProxy.Appearance
import VoucherProxy.Foundation.Peers
import VoucherProxy.Sample
import VoucherProxy.Snapshots

namespace VoucherProxy

/-! What the credentials show: the controller's key goes into the requests to the
controller and nowhere else, and a string presented as a token shows in nothing the
proxy says, counts or asks for but the entry it belongs to. -/

section

variable [Crates]

/-- Strings presented in one run, each with the one presented in its place in another. -/
structure Disguise where
  shown : String → String → Prop
  /-- One digest in one run is one digest in the other. -/
  faithful : ∀ {text other later otherLater}, shown text other → shown later otherLater →
    (Credentials.sha256 text = Credentials.sha256 later ↔
      Credentials.sha256 other = Credentials.sha256 otherLater)

namespace Disguise

variable (disguise : Disguise)

/-- Token lists that do not tell a string from its disguise. -/
def Blind (tokens : ParsedTokens) : Prop :=
  ∀ text other, disguise.shown text other → ∀ entry ∈ tokens,
    Credentials.verifyPassword entry.2 text = Credentials.verifyPassword entry.2 other

/-- Clients for one controller, whatever their keys. -/
def SameUpstream (left right : Upstream) : Prop :=
  left.client = right.client ∧ left.base = right.base

/-- Requests that differ in their keys only. -/
structure SameRequest (left right : UpstreamRequest) : Prop where
  method : left.method = right.method
  url : left.url = right.url
  accept : left.accept = right.accept
  body : left.body = right.body

/-- The keys, and the presented strings, are what may differ. -/
def seen : Appearance where
  tokens := disguise.Blind
  digest key other := ∃ text otherText, disguise.shown text otherText ∧
    key = Credentials.sha256 text ∧ other = Credentials.sha256 otherText
  upstream := SameUpstream
  sent := SameRequest
  prepare := by
    intro left right same method path body
    exact ⟨rfl, congrArg (· ++ path) same.2, rfl, rfl⟩

/-- Configurations that differ in the key only, and whose entries do not tell a string
from its disguise. -/
structure Covers (cfg other : Config) : Prop where
  rekeyed : other =
    { cfg with controller := { cfg.controller with apiKey := other.controller.apiKey } }
  blind : ∀ text otherText, disguise.shown text otherText → ∀ token ∈ cfg.tokens,
    token.verifies text = token.verifies otherText

/-! ## States that differ in secrets -/

structure SameLive (live other : Live) : Prop where
  known : disguise.Blind live.auth.tokens
  tokens : live.auth.tokens = other.auth.tokens
  cache : ∀ text otherText, disguise.shown text otherText →
    live.auth.cache.lookup (Credentials.sha256 text) =
      other.auth.cache.lookup (Credentials.sha256 otherText)
  upstream : SameUpstream live.upstream other.upstream
  limits : live.limits = other.limits
  rate : live.rate = other.rate
  tokenCount : live.tokenCount = other.tokenCount

structure SameState (path : Option String) (state twin : AppState) : Prop where
  lives : ∀ slot, disguise.SameLive (state.lives slot) (twin.lives slot)
  current : state.current = twin.current
  metrics : state.metrics = twin.metrics
  configPath : state.configPath = path
  twinPath : twin.configPath = path

variable {disguise}

theorem scan_eq {tokens : ParsedTokens} (blind : disguise.Blind tokens) {text other : String}
    (shown : disguise.shown text other) :
    Authenticator.scan tokens text = Authenticator.scan tokens other := by
  unfold Authenticator.scan
  apply List.foldl_ext
  intro found candidate member
  have known : candidate.1 ∈ tokens := by
    have place := List.mem_zipIdx' member
    rw [place.2]
    exact List.getElem_mem _
  rw [blind text other shown candidate.1 known]

theorem Covers.blind_mapM {tokens : List TokenConfig} {parsed : ParsedTokens}
    (parses : tokens.mapM Authenticator.parseToken = .ok parsed)
    (blind : ∀ text other, disguise.shown text other → ∀ token ∈ tokens,
      token.verifies text = token.verifies other) : disguise.Blind parsed := by
  induction tokens generalizing parsed with
  | nil =>
      rw [List.mapM_nil] at parses
      cases parses
      exact fun _ _ _ _ member => absurd member List.not_mem_nil
  | cons token tokens induction =>
      rcases Authenticator.mapM_parseToken_cons.mp parses with
        ⟨first, rest, parsesFirst, parsesRest, rfl⟩
      have others := induction parsesRest fun text other shown own member =>
        blind text other shown own (List.mem_cons_of_mem _ member)
      intro text other shown entry member
      rcases List.mem_cons.mp member with rfl | late
      · have verdict := blind text other shown token List.mem_cons_self
        rwa [TokenConfig.verifies_of_parse parsesFirst,
          TokenConfig.verifies_of_parse parsesFirst] at verdict
      · exact others text other shown entry late

/-- The key is not looked at when a client is set up. -/
theorem new_rekeyed (cfg : ControllerConfig) (key : Secret) (timeout : Nat) :
    Upstream.new { cfg with apiKey := key } timeout =
      (Upstream.new cfg timeout).map fun upstream => { upstream with apiKey := key } := by
  unfold Upstream.new
  cases Tls.clientConfig cfg.tls with
  | error why => rfl
  | ok verifier =>
      dsimp only [Bind.bind, Except.bind]
      cases Reqwest.build ⟨verifier, timeout, 10000, false⟩ with
      | error why => rfl
      | ok _ => rfl

theorem sameUpstream_new {cfg : ControllerConfig} {key : Secret} {timeout : Nat}
    {upstream other : Upstream} (created : Upstream.new cfg timeout = .ok upstream)
    (otherCreated : Upstream.new { cfg with apiKey := key } timeout = .ok other) :
    SameUpstream upstream other := by
  rw [new_rekeyed, created] at otherCreated
  rcases Except.ok.inj otherCreated with rfl
  exact ⟨rfl, rfl⟩

/-- What is built from two such configurations. -/
theorem Covers.sameLive {cfg other : Config} (covers : disguise.Covers cfg other)
    {live otherLive : Live} (built : Live.build cfg = .ok live)
    (otherBuilt : Live.build other = .ok otherLive) : disguise.SameLive live otherLive := by
  rw [covers.rekeyed] at otherBuilt
  rcases Live.build_eq_ok.mp built with ⟨auth, upstream, limits, rate, tokenCount⟩
  rcases Live.build_eq_ok.mp otherBuilt with
    ⟨otherAuth, otherUpstream, otherLimits, otherRate, otherTokenCount⟩
  have sameAuth : live.auth = otherLive.auth := Except.ok.inj (auth.symm.trans otherAuth)
  refine ⟨?_, congrArg Authenticator.tokens sameAuth, ?_, ?_, ?_, ?_, ?_⟩
  · exact Covers.blind_mapM (Authenticator.new_eq_ok.mp auth).1 covers.blind
  · intro text otherText _
    rw [← sameAuth, Authenticator.cache_new auth, AList.lookup_empty, AList.lookup_empty]
  · exact sameUpstream_new upstream otherUpstream
  · exact limits.trans otherLimits.symm
  · exact rate.trans otherRate.symm
  · exact tokenCount.trans otherTokenCount.symm

/-! ## What a step leaves the same -/

variable {path : Option String}

omit disguise in
theorem withPath_cases {cfg : Config} {state : AppState}
    (started : AppState.withPath cfg path = .ok state) :
    ∃ live, Live.build cfg = .ok live ∧ state = ⟨fun _ => live, 0, {}, path⟩ := by
  unfold AppState.withPath at started
  cases built : Live.build cfg with
  | error why => simp [built, Bind.bind, Except.bind] at started
  | ok live =>
      rw [built] at started
      exact ⟨live, rfl, (Except.ok.inj started).symm⟩

theorem SameState.start {cfg other : Config} (covers : disguise.Covers cfg other)
    {state twin : AppState} (started : AppState.withPath cfg path = .ok state)
    (otherStarted : AppState.withPath other path = .ok twin) :
    disguise.SameState path state twin := by
  rcases withPath_cases started with ⟨live, built, rfl⟩
  rcases withPath_cases otherStarted with ⟨otherLive, otherBuilt, rfl⟩
  exact ⟨fun _ => covers.sameLive built otherBuilt, rfl, rfl, rfl, rfl⟩

theorem SameState.modify {state twin : AppState} (same : disguise.SameState path state twin)
    {slot : Nat} {live other : Live} (updated : disguise.SameLive live other) :
    disguise.SameState path (state.modify slot live) (twin.modify slot other) := by
  refine ⟨fun own => ?_, same.current, same.metrics, same.configPath, same.twinPath⟩
  by_cases isOwn : own = slot
  · subst isOwn
    simpa using updated
  · rw [state.lives_modify_ne live isOwn, twin.lives_modify_ne other isOwn]
    exact same.lives own

theorem SameState.recordMetrics {state twin : AppState}
    (same : disguise.SameState path state twin) (record : Metrics → Metrics) :
    disguise.SameState path (state.recordMetrics record) (twin.recordMetrics record) :=
  ⟨same.lives, same.current, congrArg record same.metrics, same.configPath, same.twinPath⟩

theorem SameState.store {state twin : AppState} (same : disguise.SameState path state twin)
    {live other : Live} (built : disguise.SameLive live other) :
    disguise.SameState path (state.store live) (twin.store other) := by
  refine ⟨fun slot => ?_, congrArg (· + 1) same.current, same.metrics, same.configPath,
    same.twinPath⟩
  simp only [AppState.store, ← same.current, Function.update_apply]
  split
  · exact built
  · exact same.lives slot

/-- A reload that finds configurations that differ in the key only. -/
theorem SameState.sighup {state twin : AppState} (same : disguise.SameState path state twin)
    {found other : Reload}
    (related : Option.Rel disguise.Covers (found.accepted path) (other.accepted path)) :
    disguise.SameState path (state.sighup found) (twin.sighup other) := by
  rcases state.sighup_accepted found with ⟨refused, left⟩ | ⟨cfg, live, accepted, built, left⟩
  · rcases twin.sighup_accepted other with ⟨_, right⟩ | ⟨_, _, accepted, _, _⟩
    · rw [left, right]
      exact same.recordMetrics _
    · rw [same.configPath] at refused
      rw [same.twinPath] at accepted
      rw [refused, accepted] at related
      cases related
  · rcases twin.sighup_accepted other with
      ⟨refused, _⟩ | ⟨otherCfg, otherLive, otherAccepted, otherBuilt, right⟩
    · rw [same.configPath] at accepted
      rw [same.twinPath] at refused
      rw [refused, accepted] at related
      cases related
    · rw [same.configPath] at accepted
      rw [same.twinPath] at otherAccepted
      rw [accepted, otherAccepted] at related
      rcases related with ⟨covers⟩
      rw [left, right]
      exact (same.store (covers.sameLive built otherBuilt)).recordMetrics _

theorem SameLive.insert {live other : Live} (same : disguise.SameLive live other)
    {text otherText : String} (shown : disguise.shown text otherText) (position : Nat) :
    disguise.SameLive
      { live with auth := { live.auth with
          cache := live.auth.cache.insert (Credentials.sha256 text) position } }
      { other with auth := { other.auth with
          cache := other.auth.cache.insert (Credentials.sha256 otherText) position } } := by
  refine { same with cache := ?_ }
  intro later otherLater laterShown
  have keys := disguise.faithful laterShown shown
  by_cases isKey : Credentials.sha256 later = Credentials.sha256 text
  · rw [isKey, keys.mp isKey, AList.lookup_insert, AList.lookup_insert]
  · rw [AList.lookup_insert_ne isKey, AList.lookup_insert_ne (mt keys.mpr isKey)]
    exact same.cache later otherLater laterShown

/-- Effects that look the same are answered the same. -/
theorem SameState.exec {state twin : AppState} (same : disguise.SameState path state twin)
    {effect other : Effect} (alike : disguise.seen.effect effect other) (outside : Outside) :
    disguise.seen.answer effect other (state.exec effect outside).1
        (twin.exec other outside).1 ∧
      disguise.SameState path (state.exec effect outside).2 (twin.exec other outside).2 := by
  cases effect with
  | live =>
      rcases (alike : Effect.live = other) with rfl
      have held := same.lives state.current
      have here : twin.live.value = twin.lives state.current :=
        congrArg twin.lives same.current.symm
      refine ⟨⟨same.current, held.known, ?_, ?_, ?_⟩, same⟩
      · exact held.tokens.trans (congrArg (fun live => live.auth.tokens) here.symm)
      · exact held.limits.trans (congrArg Live.limits here.symm)
      · exact here ▸ held.upstream
  | checkIp slot ip =>
      rcases (alike : Effect.checkIp slot ip = other) with rfl
      have held := same.lives slot
      refine ⟨heq_of_eq ?_, same.modify { held with rate := ?_ }⟩
      · exact congrArg (fun rate => (rate.checkIp ip outside.clock).1) held.rate
      · exact congrArg (fun rate => (rate.checkIp ip outside.clock).2) held.rate
  | cacheGet slot key =>
      cases other with
      | cacheGet otherSlot otherKey =>
          rcases alike with ⟨rfl, text, otherText, shown, rfl, rfl⟩
          exact ⟨heq_of_eq ((same.lives slot).cache text otherText shown), same⟩
      | _ => cases alike
  | cacheInsert slot key position =>
      cases other with
      | cacheInsert otherSlot otherKey otherPosition =>
          rcases alike with ⟨rfl, ⟨text, otherText, shown, rfl, rfl⟩, rfl⟩
          exact ⟨HEq.rfl, same.modify ((same.lives slot).insert shown position)⟩
      | _ => cases alike
  | check slot token =>
      rcases (alike : Effect.check slot token = other) with rfl
      have held := same.lives slot
      refine ⟨heq_of_eq ?_, same.modify { held with rate := ?_ }⟩
      · exact congrArg (fun rate => (rate.check token outside.clock).1) held.rate
      · exact congrArg (fun rate => (rate.check token outside.clock).2) held.rate
  | send slot request =>
      cases other with
      | send otherSlot otherRequest => exact ⟨HEq.rfl, same⟩
      | _ => cases alike
  | nowUtc =>
      rcases (alike : Effect.nowUtc = other) with rfl
      exact ⟨HEq.rfl, same⟩
  | instant =>
      rcases (alike : Effect.instant = other) with rfl
      exact ⟨HEq.rfl, same⟩
  | audit line =>
      rcases (alike : Effect.audit line = other) with rfl
      exact ⟨HEq.rfl, same⟩
  | recordRequest token action outcome =>
      rcases (alike : Effect.recordRequest token action outcome = other) with rfl
      exact ⟨HEq.rfl, same.recordMetrics fun metrics =>
        metrics.recordRequest token action outcome⟩
  | recordUpstream elapsedMs =>
      rcases (alike : Effect.recordUpstream elapsedMs = other) with rfl
      exact ⟨HEq.rfl, same.recordMetrics fun metrics => metrics.recordUpstream elapsedMs⟩
  | recordVouchersCreated token count =>
      rcases (alike : Effect.recordVouchersCreated token count = other) with rfl
      exact ⟨HEq.rfl, same.recordMetrics fun metrics =>
        metrics.recordVouchersCreated token count⟩

theorem lockstep (disguise : Disguise) (path : Option String) :
    Pool.Lockstep server disguise.seen.likeness
      (fun found other => Option.Rel disguise.Covers (found.accepted path) (other.accepted path))
      (disguise.SameState path) where
  step alike same := same.exec alike _
  move related same := same.sighup related

/-! ## Two runs -/

variable [Framework]

/-- Requests that differ in the token they present only. -/
structure Counterpart (disguise : Disguise) (request other : HttpRequest) : Prop where
  method : request.method = other.method
  path : request.path = other.path
  peer : request.peer = other.peer
  header : Option.Rel disguise.shown (tokenFromHeaders request.headers)
    (tokenFromHeaders other.headers)
  oversized : ∀ limit, Framework.oversized limit request = Framework.oversized limit other
  jsonBody : ∀ limit, Framework.jsonBody limit request = Framework.jsonBody limit other
  graphQlBody : ∀ limit, Framework.graphQlBody limit request = Framework.graphQlBody limit other

theorem Counterpart.counterparts {request other : HttpRequest}
    (counterpart : disguise.Counterpart request other) :
    Appearance.Counterparts disguise.seen request other where
  method := counterpart.method
  path := counterpart.path
  peer := counterpart.peer
  header := by
    have related := counterpart.header
    cases header : tokenFromHeaders request.headers with
    | none =>
        cases otherHeader : tokenFromHeaders other.headers with
        | none => exact .inl ⟨rfl, rfl⟩
        | some otherText =>
            rw [header, otherHeader] at related
            cases related
    | some text =>
        cases otherHeader : tokenFromHeaders other.headers with
        | none =>
            rw [header, otherHeader] at related
            cases related
        | some otherText =>
            rw [header, otherHeader] at related
            rcases related with ⟨shown⟩
            have empty := (tokenFromHeaders_isEmpty header).trans
              (tokenFromHeaders_isEmpty otherHeader).symm
            exact .inr ⟨text, otherText, rfl, rfl, empty, ⟨text, otherText, shown, rfl, rfl⟩,
              fun tokens blind => scan_eq blind shown⟩
  oversized := counterpart.oversized
  jsonBody := counterpart.jsonBody
  graphQlBody := counterpart.graphQlBody

/-- Steps that differ in secrets only. -/
inductive Steps (disguise : Disguise) (path : Option String) : Step → Step → Prop
  | arrive {request other} (schedule : List Nat) : disguise.Counterpart request other →
      Steps disguise path (.arrive schedule request) (.arrive schedule other)
  | advance (index : Nat) (outside : Outside) :
      Steps disguise path (.advance index outside) (.advance index outside)
  | reload {found other} :
      Option.Rel disguise.Covers (found.accepted path) (other.accepted path) →
      Steps disguise path (.reload found) (.reload other)

variable [GraphQlEngine]

theorem Steps.turns (settings : RouterSettings) {steps twin : List Step}
    (all : List.Forall₂ (disguise.Steps path) steps twin) :
    List.Forall₂ (Pool.Alike (Program.Matches disguise.seen.likeness (· = ·))
      fun found other => Option.Rel disguise.Covers (found.accepted path) (other.accepted path))
      (steps.map (Step.turn settings)) (twin.map (Step.turn settings)) := by
  rw [List.forall₂_map_left_iff, List.forall₂_map_right_iff]
  apply all.imp
  intro step other related
  cases related with
  | arrive schedule counterpart =>
      exact .spawn (Appearance.serve_same counterpart.counterparts settings schedule)
  | advance index outside => exact .advance index outside
  | reload related => exact .move related

end Disguise

namespace Step

variable [Framework] [GraphQlEngine] {disguise : Disguise} {cfg other : Config}
  {path : Option String} {state twin : AppState} (settings : RouterSettings)

/-- Two runs that differ in secrets only show no difference: the requests do the same and
are answered the same, and the metrics are the same. -/
theorem discreet (covers : disguise.Covers cfg other)
    (started : AppState.withPath cfg path = .ok state)
    (otherStarted : AppState.withPath other path = .ok twin) {steps twinSteps : List Step}
    (all : List.Forall₂ (disguise.Steps path) steps twinSteps) :
    (∀ index, List.Forall₂ disguise.seen.likeness.Event (history settings state steps index)
        (history settings twin twinSteps index) ∧
      answer? settings state steps index = answer? settings twin twinSteps index) ∧
    (run settings state steps).state.metrics = (run settings twin twinSteps).state.metrics := by
  have initial := Disguise.SameState.start covers started otherStarted
  rcases (disguise.lockstep path).peers initial (Disguise.Steps.turns settings all) with
    ⟨⟨count, peers⟩, same⟩
  exact ⟨fun index => ⟨peers.events index trivial, peers.same_end trivial⟩, same.metrics⟩

end Step

end

section

open Sample

/-- One wrong guess for another. -/
def guesses : Disguise where
  shown text other :=
    (text = receptionKey ∧ other = receptionKey) ∨ (text = "guess" ∧ other = "hunch")
  faithful := by
    have known : Credentials.sha256 receptionKey ≠ Credentials.sha256 "guess" := by decide
    have otherKnown : Credentials.sha256 receptionKey ≠ Credentials.sha256 "hunch" := by decide
    rintro _ _ _ _ (⟨rfl, rfl⟩ | ⟨rfl, rfl⟩) (⟨rfl, rfl⟩ | ⟨rfl, rfl⟩)
    · exact Iff.rfl
    · exact iff_of_false known otherKnown
    · exact iff_of_false known.symm otherKnown.symm
    · exact iff_of_true rfl rfl

def rekeyed : Config := { cfg with controller := { controller with apiKey := ⟨"other-key"⟩ } }

def rekeyedState : AppState :=
  { state with
    lives := fun slot =>
      { state.lives slot with
        upstream := { (state.lives slot).upstream with apiKey := ⟨"other-key"⟩ } } }

theorem covers_rekeyed : guesses.Covers cfg rekeyed where
  rekeyed := rfl
  blind := by
    rintro _ _ (⟨rfl, rfl⟩ | ⟨rfl, rfl⟩) token member
    · rfl
    · have unknown : ∀ token ∈ [reception, lobby],
          token.verifies "guess" = token.verifies "hunch" := by decide +kernel
      exact unknown token member

def sitesRequest (token : String) : HttpRequest :=
  request "GET" "/proxy/network/integration/v1/sites" token []

theorem guesses_counterpart {token other : String} (shown : guesses.shown token other)
    (header : tokenFromHeaders (sitesRequest token).headers = some token)
    (otherHeader : tokenFromHeaders (sitesRequest other).headers = some other) :
    guesses.Counterpart (sitesRequest token) (sitesRequest other) where
  method := rfl
  path := rfl
  peer := rfl
  header := by
    rw [header, otherHeader]
    exact .some shown
  oversized _ := rfl
  jsonBody _ := rfl
  graphQlBody _ := rfl

/-- A guess while the desk is being served. -/
def guessSteps (guess : String) : List Step :=
  .arrive [] (sitesRequest receptionKey) :: .arrive [] (sitesRequest guess) ::
    .reload ⟨none, []⟩ ::
    (List.replicate 5 (.advance 1 outside) ++ List.replicate 12 (.advance 0 outside))

theorem guessSteps_steps :
    List.Forall₂ (guesses.Steps (some "config.toml")) (guessSteps "guess")
      (guessSteps "hunch") := by
  have advanced : ∀ steps : List Step, (∀ step ∈ steps, ∃ index, step = .advance index outside) →
      List.Forall₂ (guesses.Steps (some "config.toml")) steps steps := by
    intro steps only
    rw [List.forall₂_same]
    intro step member
    rcases only step member with ⟨index, rfl⟩
    exact .advance index outside
  apply List.Forall₂.cons (.arrive [] (guesses_counterpart (.inl ⟨rfl, rfl⟩) (by decide)
    (by decide)))
  apply List.Forall₂.cons (.arrive [] (guesses_counterpart (.inr ⟨rfl, rfl⟩) (by decide)
    (by decide)))
  apply List.Forall₂.cons (.reload .none)
  apply advanced
  intro step member
  rcases List.mem_append.mp member with first | second
  · exact ⟨1, List.eq_of_mem_replicate first⟩
  · exact ⟨0, List.eq_of_mem_replicate second⟩

theorem Step.discreet_guess :
    (∀ index, List.Forall₂ guesses.seen.likeness.Event
        (Step.history settings state (guessSteps "guess") index)
        (Step.history settings rekeyedState (guessSteps "hunch") index) ∧
      Step.answer? settings state (guessSteps "guess") index =
        Step.answer? settings rekeyedState (guessSteps "hunch") index) ∧
    (Step.run settings state (guessSteps "guess")).state.metrics =
      (Step.run settings rekeyedState (guessSteps "hunch")).state.metrics :=
  Step.discreet settings covers_rekeyed started rfl guessSteps_steps

end

end VoucherProxy
