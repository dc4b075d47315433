import VoucherProxy.Console
import VoucherProxy.Foundation.Surroundings
import VoucherProxy.Isolation
import VoucherProxy.Issued

namespace VoucherProxy

/-! The proxy with a console behind it. The console has its own state, answers the
requests that reach it, and may be reached without its answer getting back. -/

section

variable [Crates] [SerdeText] [Framework]

/-- What becomes of an exchange with the console. -/
inductive Link
  | delivered
  /-- The answer breaks off in its body. -/
  | cut
  /-- The request arrives, and its answer does not. -/
  | lost (error : TransportError)
  | unreached (error : TransportError)

/-- What the proxy gets of an answer. -/
def Link.reply (link : Link) (answer : StatusCode × String) : Reply :=
  match link with
  | .delivered => .answered answer.1 (some answer.2)
  | .cut => .answered answer.1 none
  | .lost error => .failed error
  | .unreached error => .failed error

def Link.arrives : Link → Bool
  | .unreached _ => false
  | _ => true

namespace Console

/-- A console as the surroundings of the proxy; requests for elsewhere are answered by
others. -/
def surroundings : Surroundings Effect Console (Outside × Link) Outside where
  bare wide := wide.1
  input effect wide console :=
    match effect with
    | .send _ sent =>
        match console.serve sent with
        | some (answer, _) => { wide.1 with reply := wide.2.reply answer }
        | none => wide.1
    | _ => wide.1
  after effect wide console :=
    match effect with
    | .send _ sent =>
        match console.serve sent with
        | some (_, next) => if wide.2.arrives then next else console
        | none => console
    | _ => console

omit [Crates] in
/-- An effect changes the console when it is a request that does. -/
theorem after_cases (effect : Effect) (wide : Outside × Link) (console : Console) :
    surroundings.after effect wide console = console ∨
      ∃ slot sent, effect = .send slot sent ∧
        console.Changes sent (surroundings.after effect wide console) := by
  cases effect with
  | send slot sent =>
      cases served : console.serve sent with
      | none => exact .inl (by simp [surroundings, served])
      | some outcome =>
          rcases outcome with ⟨answer, next⟩
          cases arrives : wide.2.arrives with
          | false => exact .inl (by simp [surroundings, served, arrives])
          | true =>
              right
              refine ⟨slot, sent, rfl, ?_⟩
              simpa [surroundings, served, arrives] using console.changes_serve served
  | _ => exact .inl rfl

end Console

/-- A step of the proxy and the console. -/
inductive Errand
  | arrive (schedule : List Nat) (request : HttpRequest)
  | advance (index : Nat) (outside : Outside) (link : Link)
  | reload (found : Reload)

namespace Errand

def requests (errands : List Errand) : List (List Nat × HttpRequest) :=
  errands.filterMap fun
    | .arrive schedule request => some (schedule, request)
    | _ => none

def reloads (errands : List Errand) : List Reload :=
  errands.filterMap fun
    | .reload found => some found
    | _ => none

variable [GraphQlEngine]

def turn (settings : RouterSettings) :
    Errand → Turn Effect Answer (Outside × Link) Reload Response
  | .arrive schedule request => .spawn (Routes.serve settings schedule request)
  | .advance index outside link => .advance index (outside, link)
  | .reload found => .move found

/-- The proxy and the console after some errands. -/
def run (settings : RouterSettings) (state : AppState) (console : Console)
    (errands : List Errand) : Pool Effect Answer (AppState × Console) Reload Response :=
  Pool.run (server.among Console.surroundings) (Pool.start (state, console))
    (errands.map (turn settings))

/-- The step the proxy takes on an errand. -/
def step (pool : Pool Effect Answer (AppState × Console) Reload Response) : Errand → Step
  | .arrive schedule request => .arrive schedule request
  | .advance index outside link =>
      match pool.threads[index]? with
      | some ⟨_, .perform effect _⟩ =>
          .advance index (Console.surroundings.input effect (outside, link) pool.state.2)
      | _ => .advance index outside
  | .reload found => .reload found

theorem turn_step (settings : RouterSettings)
    (pool : Pool Effect Answer (AppState × Console) Reload Response) (errand : Errand) :
    Step.turn settings (step pool errand) =
      Pool.tell Console.surroundings pool (turn settings errand) := by
  cases errand with
  | arrive schedule request => rfl
  | reload found => rfl
  | advance index outside link =>
      simp only [step, turn, Pool.tell]
      rcases pool.threads[index]? with _ | ⟨started, rest⟩
      · rfl
      · cases rest with
        | pure value => rfl
        | perform effect next => rfl

/-- The steps the proxy takes. -/
def steps (settings : RouterSettings)
    (pool : Pool Effect Answer (AppState × Console) Reload Response) : List Errand → List Step
  | [] => []
  | first :: errands => step pool first ::
      steps settings (Pool.turn (server.among Console.surroundings) pool (turn settings first))
        errands

theorem map_turn_steps (settings : RouterSettings)
    (pool : Pool Effect Answer (AppState × Console) Reload Response) (errands : List Errand) :
    (steps settings pool errands).map (Step.turn settings) =
      Pool.told server Console.surroundings pool (errands.map (turn settings)) := by
  induction errands generalizing pool with
  | nil => rfl
  | cons first errands induction =>
      rw [steps, List.map_cons, List.map_cons, Pool.told, turn_step, induction]

theorem requests_steps (settings : RouterSettings)
    (pool : Pool Effect Answer (AppState × Console) Reload Response) (errands : List Errand) :
    Step.requests (steps settings pool errands) = requests errands ∧
      Step.reloads (steps settings pool errands) = reloads errands := by
  induction errands generalizing pool with
  | nil => exact ⟨rfl, rfl⟩
  | cons first errands induction =>
      rcases induction (Pool.turn (server.among Console.surroundings) pool
        (turn settings first)) with ⟨arrived, reloaded⟩
      cases first with
      | arrive schedule request => exact ⟨congrArg (_ :: ·) arrived, reloaded⟩
      | reload found => exact ⟨arrived, congrArg (_ :: ·) reloaded⟩
      | advance index outside link =>
          rw [steps]
          simp only [step]
          split
          · exact ⟨arrived, reloaded⟩
          · exact ⟨arrived, reloaded⟩

/-- With a console behind it the proxy does what it may do on its own. -/
theorem alone_run (settings : RouterSettings) (state : AppState) (console : Console)
    (errands : List Errand) :
    (run settings state console errands).alone =
      Step.run settings state (steps settings (Pool.start (state, console)) errands) := by
  rw [Step.run, map_turn_steps]
  exact Pool.alone_run server Console.surroundings _ _

end Errand

/-! ## Why the console is as it is -/

namespace Console

/-- How many vouchers a request asks for. -/
def count (body : Json) : Nat := (((body.get "count").bind Json.asU64).getD 1).toNat

def asked : Event Effect Answer → Nat
  | ⟨.send _ sent, _⟩ =>
      match sent.method, sent.body with
      | .post, some body => count body
      | _, _ => 0
  | _ => 0

omit [Crates] [SerdeText] [Framework] in
theorem length_made (console : Console) (body : Json) :
    (console.made body).length = count body := by
  simp [made, count]

/-- A voucher with what a body says, and an id of the console's own. -/
structure Voucher.Of (voucher : Voucher) (body : Json) : Prop where
  named : voucher.id ≠ ""
  name : voucher.name = ((body.get "name").bind Json.asStr).getD "Voucher"
  minutes : voucher.timeLimitMinutes =
    ((body.get "timeLimitMinutes").bind Json.asU64).getD 60
  guests : voucher.authorizedGuestLimit =
    (((body.get "authorizedGuestLimit").bind Json.asU64).getD 1).toUInt32

omit [Crates] [SerdeText] [Framework] in
theorem of_made {console : Console} {body : Json} {voucher : Voucher}
    (member : voucher ∈ console.made body) : voucher.Of body := by
  rcases List.mem_map.mp member with ⟨index, -, rfl⟩
  have named : "v" ++ toString (console.next + UInt64.ofNat index) ≠ "" := by
    intro blank
    simpa using congrArg String.toList blank
  exact ⟨named, rfl, rfl, rfl⟩

/-- The requests in a log that made a voucher of a site. -/
def MadeIn (initial : Console) (log : Log) (site : String) (voucher : Voucher) : Prop :=
  ∃ index slot sent reply raw body, .event index ⟨.send slot sent, reply⟩ ∈ log ∧
    sent.method = .post ∧ sent.body = some body ∧
    initial.addressed sent = some (.vouchers raw) ∧ Framework.pathParam raw = .ok site ∧
    voucher.Of body

/-- The requests in a log that took an id of a site away. -/
def TakenIn (initial : Console) (log : Log) (site id : String) : Prop :=
  ∃ index slot sent reply rawSite rawId, .event index ⟨.send slot sent, reply⟩ ∈ log ∧
    sent.method = .delete ∧ initial.addressed sent = some (.voucher rawSite rawId) ∧
    Framework.pathParam rawSite = .ok site ∧ Framework.pathParam rawId = .ok id

/-- A console that a log explains. -/
structure Explained (initial : Console) (log : Log) (console : Console) : Prop where
  base : console.base = initial.base
  made : ∀ site, ∀ voucher ∈ console.vouchers site,
    voucher ∈ initial.vouchers site ∨ MadeIn initial log site voucher
  taken : ∀ site, ∀ voucher ∈ initial.vouchers site,
    voucher ∈ console.vouchers site ∨ TakenIn initial log site voucher.id
  length : ∀ site, (console.vouchers site).length ≤
    (initial.vouchers site).length + Pool.logged asked log

variable {initial console : Console} {log : Log}

omit [SerdeText] in
theorem Explained.refl (initial : Console) : Explained initial [] initial where
  base := rfl
  made _ _ member := .inl member
  taken _ _ member := .inl member
  length _ := le_refl _

omit [SerdeText] in
theorem Explained.grow (explained : Explained initial log console)
    (last : Occurrence Effect Answer Reload) : Explained initial (log ++ [last]) console where
  base := explained.base
  made site voucher member := by
    rcases explained.made site voucher member with old |
      ⟨index, slot, sent, reply, raw, body, here, made⟩
    · exact .inl old
    · exact .inr ⟨index, slot, sent, reply, raw, body, List.mem_append_left _ here, made⟩
  taken site voucher member := by
    rcases explained.taken site voucher member with kept |
      ⟨index, slot, sent, reply, rawSite, rawId, here, taken⟩
    · exact .inl kept
    · exact .inr ⟨index, slot, sent, reply, rawSite, rawId, List.mem_append_left _ here, taken⟩
  length site := by
    rw [Pool.logged_append]
    exact (explained.length site).trans (by omega)

omit [SerdeText] in
theorem Explained.event (explained : Explained initial log console) (index : Nat)
    {slot : Nat} {sent : UpstreamRequest} (reply : VoucherProxy.Reply) {next : Console}
    (changes : console.Changes sent next) :
    Explained initial (log ++ [.event index ⟨.send slot sent, reply⟩]) next := by
  have grown := explained.grow (.event index ⟨.send slot sent, reply⟩)
  have here : (.event index ⟨.send slot sent, reply⟩ : Occurrence Effect Answer Reload) ∈
      log ++ [.event index ⟨.send slot sent, reply⟩] := by simp
  have same : initial.addressed sent = console.addressed sent := by
    rw [addressed, addressed, explained.base]
  cases changes with
  | nothing => exact grown
  | @created raw site body method content toSite decoded =>
      refine ⟨explained.base, fun own voucher member => ?_, fun own voucher member => ?_,
        fun own => ?_⟩
      · by_cases isSite : own = site
        · subst isSite
          rw [vouchers_withMade, if_pos rfl, List.mem_append] at member
          rcases member with old | new
          · exact grown.made own voucher old
          · exact .inr ⟨index, slot, sent, reply, raw, body, here, method, content,
              same.trans toSite, decoded, of_made new⟩
        · rw [vouchers_withMade, if_neg isSite] at member
          exact grown.made own voucher member
      · rcases grown.taken own voucher member with kept | taken
        · left
          by_cases isSite : own = site
          · subst isSite
            rw [vouchers_withMade, if_pos rfl]
            exact List.mem_append_left _ kept
          · rw [vouchers_withMade, if_neg isSite]
            exact kept
        · exact .inr taken
      · have more := explained.length own
        have added : Pool.logged asked
            [(.event index ⟨.send slot sent, reply⟩ : Occurrence Effect Answer Reload)] =
              count body := by
          rw [Pool.logged_event]
          simp [asked, method, content]
        rw [Pool.logged_append, added]
        by_cases isSite : own = site
        · subst isSite
          rw [vouchers_withMade, if_pos rfl, List.length_append, length_made]
          omega
        · rw [vouchers_withMade, if_neg isSite]
          omega
  | @deleted rawSite rawId site id method toSite decoded decodedId =>
      refine ⟨explained.base, fun own voucher member => ?_, fun own voucher member => ?_,
        fun own => ?_⟩
      · apply grown.made own voucher
        by_cases isSite : own = site
        · subst isSite
          rw [vouchers_without, if_pos rfl] at member
          exact List.mem_of_mem_filter member
        · rwa [vouchers_without, if_neg isSite] at member
      · rcases grown.taken own voucher member with kept | taken
        · by_cases isSite : own = site
          · subst isSite
            by_cases isId : voucher.id = id
            · subst isId
              exact .inr ⟨index, slot, sent, reply, rawSite, rawId, here, method,
                same.trans toSite, decoded, decodedId⟩
            · left
              rw [vouchers_without, if_pos rfl]
              exact List.mem_filter.mpr ⟨kept, by simpa using isId⟩
          · left
            rw [vouchers_without, if_neg isSite]
            exact kept
        · exact .inr taken
      · apply le_trans _ (grown.length own)
        by_cases isSite : own = site
        · subst isSite
          rw [vouchers_without, if_pos rfl]
          exact List.length_filter_le _ _
        · rw [vouchers_without, if_neg isSite]

/-- A turn leaves a console that the log explains. -/
theorem Explained.turn {pool : Pool Effect Answer (AppState × Console) Reload Response}
    (explained : Explained initial pool.log pool.state.2)
    (move : Turn Effect Answer (Outside × Link) Reload Response) :
    Explained initial (Pool.turn (server.among surroundings) pool move).log
      (Pool.turn (server.among surroundings) pool move).state.2 := by
  rcases Pool.turn_cases (server.among surroundings) pool move with same | ⟨program, -, spawned⟩ |
    ⟨index, wide, started, effect, next, -, -, advanced⟩ | ⟨made, -, moved⟩
  · rw [same]
    exact explained
  · rw [spawned]
    exact explained
  · rw [advanced]
    rcases after_cases effect wide pool.state.2 with same | ⟨slot, sent, rfl, changes⟩
    · change Explained initial _ (surroundings.after effect wide pool.state.2)
      rw [same]
      exact explained.grow _
    · exact explained.event index _ changes
  · rw [moved]
    exact explained.grow _

/-- The log of a run explains the console at its end. -/
theorem explained_run [GraphQlEngine] (settings : RouterSettings) (state : AppState)
    (console : Console) (errands : List Errand) :
    Explained console (Errand.run settings state console errands).log
      (Errand.run settings state console errands).state.2 := by
  have keeps : ∀ (pool : Pool Effect Answer (AppState × Console) Reload Response) move, True →
      Explained console pool.log pool.state.2 →
      Explained console (Pool.turn (server.among surroundings) pool move).log
        (Pool.turn (server.among surroundings) pool move).state.2 :=
    fun _ move _ explained => explained.turn move
  exact Pool.run_induction keeps (Explained.refl console) (fun _ _ => trivial)

end Console

/-! ## Who may ask for it -/

/-- The rights of a request to a call under a configuration. -/
structure Config.Permits (config : Config) (request : HttpRequest) (call : UpstreamCall)
    (token : TokenConfig) : Prop where
  bearer : config.tokenFor request = some token
  scope : token.hasScope call.scope = true
  site : ∀ site, call.site = some site → token.allowsSite site = true
  policy : call.Within (Caller.ofToken token config.limits).ceilings

variable [GraphQlEngine]

omit [SerdeText] in
/-- Whatever is sent goes through the client of the `Live` in its slot, which a configuration
of the run gave it, and is a call that a token of a configuration in force may make. -/
theorem Step.permitted (settings : RouterSettings) {cfg : Config} {path : Option String}
    {state : AppState} (started : AppState.withPath cfg path = .ok state) {steps : List Step}
    (collisionFree : Set.InjOn Credentials.sha256 (presented steps)) {index : Nat}
    {schedule : List Nat} {request : HttpRequest}
    (arrived : (requests steps)[index]? = some (schedule, request)) {slot : Nat}
    {sent : UpstreamRequest} {reply : Reply}
    (member : (⟨.send slot sent, reply⟩ : Event Effect Answer) ∈
      history settings state steps index) :
    ∃ call : UpstreamCall,
      call.prepare ((run settings state steps).state.lives slot).upstream = .ok sent ∧
      (∃ config ∈ configurations cfg path steps,
        Upstream.new config.controller config.server.upstreamTimeout =
          .ok ((run settings state steps).state.lives slot).upstream) ∧
      ∃ config ∈ configurations cfg path steps, ∃ token, config.Permits request call token := by
  rcases List.append_of_mem member with ⟨before, after, place⟩
  have within : before ⊆ history settings state steps index := by
    rw [place]
    exact List.subset_append_left _ _
  have mediated : Mediated request before slot sent :=
    run_disciplined settings state arrived before _ after place
  have snapshots := Snapshots.run started (steps.map (turn settings))
  have genuine := run_genuine settings started collisionFree arrived within
  rcases mediated with ⟨extraction, caller, call, extracted, acts⟩
  rcases acts.prepared with ⟨guard, loaded, rfl, prepared⟩
  rcases place_of_loaded (within extracted.loaded) with ⟨early, late, logged⟩
  rcases place_of_loaded (within loaded) with ⟨earlyUsed, lateUsed, loggedUsed⟩
  rcases snapshots.loaded_built logged with ⟨-, live, built, same⟩
  rcases snapshots.loaded_built loggedUsed with ⟨-, used, builtUsed, sameUsed⟩
  have held : ((run settings state steps).state.lives guard.slot).upstream =
      guard.value.upstream :=
    (snapshots.loaded _ _ _ _ loggedUsed).2.upstream
  rw [held]
  refine ⟨call, prepared, ⟨_, inForce_mem settings loggedUsed, ?_⟩,
    _, inForce_mem settings logged, caller.token,
    extracted.tokenFor built genuine same, acts.scope, acts.site, ?_⟩
  · rw [sameUsed.upstream]
    exact (Live.build_eq_ok.mp builtUsed).2.1
  · have ceilings := extracted.ceilings
    rw [same.limits, (Live.build_eq_ok.mp built).2.2.1] at ceilings
    rw [← ceilings]
    exact acts.policy

/-! ## What a create makes -/

omit [SerdeText] [Crates] [Framework] [GraphQlEngine] in
/-- The base of a host that has no query in it has none either. -/
theorem query_normalizeHost {host : String} (plain : '?' ∉ host.toList) :
    '?' ∉ (normalizeHost host ++ "/proxy/network/integration/v1").toList := by
  have trimmed : '?' ∉ (Text.trimEndMatches (Text.trim host) '/').toList := by
    rw [Text.trimEndMatches, Text.trim, String.toList_ofList, String.toList_ofList]
    intro member
    have kept := (List.rdropWhile_prefix _ _).subset ((List.rdropWhile_prefix _ _).subset member)
    exact plain ((List.dropWhile_suffix _).subset kept)
  have scheme : '?' ∉ "https://".toList := by decide
  have path : '?' ∉ "/proxy/network/integration/v1".toList := by decide
  have spelled : ∀ text : String, s!"https://{text}" = "https://" ++ text := fun _ => rfl
  rw [String.toList_append, List.mem_append, not_or]
  refine ⟨?_, path⟩
  simp only [normalizeHost]
  split
  · exact trimmed
  · rw [spelled, String.toList_append, List.mem_append, not_or]
    exact ⟨scheme, trimmed⟩

namespace Console

omit [SerdeText] [Crates] [Framework] [GraphQlEngine] in
theorem get_members (request : CreateVoucherRequest) (field : CreateVoucherRequest.Field)
    (written : (request.value field).isNull = false) :
    (Json.object request.members).get field.key = some (request.value field) := by
  change request.members.lookup field.key = _
  rw [request.lookup_members, written]
  rfl

omit [SerdeText] [Crates] [Framework] [GraphQlEngine] in
theorem count_members (request : CreateVoucherRequest) :
    count (.object request.members) = request.count.toNat := by
  have written : (Json.object request.members).get "count" =
      some (.number (.posInt request.count.toUInt64)) := get_members request .count rfl
  rw [count, written]
  exact UInt32.toNat_toUInt64 _

omit [SerdeText] [Crates] [Framework] [GraphQlEngine] in
/-- A voucher made of a request has its name, its minutes and its guests. -/
theorem of_members {voucher : Voucher} {request : CreateVoucherRequest}
    (made : voucher.Of (.object request.members)) :
    voucher.name = request.name ∧ voucher.timeLimitMinutes = request.timeLimitMinutes ∧
      voucher.authorizedGuestLimit = request.authorizedGuestLimit := by
  have name : (Json.object request.members).get "name" = some (.string request.name) :=
    get_members request .name rfl
  have minutes : (Json.object request.members).get "timeLimitMinutes" =
      some (.number (.posInt request.timeLimitMinutes)) := get_members request .timeLimitMinutes rfl
  have guests : (Json.object request.members).get "authorizedGuestLimit" =
      some (.number (.posInt request.authorizedGuestLimit.toUInt64)) :=
    get_members request .authorizedGuestLimit rfl
  refine ⟨?_, ?_, ?_⟩
  · rw [made.name, name]
    rfl
  · rw [made.minutes, minutes]
    rfl
  · rw [made.guests, guests]
    exact UInt32.toUInt32_toUInt64 _

end Console

/-! ## Whole runs -/

/-- The charges that are granted. -/
def Event.paid (event : Event Effect Answer) : Nat :=
  (charging.earns event.effect event.answer).toNat

namespace Errand

/-- The configurations that are in force in the course of a run. -/
def configurations (cfg : Config) (path : Option String) (errands : List Errand) : List Config :=
  cfg :: (reloads errands).filterMap (Reload.accepted path)

/-- The strings that are presented as tokens. -/
def presented (errands : List Errand) : Set String :=
  { text | ∃ arrival ∈ requests errands, tokenFromHeaders arrival.2.headers = some text }

/-- Some request may make the call, under a configuration in force. -/
def Granted (cfg : Config) (path : Option String) (errands : List Errand)
    (call : UpstreamCall) : Prop :=
  ∃ arrival ∈ requests errands, ∃ config ∈ configurations cfg path errands, ∃ token,
    config.Permits arrival.2 call token

/-- What becomes of a console behind the proxy. -/
structure Sanctioned (cfg : Config) (path : Option String) (errands : List Errand)
    (log : Log) (before after : Console) : Prop where
  made : ∀ site, ∀ voucher ∈ after.vouchers site, voucher ∈ before.vouchers site ∨
    ∃ request : CreateVoucherRequest,
      Granted cfg path errands (.createVouchers site request) ∧ voucher.name = request.name ∧
      voucher.timeLimitMinutes = request.timeLimitMinutes ∧
      voucher.authorizedGuestLimit = request.authorizedGuestLimit
  taken : ∀ site, ∀ voucher ∈ before.vouchers site, voucher ∈ after.vouchers site ∨
    Granted cfg path errands (.deleteVoucher site voucher.id)
  length : ∀ site most, (∀ config ∈ configurations cfg path errands, ∀ token ∈ config.tokens,
      (Caller.ofToken token config.limits).ceilings.maxVouchers.toNat ≤ most) →
    (after.vouchers site).length ≤
      (before.vouchers site).length + most * Pool.logged Event.paid log

/-- What a deployment is set up with. -/
structure Deployed (cfg : Config) (path : Option String) (state : AppState)
    (errands : List Errand) : Prop where
  started : AppState.withPath cfg path = .ok state
  collisionFree : Set.InjOn Credentials.sha256 (presented errands)
  /-- The framework leaves ids as they are. -/
  ids : ∀ id, IsId id → Framework.pathParam id = .ok id
  plain : ∀ config ∈ configurations cfg path errands, '?' ∉ config.controller.host.toList

section

variable {cfg : Config} {path : Option String} {state : AppState} {errands : List Errand}
  (settings : RouterSettings) (console : Console)

theorem log_eq : (run settings state console errands).log =
    (Step.run settings state (steps settings (Pool.start (state, console)) errands)).log :=
  congrArg Pool.log (alone_run settings state console errands)

/-- Whatever is sent in a deployment is a call that one of its requests may make. -/
theorem permitted (deployed : Deployed cfg path state errands) {index slot : Nat}
    {sent : UpstreamRequest} {reply : Reply}
    (member : (.event index ⟨.send slot sent, reply⟩ :
      Occurrence Effect Answer Reload) ∈ (run settings state console errands).log) :
    ∃ call upstream, call.prepare upstream = .ok sent ∧
      (∃ config ∈ configurations cfg path errands,
        upstream.base = normalizeHost config.controller.host ++ "/proxy/network/integration/v1") ∧
      Granted cfg path errands call := by
  rw [log_eq settings console] at member
  rcases requests_steps settings (Pool.start (state, console)) errands with ⟨arrived, reloaded⟩
  have sameConfigurations : Step.configurations cfg path
      (steps settings (Pool.start (state, console)) errands) =
        configurations cfg path errands := by
    rw [Step.configurations, reloaded, configurations]
  have collisionFree : Set.InjOn Credentials.sha256
      (Step.presented (steps settings (Pool.start (state, console)) errands)) := by
    rw [Step.presented, arrived]
    exact deployed.collisionFree
  have here := Pool.mem_eventsOf.mpr member
  have within : index < (Step.requests
      (steps settings (Pool.start (state, console)) errands)).length := by
    by_contra beyond
    have none : Step.history settings state
        (steps settings (Pool.start (state, console)) errands) index = [] :=
      Step.history_eq_nil (Nat.le_of_not_lt beyond)
    rw [Step.history] at none
    rw [none] at here
    cases here
  rcases Step.arrived_of_mem_range (Finset.mem_range.mpr within) with
    ⟨schedule, request, arrival⟩
  rcases Step.permitted settings deployed.started collisionFree arrival here with
    ⟨call, prepared, ⟨used, inForce, created⟩, config, active, token, permits⟩
  rw [sameConfigurations] at inForce active
  refine ⟨call, _, prepared, ⟨used, inForce, Upstream.base_of_new created⟩, (schedule, request), ?_,
    config, active, token, permits⟩
  rw [← arrived]
  exact List.mem_of_getElem? arrival

/-- A call asks for no more vouchers than a ceiling allows, and only a create asks. -/
theorem asked_le (deployed : Deployed cfg path state errands) {most : Nat}
    (bounded : ∀ config ∈ configurations cfg path errands, ∀ token ∈ config.tokens,
      (Caller.ofToken token config.limits).ceilings.maxVouchers.toNat ≤ most) {index : Nat}
    {event : Event Effect Answer} (member : (.event index event :
      Occurrence Effect Answer Reload) ∈ (run settings state console errands).log) :
    Console.asked event ≤ most * attempts event := by
  rcases event with ⟨effect, reply⟩
  cases effect with
  | send slot sent =>
      rcases permitted settings console deployed member with
        ⟨call, upstream, prepared, -, arrival, -, config, active, token, permits⟩
      rcases UpstreamCall.prepare_eq_ok.mp prepared with ⟨-, rfl⟩
      cases call with
      | createVouchers site request =>
          have enforced := permits.policy site request rfl
          have within := (CreateVoucherRequest.enforce_eq_ok.mp enforced).2.2.1.2
          have ceiling := bounded config active token (Config.tokenFor_eq_some permits.bearer).1
          change Console.count (.object request.members) ≤ most * 1
          rw [Console.count_members, Nat.mul_one]
          exact (UInt32.le_iff_toNat_le.mp within).trans ceiling
      | _ => exact Nat.zero_le _
  | _ => exact Nat.zero_le _

theorem attempts_le_paid : Pool.logged attempts (run settings state console errands).log ≤
    Pool.logged Event.paid (run settings state console errands).log := by
  rw [log_eq, Step.logged_eq_sum, Step.logged_eq_sum]
  apply Finset.sum_le_sum
  intro index member
  rcases Step.arrived_of_mem_range member with ⟨schedule, request, arrived⟩
  rcases Step.events_trace settings state arrived with ⟨rest, trace⟩
  have spent := (Charging.serve_pays settings schedule request).total_le trace
  rw [total_costs, Nat.zero_add] at spent
  exact spent

/-- Whatever happens, the console holds what it held before and what its clients were
entitled to create, less what they were entitled to revoke. No more is created than the
charges that were granted allow for. -/
theorem sanctioned (deployed : Deployed cfg path state errands) :
    Sanctioned cfg path errands (run settings state console errands).log console
      (run settings state console errands).state.2 := by
  have explained := Console.explained_run settings state console errands
  constructor
  · intro site voucher member
    rcases explained.made site voucher member with old |
      ⟨index, slot, sent, reply, raw, body, logged, method, content, here, decoded, made⟩
    · exact .inl old
    · rcases permitted settings console deployed logged with
        ⟨call, upstream, prepared, ⟨used, inForce, base⟩, granted⟩
      have plain : '?' ∉ upstream.base.toList := by
        rw [base]
        exact query_normalizeHost (deployed.plain used inForce)
      rcases console.eq_createVouchers prepared plain method here with
        ⟨isId, request, rfl, written⟩
      rw [deployed.ids raw isId, Except.ok.injEq] at decoded
      rw [content, Option.some.injEq] at written
      subst decoded written
      exact .inr ⟨request, granted, Console.of_members made⟩
  · intro site voucher member
    rcases explained.taken site voucher member with kept |
      ⟨index, slot, sent, reply, rawSite, rawId, logged, method, here, decoded, decodedId⟩
    · exact .inl kept
    · rcases permitted settings console deployed logged with
        ⟨call, upstream, prepared, ⟨used, inForce, base⟩, granted⟩
      have plain : '?' ∉ upstream.base.toList := by
        rw [base]
        exact query_normalizeHost (deployed.plain used inForce)
      rcases console.eq_deleteVoucher prepared plain method here with ⟨isSite, isId, rfl⟩
      rw [deployed.ids rawSite isSite, Except.ok.injEq] at decoded
      rw [deployed.ids rawId isId, Except.ok.injEq] at decodedId
      subst decoded decodedId
      exact .inr granted
  · intro site most bounded
    have asked := Pool.logged_le_mul fun index event member =>
      asked_le settings console deployed bounded member
    exact (explained.length site).trans (Nat.add_le_add_left
      (asked.trans (Nat.mul_le_mul_left most (attempts_le_paid settings console))) _)

end

end Errand

end

section

open Sample

local instance forms : Framework := reading

/-- The text of an empty list; what else is written is not read here. -/
def emptyText : Json → String
  | .object [("data", .array [])] => "\x7b\"data\":[]\x7d"
  | _ => ""

local instance writer : SerdeText := ⟨emptyText⟩

/-- An empty console at the address of the configuration. -/
def emptyConsole : Console where
  base := "https://unifi.local/proxy/network/integration/v1"
  apiKey := "controller-key"
  always401 := false
  vouchers _ := []
  next := 1

/-- A create whose answer gets lost, and the next one after it. -/
def bookedErrands : List Errand :=
  let create := request "POST" "/proxy/network/integration/v1/sites/main/hotspot/vouchers"
    receptionKey []
  .arrive [] create :: List.replicate 9 (.advance 0 outside (.lost ⟨["timed out"], true, false⟩)) ++
    .arrive [] create :: List.replicate 9 (.advance 1 outside .delivered)

/-- Both are on the console, and were asked for by a token that may. -/
theorem Errand.sanctioned_booked :
    Sanctioned cfg (some "config.toml") bookedErrands
      (run settings state emptyConsole bookedErrands).log emptyConsole
      (run settings state emptyConsole bookedErrands).state.2 ∧
    ((run settings state emptyConsole bookedErrands).state.2.vouchers "main").map
      (fun voucher => (voucher.id, voucher.name)) = [("v1", "guest"), ("v2", "guest")] := by
  have digests : Set.InjOn Credentials.sha256 (Step.presented
      [.arrive [] (request "POST" "/proxy/network/integration/v1/sites/main/hotspot/vouchers"
          receptionKey []),
        .arrive [] (request "POST" "/proxy/network/integration/v1/sites/main/hotspot/vouchers"
          receptionKey [])]) :=
    collisionFree (by decide)
  have plain : ∀ config ∈ configurations cfg (some "config.toml") bookedErrands,
      '?' ∉ config.controller.host.toList := by
    have same : configurations cfg (some "config.toml") bookedErrands = [cfg] := rfl
    rw [same]
    decide
  exact ⟨sanctioned settings emptyConsole ⟨started, digests, fun _ _ => rfl, plain⟩,
    by decide +kernel⟩

end

end VoucherProxy
