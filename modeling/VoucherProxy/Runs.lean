import VoucherProxy.Discipline

namespace VoucherProxy

/-! Whole runs of the server: requests come and go, each moving step by step in
any interleaving with the others and with reloads. -/

variable [Crates]

/-! ## What a `Live` is built from -/

theorem Live.build_eq_ok {cfg : Config} {live : Live} :
    Live.build cfg = .ok live ↔
      Authenticator.new cfg.tokens = .ok live.auth ∧
      Upstream.new cfg.controller cfg.server.upstreamTimeout = .ok live.upstream ∧
      live.limits = cfg.limits ∧ live.rate = RateLimits.fromConfig cfg ∧
      live.tokenCount = cfg.tokens.length := by
  unfold Live.build
  cases Authenticator.new cfg.tokens with
  | error why => simp [Bind.bind, Except.bind]
  | ok auth =>
      cases Upstream.new cfg.controller cfg.server.upstreamTimeout with
      | error why => simp [Bind.bind, Except.bind]
      | ok upstream =>
          rcases live with ⟨liveAuth, liveUpstream, limits, rate, tokenCount⟩
          simp only [Bind.bind, Except.bind, Pure.pure, Except.pure, Except.ok.injEq,
            Live.mk.injEq]
          constructor
          · rintro ⟨rfl, rfl, rfl, rfl, rfl⟩
            exact ⟨rfl, rfl, rfl, rfl, rfl⟩
          · rintro ⟨rfl, rfl, rfl, rfl, rfl⟩
            exact ⟨rfl, rfl, rfl, rfl, rfl⟩

/-! ## What never changes in a `Live` -/

/-- The parts of a `Live` that are fixed when it is built. -/
structure Live.Same (live other : Live) : Prop where
  tokens : live.auth.tokens = other.auth.tokens
  upstream : live.upstream = other.upstream
  limits : live.limits = other.limits
  tokenCount : live.tokenCount = other.tokenCount

theorem Live.Same.refl (live : Live) : live.Same live := ⟨rfl, rfl, rfl, rfl⟩

theorem Live.Same.symm {live other : Live} (same : live.Same other) : other.Same live :=
  ⟨same.tokens.symm, same.upstream.symm, same.limits.symm, same.tokenCount.symm⟩

theorem Live.Same.trans {live other third : Live} (first : live.Same other)
    (second : other.Same third) : live.Same third :=
  ⟨first.tokens.trans second.tokens, first.upstream.trans second.upstream,
    first.limits.trans second.limits, first.tokenCount.trans second.tokenCount⟩

namespace AppState

@[simp] theorem lives_modify_self (state : AppState) (slot : Nat) (live : Live) :
    (state.modify slot live).lives slot = live := by
  simp [modify]

theorem lives_modify_ne (state : AppState) {slot other : Nat} (live : Live)
    (different : other ≠ slot) : (state.modify slot live).lives other = state.lives other := by
  simp [modify, different]

theorem same_modify (state : AppState) {slot : Nat} {live : Live}
    (same : live.Same (state.lives slot)) (other : Nat) :
    ((state.modify slot live).lives other).Same (state.lives other) := by
  by_cases own : other = slot
  · subst own
    simpa using same
  · rw [lives_modify_ne state live own]
    exact Live.Same.refl _

/-- No step of a request changes which `Live` is in force, or what one was
built from. -/
theorem exec_same (state : AppState) (effect : Effect) (outside : Outside) :
    (state.exec effect outside).2.current = state.current ∧
      ∀ slot, ((state.exec effect outside).2.lives slot).Same (state.lives slot) := by
  cases effect with
  | checkIp slot ip => exact ⟨rfl, state.same_modify ⟨rfl, rfl, rfl, rfl⟩⟩
  | cacheInsert slot key position => exact ⟨rfl, state.same_modify ⟨rfl, rfl, rfl, rfl⟩⟩
  | check slot token => exact ⟨rfl, state.same_modify ⟨rfl, rfl, rfl, rfl⟩⟩
  | _ => exact ⟨rfl, fun _ => Live.Same.refl _⟩

theorem configPath_exec (state : AppState) (effect : Effect) (outside : Outside) :
    (state.exec effect outside).2.configPath = state.configPath := by
  cases effect <;> rfl

/-- Two states with the same `Live` values, whatever was counted. -/
structure SameLives (state twin : AppState) : Prop where
  lives : state.lives = twin.lives
  current : state.current = twin.current
  configPath : state.configPath = twin.configPath

theorem SameLives.refl (state : AppState) : state.SameLives state := ⟨rfl, rfl, rfl⟩

theorem SameLives.symm {state twin : AppState} (same : state.SameLives twin) :
    twin.SameLives state :=
  ⟨same.lives.symm, same.current.symm, same.configPath.symm⟩

theorem SameLives.trans {state twin third : AppState} (first : state.SameLives twin)
    (second : twin.SameLives third) : state.SameLives third :=
  ⟨first.lives.trans second.lives, first.current.trans second.current,
    first.configPath.trans second.configPath⟩

/-- What was counted makes no difference to any step of a request. -/
theorem SameLives.exec {state twin : AppState} (same : state.SameLives twin) (effect : Effect)
    (outside : Outside) :
    (state.exec effect outside).1 = (twin.exec effect outside).1 ∧
      (state.exec effect outside).2.SameLives (twin.exec effect outside).2 := by
  rcases state with ⟨lives, current, metrics, path⟩
  rcases twin with ⟨twinLives, twinCurrent, twinMetrics, twinPath⟩
  rcases same with ⟨rfl, rfl, rfl⟩
  cases effect <;> exact ⟨rfl, rfl, rfl, rfl⟩

/-- Nor to a signal. -/
theorem SameLives.sighup {state twin : AppState} (same : state.SameLives twin)
    (found : Reload) : (state.sighup found).SameLives (twin.sighup found) := by
  rcases state with ⟨lives, current, metrics, path⟩
  rcases twin with ⟨twinLives, twinCurrent, twinMetrics, twinPath⟩
  rcases same with ⟨rfl, rfl, rfl⟩
  have loads : load ⟨lives, current, twinMetrics, path⟩ found =
      load ⟨lives, current, metrics, path⟩ found := rfl
  simp only [AppState.sighup, AppState.reload, loads]
  cases load ⟨lives, current, metrics, path⟩ found with
  | error why => exact ⟨rfl, rfl, rfl⟩
  | ok cfg =>
      simp only
      cases Live.build cfg with
      | error why => exact ⟨rfl, rfl, rfl⟩
      | ok live => exact ⟨rfl, rfl, rfl⟩

/-- What a signal does: nothing but a count, or put a fresh `Live` in force. -/
theorem sighup_cases (state : AppState) (found : Reload) :
    ((∀ cfg, state.load found = .ok cfg → ∀ live, Live.build cfg ≠ .ok live) ∧
      state.sighup found = state.recordMetrics fun metrics => metrics.recordReload false) ∨
    ∃ cfg live, state.load found = .ok cfg ∧ Live.build cfg = .ok live ∧
      state.sighup found =
        (state.store live).recordMetrics fun metrics => metrics.recordReload true := by
  cases loaded : state.load found with
  | error why =>
      refine .inl ⟨fun cfg same => (by cases same), ?_⟩
      simp only [sighup, reload, loaded]
      rfl
  | ok cfg =>
      cases built : Live.build cfg with
      | error why =>
          refine .inl ⟨?_, ?_⟩
          · intro other same live
            cases same
            rw [built]
            exact fun impossible => by cases impossible
          · simp only [sighup, reload, loaded, built]
            rfl
      | ok live =>
          refine .inr ⟨cfg, live, rfl, built, ?_⟩
          simp only [sighup, reload, loaded, built]
          rfl

/-- A signal leaves every `Live` there is as it was. -/
theorem lives_sighup (state : AppState) (found : Reload) {slot : Nat}
    (old : slot ≤ state.current) :
    (state.sighup found).lives slot = state.lives slot ∧
      state.current ≤ (state.sighup found).current := by
  rcases state.sighup_cases found with ⟨_, failed⟩ | ⟨cfg, live, _, _, stored⟩
  · rw [failed]
    exact ⟨rfl, le_rfl⟩
  · rw [stored]
    refine ⟨?_, Nat.le_succ _⟩
    have notNew : slot ≠ state.current + 1 := by omega
    simp [recordMetrics, store, notNew]

end AppState

/-! ## The server answers as expected -/

/-- Every cache of a `Live` that was ever in force is justified by what was
presented. -/
def CachesJustified (presented : Set String) (state : AppState) : Prop :=
  ∀ slot ≤ state.current,
    Authenticator.Justified presented (state.lives slot).auth.tokens
      (state.lives slot).auth.cache

/-- What an event says of every later state: a `Live` that was loaded is still
there, apart from its cache and limiters, and a position that the cache named is
the one found for some presented string. -/
structure Remembered (presented : Set String) (state : AppState)
    (event : Event Effect Answer) : Prop where
  loaded : ∀ guard : Guard, event = ⟨.live, guard⟩ →
    guard.slot ≤ state.current ∧ (state.lives guard.slot).Same guard.value
  cached : ∀ slot key position, event = ⟨.cacheGet slot key, some position⟩ →
    slot ≤ state.current ∧ ∃ text ∈ presented, text.isEmpty = false ∧
      Credentials.sha256 text = key ∧
      Authenticator.scan (state.lives slot).auth.tokens text = some position

theorem Remembered.mono {presented : Set String} {state later : AppState}
    {event : Event Effect Answer} (remembered : Remembered presented state event)
    (current : state.current ≤ later.current)
    (same : ∀ slot ≤ state.current, (later.lives slot).Same (state.lives slot)) :
    Remembered presented later event where
  loaded guard isLoad := by
    rcases remembered.loaded guard isLoad with ⟨old, fixed⟩
    exact ⟨old.trans current, (same guard.slot old).trans fixed⟩
  cached slot key position isLookup := by
    rcases remembered.cached slot key position isLookup with
      ⟨old, text, member, nonempty, digest, scanned⟩
    refine ⟨old.trans current, text, member, nonempty, digest, ?_⟩
    rw [(same slot old).tokens]
    exact scanned

/-- What all requests share of their disciplines: caches are only touched through
a `Live` that was loaded, and only found strings enter them. -/
def caching (presented : Set String) : Contract Effect Answer where
  permits history
    | .cacheGet slot _ => ∃ guard, Loaded history guard ∧ guard.slot = slot
    | .cacheInsert slot key position => Discipline.Insertable presented history slot key position
    | _ => True
  permits_mono := by
    intro history later effect within permitted
    cases effect with
    | cacheGet slot key =>
        rcases permitted with ⟨guard, loaded, same⟩
        exact ⟨guard, within loaded, same⟩
    | cacheInsert slot key position =>
        rcases permitted with ⟨guard, text, loaded, rest⟩
        exact ⟨guard, text, within loaded, rest⟩
    | _ => trivial

theorem keeps_caching {α : Type} {presented : Set String} {request : HttpRequest}
    {history : History} {program : Call α}
    (keeps : program.Keeps (discipline presented request) history) :
    program.Keeps (caching presented) history := by
  apply keeps.relax
  intro later effect _ permitted
  cases effect with
  | cacheGet slot key => exact permitted
  | cacheInsert slot key position => exact permitted
  | _ => trivial

theorem CachesJustified.recordMetrics {presented : Set String} {state : AppState}
    (justified : CachesJustified presented state) (record : Metrics → Metrics) :
    CachesJustified presented (state.recordMetrics record) := justified

theorem CachesJustified.modify {presented : Set String} {state : AppState} {slot : Nat}
    {live : Live} (justified : CachesJustified presented state)
    (updated : slot ≤ state.current →
      Authenticator.Justified presented live.auth.tokens live.auth.cache) :
    CachesJustified presented (state.modify slot live) := by
  intro other old
  by_cases own : other = slot
  · subst own
    simpa using updated old
  · rw [AppState.lives_modify_ne state live own]
    exact justified other old

theorem CachesJustified.sighup {presented : Set String} {state : AppState}
    (justified : CachesJustified presented state) (found : Reload) :
    CachesJustified presented (state.sighup found) := by
  intro slot within
  rcases state.sighup_cases found with ⟨_, failed⟩ | ⟨cfg, live, _, built, stored⟩
  · rw [failed] at within ⊢
    exact justified slot within
  · by_cases old : slot ≤ state.current
    · rw [(state.lives_sighup found old).1]
      exact justified slot old
    · have fresh : slot = state.current + 1 := by
        rw [stored] at within
        exact Nat.le_antisymm within (by omega)
      have created := (Live.build_eq_ok.mp built).1
      rw [stored, fresh]
      simp only [AppState.recordMetrics, AppState.store, Function.update_self]
      rw [Authenticator.cache_new created]
      exact Authenticator.justified_empty _ _

/-- The server keeps its caches justified. -/
theorem server_fulfils (presented : Set String) :
    Fulfils server (caching presented) (CachesJustified presented) (Remembered presented) where
  exec := by
    intro effect outside state history justified remembered permitted
    refine ⟨?_, ?_, ?_⟩
    · cases effect with
      | checkIp slot ip => exact justified.modify (justified slot)
      | check slot token => exact justified.modify (justified slot)
      | cacheInsert slot key position =>
          apply justified.modify
          intro old
          rcases permitted with ⟨guard, text, loaded, rfl, member, nonempty, rfl, scanned⟩
          rw [← ((remembered _ loaded).loaded guard rfl).2.tokens] at scanned
          exact (justified guard.slot old).insert member nonempty scanned
      | _ => exact justified
    · intro guard isLoad
      cases effect with
      | live =>
          cases isLoad
          exact ⟨le_rfl, Live.Same.refl _⟩
      | _ => cases isLoad
    · intro slot key position isLookup
      cases effect with
      | cacheGet own digest =>
          simp only [Event.mk.injEq, Effect.cacheGet.injEq] at isLookup
          rcases isLookup with ⟨⟨rfl, rfl⟩, found⟩
          rcases permitted with ⟨guard, loaded, rfl⟩
          have old := ((remembered _ loaded).loaded guard rfl).1
          exact ⟨old, justified guard.slot old digest position (eq_of_heq found)⟩
      | _ => cases isLookup
  kept := by
    intro effect outside state event _ remembered
    rcases state.exec_same effect outside with ⟨current, same⟩
    exact remembered.mono current.ge fun slot _ => same slot
  move := fun found _ justified => justified.sighup found
  keptByMove := by
    intro found state event _ remembered
    refine remembered.mono (state.lives_sighup found le_rfl).2 fun slot old => ?_
    change ((state.sighup found).lives slot).Same (state.lives slot)
    rw [(state.lives_sighup found old).1]
    exact Live.Same.refl _

/-- Without collisions among the presented strings, what was found is what a scan
finds. -/
theorem Found.eq_recognise {presented : Set String} {state : AppState} {history : History}
    {guard : Guard} {text : String} {found : Option TokenConfig}
    (held : Found history guard text found)
    (collisionFree : Set.InjOn Credentials.sha256 presented) (member : text ∈ presented)
    (remembered : ∀ event ∈ history, Remembered presented state event)
    (loaded : Loaded history guard) :
    found = Authenticator.recognise guard.value.auth.tokens text := by
  rcases held with scanned | ⟨position, cached, rfl⟩
  · exact scanned
  · rcases (remembered _ cached).cached _ _ _ rfl with
      ⟨-, other, otherMember, nonempty, digest, scanned⟩
    rw [collisionFree otherMember member digest] at scanned nonempty
    rw [((remembered _ loaded).loaded guard rfl).2.tokens] at scanned
    have entry := Authenticator.scan_bind_entry guard.value.auth.tokens nonempty
    rw [scanned] at entry
    exact entry

/-- Whatever was found for the token of the request is what a scan finds. -/
def Genuine (request : HttpRequest) (history : History) : Prop :=
  ∀ guard presented found, Loaded history guard →
    tokenFromHeaders request.headers = some presented → Found history guard presented found →
    found = Authenticator.recognise guard.value.auth.tokens presented

/-! ## Runs -/

theorem AppState.withPath_eq_ok {cfg : Config} {path : Option String} {state : AppState}
    (started : AppState.withPath cfg path = .ok state) :
    ∃ live, Live.build cfg = .ok live ∧ state.current = 0 ∧ state.lives 0 = live ∧
      state.configPath = path := by
  unfold AppState.withPath at started
  cases built : Live.build cfg with
  | error why => simp [built, Bind.bind, Except.bind] at started
  | ok live =>
      simp only [built, Bind.bind, Except.bind, Pure.pure, Except.pure,
        Except.ok.injEq] at started
      subst started
      exact ⟨live, rfl, rfl, rfl, rfl⟩

theorem cachesJustified_withPath {presented : Set String} {cfg : Config}
    {path : Option String} {state : AppState}
    (started : AppState.withPath cfg path = .ok state) : CachesJustified presented state := by
  rcases AppState.withPath_eq_ok started with ⟨live, built, current, lives, _⟩
  intro slot within
  rw [current, Nat.le_zero] at within
  rw [within, lives, Authenticator.cache_new (Live.build_eq_ok.mp built).1]
  exact Authenticator.justified_empty _ _

variable [Framework] [GraphQlEngine]

/-- One step of the whole system: a request arrives, one of the requests does
its next step, or the process is told to reload. -/
inductive Step
  | arrive (schedule : List Nat) (request : HttpRequest)
  | advance (index : Nat) (outside : Outside)
  | reload (found : Reload)

namespace Step

def turn (settings : RouterSettings) : Step → Turn Effect Answer Outside Reload Response
  | .arrive schedule request => .spawn (Routes.serve settings schedule request)
  | .advance index outside => .advance index outside
  | .reload found => .move found

/-- The requests in the order they arrive. -/
def requests (steps : List Step) : List (List Nat × HttpRequest) :=
  steps.filterMap fun
    | .arrive schedule request => some (schedule, request)
    | _ => none

/-- Every string presented as a token in the course of the run. -/
def presented (steps : List Step) : Set String :=
  { text | ∃ arrival ∈ requests steps, tokenFromHeaders arrival.2.headers = some text }

abbrev System := Pool Effect Answer AppState Reload Response

def run (settings : RouterSettings) (state : AppState) (steps : List Step) : System :=
  Pool.run server (Pool.start state) (steps.map (turn settings))

/-- What the request that arrived as number `index` did in the course of the run. -/
abbrev history (settings : RouterSettings) (state : AppState) (steps : List Step)
    (index : Nat) : History :=
  Pool.eventsOf index (run settings state steps).log

omit [Crates] [Framework] [GraphQlEngine] in
theorem mem_requests {steps : List Step} {schedule : List Nat} {request : HttpRequest}
    (member : .arrive schedule request ∈ steps) : (schedule, request) ∈ requests steps :=
  List.mem_filterMap.mpr ⟨_, member, rfl⟩

theorem filterMap_spawned? (settings : RouterSettings) (steps : List Step) :
    (steps.map (turn settings)).filterMap Pool.spawned? =
      (requests steps).map fun arrival => Routes.serve settings arrival.1 arrival.2 := by
  induction steps with
  | nil => rfl
  | cons step steps induction =>
      cases step with
      | arrive schedule request => exact congrArg (_ :: ·) induction
      | advance index outside => exact induction
      | reload found => exact induction

/-- The thread of an index serves the request that arrived as number `index`. -/
theorem thread_of_request (settings : RouterSettings) (state : AppState) {steps : List Step}
    {index : Nat} {schedule : List Nat} {request : HttpRequest}
    (arrived : (requests steps)[index]? = some (schedule, request)) :
    ∃ rest, (run settings state steps).threads[index]? =
      some ⟨Routes.serve settings schedule request, rest⟩ := by
  apply Pool.thread_of_spawned
  rw [filterMap_spawned?, List.getElem?_map, arrived]
  rfl

theorem events_trace (settings : RouterSettings) (state : AppState) {steps : List Step}
    {index : Nat} {schedule : List Nat} {request : HttpRequest}
    (arrived : (requests steps)[index]? = some (schedule, request)) :
    ∃ rest, (Routes.serve settings schedule request).Trace (history settings state steps index)
      rest := by
  rcases thread_of_request settings state arrived with ⟨rest, found⟩
  exact ⟨rest, (Pool.run_follows state (steps.map (turn settings))).1 index _ found⟩

/-- What a request was answered with, once it has run to its end. -/
def answer? (settings : RouterSettings) (state : AppState) (steps : List Step) (index : Nat) :
    Option Response :=
  (run settings state steps).threads[index]?.bind fun thread => thread.rest.value?

theorem finished_trace {settings : RouterSettings} {state : AppState} {steps : List Step}
    {index : Nat} {schedule : List Nat} {request : HttpRequest} {response : Response}
    (arrived : (requests steps)[index]? = some (schedule, request))
    (answered : answer? settings state steps index = some response) :
    (Routes.serve settings schedule request).Trace (history settings state steps index)
      (.pure response) := by
  rcases thread_of_request settings state arrived with ⟨rest, found⟩
  have trace := (Pool.run_follows state (steps.map (turn settings))).1 index _ found
  simp only [answer?, found, Option.bind_some] at answered
  cases rest with
  | pure value =>
      rcases Option.some.inj answered with rfl
      exact trace
  | perform effect next => cases answered

/-- A load in the history of a request has its place in the log of the run. -/
theorem place_of_loaded {settings : RouterSettings} {state : AppState} {steps : List Step}
    {index : Nat} {guard : Guard} (loaded : Loaded (history settings state steps index) guard) :
    ∃ early late, (run settings state steps).log =
      early ++ .event index ⟨.live, guard⟩ :: late :=
  List.append_of_mem (Pool.mem_eventsOf.mp loaded)

theorem run_sound (settings : RouterSettings) {state : AppState} {steps : List Step}
    (justified : CachesJustified (presented steps) state) :
    Pool.Sound (caching (presented steps)) (CachesJustified (presented steps))
      (Remembered (presented steps)) (run settings state steps) := by
  apply Pool.run_sound (server_fulfils _) justified
  intro move member
  rcases List.mem_map.mp member with ⟨step, present, rfl⟩
  cases step with
  | arrive schedule request =>
      apply keeps_caching
      apply Discipline.of_guarded (Guarded.serve settings schedule)
      exact fun text found => ⟨_, mem_requests present, found⟩
  | advance index outside => trivial
  | reload found => trivial

/-- In every run, whatever the interleaving and the reloads, every request
keeps its discipline. -/
theorem run_disciplined (settings : RouterSettings) (state : AppState) {steps : List Step}
    {index : Nat} {schedule : List Nat} {request : HttpRequest}
    (arrived : (requests steps)[index]? = some (schedule, request)) :
    (discipline (presented steps) request).Honoured (history settings state steps index) := by
  rcases events_trace settings state arrived with ⟨rest, trace⟩
  have keeps : (Routes.serve settings schedule request).Keeps
      (discipline (presented steps) request) [] :=
    Discipline.of_guarded (Guarded.serve settings schedule) fun text found =>
      ⟨_, List.mem_of_getElem? arrived, found⟩
  intro before event after same
  exact (keeps.along trace).2 before event after same

/-- In every run from a fresh start, whatever was found is what a scan finds, as
long as the presented strings have digests of their own. -/
theorem run_genuine (settings : RouterSettings) {cfg : Config} {path : Option String}
    {state : AppState} (started : AppState.withPath cfg path = .ok state) {steps : List Step}
    (collisionFree : Set.InjOn Credentials.sha256 (presented steps)) {index : Nat}
    {schedule : List Nat} {request : HttpRequest}
    (arrived : (requests steps)[index]? = some (schedule, request)) {before : History}
    (within : before ⊆ history settings state steps index) : Genuine request before := by
  have justified : CachesJustified (presented steps) state := cachesJustified_withPath started
  have remembered : ∀ event ∈ before,
      Remembered (presented steps) (run settings state steps).state event :=
    fun event member => (run_sound settings justified).recorded index event (within member)
  intro guard text found loaded header held
  exact held.eq_recognise collisionFree ⟨_, List.mem_of_getElem? arrived, header⟩ remembered
    loaded

end Step

end VoucherProxy
