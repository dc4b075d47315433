import VoucherProxy.Completion
import VoucherProxy.Foundation.Totals
import VoucherProxy.Snapshots

namespace VoucherProxy

/-! What the counters come to: over a whole run, each of them adds up the events
that feed it. -/

variable [Crates]

/-! ## The counters of a log -/

/-- A measured call to the controller. -/
def measures : Event Effect Answer → Nat
  | ⟨.recordUpstream _, _⟩ => 1
  | _ => 0

/-- A call to the controller, answered or not. -/
def attempts : Event Effect Answer → Nat
  | ⟨.send _ _, _⟩ => 1
  | _ => 0

/-- The vouchers recorded as issued under a name. -/
def issues (name : String) : Event Effect Answer → Nat
  | ⟨.recordVouchersCreated token count, _⟩ => if name = token then count.toNat else 0
  | _ => 0

/-! ### Steps that feed no counter -/

def Effect.feeds : Effect → Bool
  | .recordRequest _ _ _ => true
  | .recordUpstream _ => true
  | .recordVouchersCreated _ _ => true
  | _ => false

def Feedless (events : History) : Prop := ∀ event ∈ events, event.effect.feeds = false

theorem Feedless.append {early late : History} (first : Feedless early) (second : Feedless late) :
    Feedless (early ++ late) :=
  fun event member => (List.mem_append.mp member).elim (first event) (second event)

theorem Feedless.unmeasured {events : History} (feedless : Feedless events) :
    total measures events = 0 := by
  apply total_eq_zero
  rintro ⟨effect, answer⟩ member
  cases effect with
  | recordUpstream elapsed => cases feedless _ member
  | _ => rfl

theorem Feedless.unissued {events : History} (feedless : Feedless events) (name : String) :
    total (issues name) events = 0 := by
  apply total_eq_zero
  rintro ⟨effect, answer⟩ member
  cases effect with
  | recordVouchersCreated token count => cases feedless _ member
  | _ => rfl

theorem Anonymous.feedless {events : History} (anonymous : Anonymous events) :
    Feedless events := by
  intro event member
  rcases anonymous event member with ⟨action, reason, status, same⟩
  rw [same]
  rfl

theorem Extracting.feedless {events : History} (extracting : Extracting events) :
    Feedless events := by
  rintro ⟨effect, answer⟩ member
  cases effect with
  | recordRequest token action outcome => cases extracting _ member
  | recordUpstream elapsed => cases extracting _ member
  | recordVouchersCreated token count => cases extracting _ member
  | _ => rfl

section

variable {α : Type} {operation : Operation α} {caller : Caller} {guard : Guard}

theorem Admitting.feedless {events : History} {result : Except ProxyError Unit}
    (admitting : Admitting operation caller guard events result) : Feedless events := by
  cases admitting <;> simp [Feedless, Effect.feeds]

theorem Calling.feedless {plan : Plan} {events : History} {read : Except ProxyError Json}
    (calling : Calling guard plan events read) : Feedless events := by
  cases calling <;> simp [Feedless, Effect.feeds]

/-- Before `finish` an operation feeds no counter. -/
theorem Ran.feedless {events : History} {outcome : Outcome α}
    (ran : Ran operation caller guard events outcome) : Feedless events := by
  cases ran with
  | barred barred => exact barred.feedless
  | unplanned admitted _ => exact admitted.feedless
  | called admitted _ calling up now =>
      have timed : ∀ reading : Nat, Feedless [⟨.instant, reading⟩] := by
        intro reading
        simp [Feedless, Effect.feeds]
      exact admitted.feedless.append ((timed up).append (calling.feedless.append (timed now)))

end

/-! ### What a log says of the counters -/

def key? : Event Effect Answer → Option RequestKey
  | ⟨.recordRequest token action outcome, _⟩ => some (requestKey token action outcome)
  | _ => none

/-- The keys of the request counters that a log increments, in order. -/
def keysOf (log : Log) : List RequestKey := Pool.selected key? log

theorem keysOf_append (early late : Log) :
    keysOf (early ++ late) = keysOf early ++ keysOf late :=
  Pool.selected_append key? early late

theorem AppState.metrics_withPath {cfg : Config} {path : Option String} {state : AppState}
    (started : AppState.withPath cfg path = .ok state) : state.metrics = {} := by
  rcases bind_eq_ok.mp started with ⟨live, -, made⟩
  rcases Except.ok.inj made with rfl
  rfl

/-- What the counters say is what the log says. -/
structure Tallied (metrics : Metrics) (log : Log) : Prop where
  requests : metrics.requests = tally (keysOf log)
  upstreamCalls : metrics.upstreamCalls = UInt64.ofNat (Pool.logged measures log)
  vouchersCreated : ∀ name, (metrics.vouchersCreated.lookup name).getD 0 =
    UInt64.ofNat (Pool.logged (issues name) log)

namespace Tallied

variable {metrics : Metrics} {log : Log}

/-- An entry that feeds no counter. -/
theorem silent (tallied : Tallied metrics log) {last : Occurrence Effect Answer Reload}
    (uncounted : keysOf [last] = []) (unmeasured : Pool.logged measures [last] = 0)
    (unissued : ∀ name, Pool.logged (issues name) [last] = 0) : Tallied metrics (log ++ [last]) := by
  refine ⟨?_, ?_, ?_⟩
  · rw [keysOf_append, uncounted, List.append_nil]
    exact tallied.requests
  · rw [Pool.logged_append, unmeasured]
    exact tallied.upstreamCalls
  · intro name
    rw [Pool.logged_append, unissued]
    exact tallied.vouchersCreated name

theorem event {state : AppState} (tallied : Tallied state.metrics log) (thread : Nat)
    (effect : Effect) (outside : Outside) :
    Tallied (state.exec effect outside).2.metrics
      (log ++ [.event thread ⟨effect, (state.exec effect outside).1⟩]) := by
  cases effect with
  | recordRequest token action outcome =>
      refine ⟨?_, ?_, ?_⟩
      · have grown := tally_append_singleton (keysOf log) (requestKey token action outcome)
        rw [← tallied.requests] at grown
        rw [keysOf_append]
        exact grown.symm
      · rw [Pool.logged_append, Pool.logged_event]
        exact tallied.upstreamCalls
      · intro name
        rw [Pool.logged_append, Pool.logged_event]
        exact tallied.vouchersCreated name
  | recordUpstream elapsed =>
      refine ⟨?_, ?_, ?_⟩
      · rw [keysOf_append]
        exact (List.append_nil _).symm ▸ tallied.requests
      · rw [Pool.logged_append, Pool.logged_event, UInt64.ofNat_add, ← tallied.upstreamCalls]
        rfl
      · intro name
        rw [Pool.logged_append, Pool.logged_event]
        exact tallied.vouchersCreated name
  | recordVouchersCreated token count =>
      refine ⟨?_, ?_, ?_⟩
      · rw [keysOf_append]
        exact (List.append_nil _).symm ▸ tallied.requests
      · rw [Pool.logged_append, Pool.logged_event]
        exact tallied.upstreamCalls
      · intro name
        have grown := lookup_addTo token name count.toUInt64 state.metrics.vouchersCreated
        rw [tallied.vouchersCreated name] at grown
        rw [Pool.logged_append, Pool.logged_event, UInt64.ofNat_add]
        apply grown.trans
        congr 1
        by_cases own : name = token <;> simp [issues, own]
  | _ => exact tallied.silent rfl rfl fun _ => rfl

theorem sighup {state : AppState} (tallied : Tallied state.metrics log) (found : Reload) :
    Tallied (state.sighup found).metrics (log ++ [.move found]) := by
  have moved : Tallied state.metrics (log ++ [.move found]) :=
    tallied.silent rfl rfl fun _ => rfl
  rcases state.sighup_cases found with ⟨-, same⟩ | ⟨cfg, live, -, -, same⟩
  · rw [same]
    exact ⟨moved.requests, moved.upstreamCalls, moved.vouchersCreated⟩
  · rw [same]
    exact ⟨moved.requests, moved.upstreamCalls, moved.vouchersCreated⟩

/-- In every run from a fresh start. -/
theorem run {α : Type} {cfg : Config} {path : Option String} {state : AppState}
    (started : AppState.withPath cfg path = .ok state)
    (turns : List (Turn Effect Answer Outside Reload α)) :
    Tallied (Pool.run server (Pool.start state) turns).state.metrics
      (Pool.run server (Pool.start state) turns).log := by
  have keeps : ∀ (pool : Pool Effect Answer AppState Reload α)
      (move : Turn Effect Answer Outside Reload α), True →
      Tallied pool.state.metrics pool.log →
      Tallied (Pool.turn server pool move).state.metrics (Pool.turn server pool move).log := by
    intro pool move _ tallied
    rcases Pool.turn_cases server pool move with same | ⟨program, -, spawned⟩ |
      ⟨thread, outside, first, effect, next, -, -, advanced⟩ | ⟨found, -, moved⟩
    · rw [same]
      exact tallied
    · rw [spawned]
      exact tallied
    · rw [advanced]
      exact tallied.event thread effect outside
    · rw [moved]
      exact tallied.sighup found
  apply Pool.run_induction keeps _ fun _ _ => trivial
  rw [Pool.start, AppState.metrics_withPath started]
  exact ⟨rfl, rfl, fun _ => rfl⟩

end Tallied

/-! ## Whose request it was -/

/-- Extraction of the request ended with this caller. -/
def Carries (request : HttpRequest) (events : History) (caller : Caller) : Prop :=
  ∃ extraction later, events = extraction ++ later ∧
    (Caller.fromRequestParts request).Trace extraction (.pure (.ok caller))

open Classical in
/-- The caller of the request, if extraction ended with one. -/
noncomputable def bearer? (request : HttpRequest) (events : History) : Option Caller :=
  if carries : ∃ caller, Carries request events caller then some carries.choose else none

theorem bearer?_of_extracted {request : HttpRequest} {extraction : History} {caller : Caller}
    (extracted : (Caller.fromRequestParts request).Trace extraction (.pure (.ok caller)))
    (later : History) : bearer? request (extraction ++ later) = some caller := by
  have carries : ∃ caller, Carries request (extraction ++ later) caller :=
    ⟨caller, extraction, later, rfl, extracted⟩
  rcases carries.choose_spec with ⟨early, late, same, chosen⟩
  rw [bearer?, dif_pos carries, Option.some.injEq]
  exact Except.ok.inj (chosen.unique extracted same.symm).2

/-! ## Runs of completed requests -/

variable [Framework] [GraphQlEngine]

namespace Step

/-- Every request that arrived has been answered. -/
def Completed (settings : RouterSettings) (state : AppState) (steps : List Step) : Prop :=
  ∀ index < (requests steps).length, ∃ response, answer? settings state steps index = some response

variable {settings : RouterSettings} {state : AppState} {steps : List Step}

theorem Completed.concluded (completed : Completed settings state steps) {index : Nat}
    {schedule : List Nat} {request : HttpRequest}
    (arrived : (requests steps)[index]? = some (schedule, request)) :
    Concluded settings schedule request (history settings state steps index) := by
  rcases completed index (List.getElem?_eq_some_iff.mp arrived).1 with ⟨response, answered⟩
  exact .of_trace (finished_trace arrived answered)

theorem completed_of_single (single : (requests steps).length = 1)
    (answered : (answer? settings state steps 0).isSome = true) :
    Completed settings state steps := by
  intro index within
  rw [single, Nat.lt_one_iff] at within
  subst within
  exact Option.isSome_iff_exists.mp answered

theorem length_threads (settings : RouterSettings) (state : AppState) (steps : List Step) :
    (run settings state steps).threads.length = (requests steps).length := by
  have programs := congrArg List.length
    (Pool.run_started server (Pool.start state) (steps.map (turn settings)))
  rw [filterMap_spawned?, List.length_map, List.length_append, List.length_map,
    List.length_map] at programs
  exact programs.trans (Nat.zero_add _)

/-- The caller of the request that arrived as number `index`. -/
noncomputable def bearer? (settings : RouterSettings) (state : AppState) (steps : List Step)
    (index : Nat) : Option Caller :=
  (requests steps)[index]?.bind fun arrival =>
    VoucherProxy.bearer? arrival.2 (history settings state steps index)

theorem tallied (settings : RouterSettings) {cfg : Config} {path : Option String}
    (started : AppState.withPath cfg path = .ok state) (steps : List Step) :
    Tallied (run settings state steps).state.metrics (run settings state steps).log :=
  .run started (steps.map (turn settings))

/-- Whatever is added up over a run is added up request by request. -/
theorem logged_eq_sum {M : Type} [AddCommMonoid M] (weight : Event Effect Answer → M)
    (settings : RouterSettings) (state : AppState) (steps : List Step) :
    Pool.logged weight (run settings state steps).log =
      ∑ index ∈ Finset.range (requests steps).length,
        total weight (history settings state steps index) := by
  apply Pool.logged_eq_sum
  intro index beyond
  rw [← length_threads settings state steps] at beyond
  exact (Pool.run_follows state (steps.map (turn settings))).2 index beyond

omit [Crates] [Framework] [GraphQlEngine] in
theorem arrived_of_mem_range {index : Nat}
    (member : index ∈ Finset.range (requests steps).length) :
    ∃ schedule request, (requests steps)[index]? = some (schedule, request) :=
  ⟨_, _, List.getElem?_eq_getElem (Finset.mem_range.mp member)⟩

end Step

end VoucherProxy
