import VoucherProxy.Counting
import VoucherProxy.Failures
import VoucherProxy.Sample

namespace VoucherProxy

/-! Clients cannot grow the metrics: the keys of the request counters are made of the
configured names and of the program's own words. -/

/-! ## The words -/

def refusalTags : List String :=
  ["ip_rate_limited", "missing_token", "unknown_token", "token_expired"]

def handlerTags : List String :=
  ["ok", "graphql_errors", "forbidden", "bad_request", "rate_limited", "upstream_error",
    "upstream_unreachable"]

def handlerActions : List String :=
  ["info", "graphql:schema", "graphql", "sites:list", "vouchers:list", "vouchers:create",
    "vouchers:revoke"]

/-- The patterns under which routes are registered, and what stands for no route. -/
def routeLabels : List String :=
  ["/healthz", "/proxy/info", "/graphql/schema", "/graphql",
    "/proxy/network/integration/v1/sites",
    "/proxy/network/integration/v1/sites/{site}/hotspot/vouchers",
    "/proxy/network/integration/v1/sites/{site}/hotspot/vouchers/{voucher}", "unmatched"]

/-- The names that a configuration brings into the counters. -/
def tokenNames (configs : List Config) : List String :=
  "-" :: configs.flatMap fun cfg => cfg.tokens.map TokenConfig.name

/-- A key made of known words only. -/
def Worded (names : List String) (key : RequestKey) : Prop :=
  ∃ token ∈ names, ∃ action ∈ handlerActions ++ routeLabels,
    ∃ outcome ∈ refusalTags ++ handlerTags, key = requestKey token action outcome

/-- As many keys as the words allow. -/
def keyBound (names : List String) : Nat :=
  names.length * (handlerActions ++ routeLabels).length * (refusalTags ++ handlerTags).length

theorem length_le_keyBound {names : List String} {keys : List RequestKey} (distinct : keys.Nodup)
    (worded : ∀ key ∈ keys, Worded names key) : keys.length ≤ keyBound names := by
  let words := names ×ˢ (handlerActions ++ routeLabels) ×ˢ (refusalTags ++ handlerTags)
  have within : keys ⊆ words.map fun word => requestKey word.1 word.2.1 word.2.2 := by
    intro key member
    rcases worded key member with ⟨token, named, action, acts, outcome, ends, rfl⟩
    have isWord : (token, action, outcome) ∈ words :=
      List.mem_product.mpr ⟨named, List.mem_product.mpr ⟨acts, ends⟩⟩
    exact List.mem_map.mpr ⟨_, isWord, rfl⟩
  calc keys.length ≤ (words.map fun word => requestKey word.1 word.2.1 word.2.2).length :=
        (distinct.subperm within).length_le
    _ = keyBound names := by
        rw [List.length_map, List.length_product, List.length_product, keyBound, Nat.mul_assoc]

theorem matchedRoute_mem (request : HttpRequest) : matchedRoute request ∈ routeLabels := by
  unfold matchedRoute
  cases Route.ofPath request.path with
  | none => decide
  | some route => cases route <;> simp [Route.pattern, routeLabels]

/-- What a request is recorded as, from its route, its method and its outcome. -/
def actionOf (request : HttpRequest) (outcome : String) : String :=
  if outcome ∈ refusalTags then matchedRoute request else handledAs request

/-- Nothing of a path but its route matters. -/
theorem handledAs_eq {request other : HttpRequest} (method : request.method = other.method)
    (route : matchedRoute request = matchedRoute other) : handledAs request = handledAs other := by
  have named : ∀ own : HttpRequest, handledAs own =
      match matchedRoute own with
      | "/proxy/info" => "info"
      | "/graphql/schema" => "graphql:schema"
      | "/graphql" => "graphql"
      | "/proxy/network/integration/v1/sites" => "sites:list"
      | "/proxy/network/integration/v1/sites/{site}/hotspot/vouchers" =>
          if own.method = "POST" then "vouchers:create" else "vouchers:list"
      | "/proxy/network/integration/v1/sites/{site}/hotspot/vouchers/{voucher}" => "vouchers:revoke"
      | _ => "-" := by
    intro own
    unfold handledAs matchedRoute
    cases Route.ofPath own.path with
    | none => rfl
    | some route => cases route <;> rfl
  rw [named, named, route, method]

theorem actionOf_eq {request other : HttpRequest} (method : request.method = other.method)
    (route : matchedRoute request = matchedRoute other) (outcome : String) :
    actionOf request outcome = actionOf other outcome := by
  rw [actionOf, actionOf, route, handledAs_eq method route]

/-! ## The labels of one request -/

section

variable [Crates]

/-- A label made of the names of a `Live` and of words for this request. -/
structure Labelled (request : HttpRequest) (guard : Guard) (label : String × String × String) :
    Prop where
  name : label.1 = "-" ∨ label.1 ∈ (guard.value.auth.tokens.map Prod.fst).map TokenConfig.name
  action : label.2.1 = actionOf request label.2.2
  known : label.2.1 ∈ handlerActions ++ routeLabels
  tag : label.2.2 ∈ refusalTags ++ handlerTags

variable {request : HttpRequest} {guard : Guard}

theorem Labelled.of_refused {token reason : String}
    (named : token = "-" ∨ token ∈ (guard.value.auth.tokens.map Prod.fst).map TokenConfig.name)
    (refuses : reason ∈ refusalTags) :
    Labelled request guard (token, matchedRoute request, reason) where
  name := named
  action := (if_pos refuses).symm
  known := List.mem_append_right _ (matchedRoute_mem request)
  tag := List.mem_append_left _ refuses

theorem Labelled.of_refusal {token reason : String} {why : ProxyError}
    (refusal : Refusal guard token reason why) :
    Labelled request guard (token, matchedRoute request, reason) := by
  cases refusal with
  | missing => exact .of_refused (.inl rfl) (by decide)
  | unknown => exact .of_refused (.inl rfl) (by decide)
  | expired known _ => exact .of_refused (.inr (List.mem_map_of_mem known)) (by decide)

theorem Labelled.of_handled {caller : Caller} {tag : String}
    (own : caller.token ∈ guard.value.auth.tokens.map Prod.fst)
    (handles : handledAs request ∈ handlerActions) (isTag : tag ∈ handlerTags) :
    Labelled request guard (caller.name, handledAs request, tag) where
  name := .inr (List.mem_map_of_mem own)
  action := by
    have other : ∀ tag ∈ handlerTags, tag ∉ refusalTags := by decide
    exact (if_neg (other tag isTag)).symm
  known := List.mem_append_left _ handles
  tag := List.mem_append_right _ isTag

theorem Anonymous.uncounted {events : History} (anonymous : Anonymous events) :
    counts events = [] := by
  apply List.filterMap_eq_nil_iff.mpr
  rintro ⟨effect, answer⟩ member
  rcases anonymous _ member with ⟨action, reason, status, rfl⟩
  rfl

theorem Extraction.labelled {events : History} {why : ProxyError}
    (extraction : Extraction request events (.error why)) :
    ∃ guard later, events = ⟨.live, guard⟩ :: later ∧
      ∀ label ∈ counts events, Labelled request guard label := by
  cases extraction with
  | @limited guard ip =>
      refine ⟨guard, _, rfl, fun label member => ?_⟩
      rcases List.mem_singleton.mp member with rfl
      exact .of_refused (.inl rfl) (by decide)
  | @refused guard steps token reason why extracting refusal =>
      refine ⟨guard, _, rfl, fun label member => ?_⟩
      have counted : counts (steps ++ refusing request token reason why) =
          [(token, matchedRoute request, reason)] := by
        rw [counts_append, extracting.silent.2.2.2]
        rfl
      have member : label ∈ counts (steps ++ refusing request token reason why) := member
      rw [counted] at member
      rcases List.mem_singleton.mp member with rfl
      exact .of_refusal refusal

def keyOf (label : String × String × String) : RequestKey := requestKey label.1 label.2.1 label.2.2

/-- Who was counted, and with which outcome. -/
def outcomesOf (events : History) : List (String × String) :=
  (counts events).map fun label => (label.1, label.2.2)

theorem filterMap_key? (events : History) :
    events.filterMap key? = (counts events).map keyOf := by
  rw [counts, List.map_filterMap]
  congr 1
  funext event
  rcases event with ⟨effect, answer⟩
  cases effect <;> rfl

variable [Framework] [GraphQlEngine]

/-- All that a request is ever counted under was known when its extraction began. -/
theorem Concluded.labelled {settings : RouterSettings} {turns : List Nat} {events : History}
    (concluded : Concluded settings turns request events) :
    counts events = [] ∨ ∃ guard later, events = ⟨.live, guard⟩ :: later ∧
      ∀ label ∈ counts events, Labelled request guard label := by
  have owned : ∀ {extraction later : History} {caller : Caller} {tag : String},
      (Caller.fromRequestParts request).Trace extraction (.pure (.ok caller)) →
      counts later = [(caller.name, handledAs request, tag)] →
      handledAs request ∈ handlerActions → tag ∈ handlerTags →
      ∃ guard rest, extraction ++ later = ⟨.live, guard⟩ :: rest ∧
        ∀ label ∈ counts (extraction ++ later), Labelled request guard label := by
    intro extraction later caller tag extracted counted handles isTag
    have extraction := extraction_of_trace extracted
    have uncounted := extraction.unrecorded.2
    cases extraction with
    | @admitted guard steps _ extracting own =>
        refine ⟨guard, steps ++ later, rfl, fun label member => ?_⟩
        rw [counts_append, uncounted, counted] at member
        rcases List.mem_singleton.mp member with rfl
        exact .of_handled own handles isTag
  cases concluded with
  | anonymous anonymous => exact .inl anonymous.uncounted
  | refused extracted => exact .inr (extraction_of_trace extracted).labelled
  | rejected extracted => exact .inl (extraction_of_trace extracted).unrecorded.2
  | plain extracted handles =>
      refine .inr (owned extracted rfl ?_ (by decide))
      rcases List.mem_cons.mp handles with isInfo | isSchema
      · simp [isInfo, handlerActions]
      · simp [List.mem_singleton.mp isSchema, handlerActions]
  | @document extraction executed caller document response extracted handles reads executes
      started now =>
      have counted : counts (documented caller document started now executed response) =
          [(caller.name, handledAs request, if response.isOk then "ok" else "graphql_errors")] := by
        rw [documented, counts_append, counts_append,
          (GraphQl.executed_of_trace executes).unrecorded.1, handles]
        rfl
      refine .inr (owned extracted counted (by simp [handles, handlerActions]) ?_)
      split <;> decide
  | @handled endpoint extraction later caller operation result asks extracted takes handles =>
      have handled := handled_of_trace handles
      have tag := handled.tag_mem (Endpoint.operation_sanctioned takes) (Endpoint.plan_fails takes)
      rcases handled.recorded with ⟨count, elapsed, -, counted⟩
      have action := Endpoint.action_eq asks
      rw [(Endpoint.operation_eq_ok takes).1, action] at counted
      have isTag : ∀ own ∈ ["ok", "forbidden", "bad_request", "rate_limited", "upstream_error",
          "upstream_unreachable"], own ∈ handlerTags := by
        decide
      refine .inr (owned extracted counted ?_ (isTag _ tag))
      rw [← action]
      cases endpoint <;> simp [Endpoint.action, handlerActions]

/-! ## Whole runs -/

namespace Step

variable {settings : RouterSettings} {state : AppState} {steps : List Step}

/-- A request that has not finished is counted as it will be. -/
theorem labelled_of_history {index : Nat} {schedule : List Nat} {request : HttpRequest}
    (arrived : (requests steps)[index]? = some (schedule, request))
    {label : String × String × String} (member : label ∈ counts (history settings state steps index)) :
    ∃ guard, Loaded (history settings state steps index) guard ∧ Labelled request guard label := by
  rcases events_trace settings state arrived with ⟨rest, trace⟩
  rcases Program.exists_finished nonempty_answer rest with ⟨later, response, finished⟩
  have whole : label ∈ counts (history settings state steps index ++ later) := by
    rw [counts_append]
    exact List.mem_append_left _ member
  rcases (Concluded.of_trace (trace.append finished)).labelled with none |
    ⟨guard, after, opens, labelled⟩
  · rw [none] at whole
    cases whole
  · refine ⟨guard, ?_, labelled label whole⟩
    cases same : history settings state steps index with
    | nil =>
        rw [same] at member
        cases member
    | cons first others =>
        rw [same, List.cons_append, List.cons.injEq] at opens
        rw [opens.1]
        exact List.mem_cons_self

/-- Two runs with requests of the same methods on the same routes, counted for the
same names with the same outcomes. -/
structure SameTraffic (settings twinSettings : RouterSettings) (state twin : AppState)
    (steps twinSteps : List Step) : Prop where
  length : (requests steps).length = (requests twinSteps).length
  alike : ∀ (index : Nat) (schedule : List Nat) (request : HttpRequest)
    (twinSchedule : List Nat) (twinRequest : HttpRequest),
    (requests steps)[index]? = some (schedule, request) →
    (requests twinSteps)[index]? = some (twinSchedule, twinRequest) →
    request.method = twinRequest.method ∧ matchedRoute request = matchedRoute twinRequest
  outcomes : ∀ index, outcomesOf (history settings state steps index) =
    outcomesOf (history twinSettings twin twinSteps index)

theorem keys_of_outcomes {index : Nat} {schedule : List Nat} {request : HttpRequest}
    (arrived : (requests steps)[index]? = some (schedule, request)) :
    (counts (history settings state steps index)).map keyOf =
      (outcomesOf (history settings state steps index)).map fun outcome =>
        requestKey outcome.1 (actionOf request outcome.2) outcome.2 := by
  rw [outcomesOf, List.map_map]
  apply List.map_congr_left
  intro label member
  rcases labelled_of_history arrived member with ⟨guard, -, labelled⟩
  rw [keyOf, labelled.action]
  rfl

/-- The same traffic fills the same map, in whatever order. -/
theorem SameTraffic.requests_eq {twinSettings : RouterSettings} {twin : AppState}
    {twinSteps : List Step}
    (same : SameTraffic settings twinSettings state twin steps twinSteps) :
    tally (keysOf (run settings state steps).log) =
      tally (keysOf (run twinSettings twin twinSteps).log) := by
  apply tally_perm
  rw [← Multiset.coe_eq_coe, keysOf, keysOf, ← Pool.logged_chosen, ← Pool.logged_chosen,
    logged_eq_sum, logged_eq_sum, ← same.length]
  apply Finset.sum_congr rfl
  intro index member
  rcases arrived_of_mem_range member with ⟨schedule, request, arrived⟩
  rw [same.length] at member
  rcases arrived_of_mem_range member with ⟨twinSchedule, twinRequest, twinArrived⟩
  rcases same.alike index _ _ _ _ arrived twinArrived with ⟨method, route⟩
  rw [total_chosen, total_chosen, filterMap_key?, filterMap_key?, keys_of_outcomes arrived,
    keys_of_outcomes twinArrived, same.outcomes index]
  simp only [actionOf_eq method route]

/-- Whatever key is counted is made of words known from the configurations so far. -/
theorem worded_of_keys {cfg : Config} {path : Option String}
    (started : AppState.withPath cfg path = .ok state) {key : RequestKey}
    (member : key ∈ keysOf (run settings state steps).log) :
    Worded (tokenNames (cfg :: acceptedIn path (run settings state steps).log)) key := by
  rcases List.mem_filterMap.mp member with ⟨occurrence, logged, selected⟩
  cases occurrence with
  | move made => cases selected
  | event index event =>
      have present : event ∈ history settings state steps index := Pool.mem_eventsOf.mpr logged
      have within : index ∈ Finset.range (requests steps).length := by
        rw [Finset.mem_range, ← length_threads settings state steps]
        by_contra beyond
        have none : history settings state steps index = [] :=
          (Pool.run_follows state (steps.map (turn settings))).2 index (Nat.le_of_not_lt beyond)
        rw [none] at present
        cases present
      rcases arrived_of_mem_range within with ⟨schedule, request, arrived⟩
      rcases event with ⟨effect, answer⟩
      cases effect with
      | recordRequest token action outcome =>
          have counted : (token, action, outcome) ∈ counts (history settings state steps index) :=
            List.mem_filterMap.mpr ⟨_, present, rfl⟩
          rcases labelled_of_history arrived counted with ⟨guard, loaded, labelled⟩
          rcases place_of_loaded loaded with ⟨early, late, place⟩
          have snapshots := Snapshots.run started (steps.map (turn settings))
          rcases (snapshots.loaded_built place).2 with ⟨live, built, same⟩
          have tokens := Authenticator.map_fst_new (Live.build_eq_ok.mp built).1
          rw [← same.tokens] at tokens
          have inRun : inForce path cfg early ∈
              cfg :: acceptedIn path (run settings state steps).log :=
            List.mem_of_getElem? (snapshots.configured place)
          refine ⟨token, ?_, action, labelled.known, outcome, labelled.tag, ?_⟩
          · rcases labelled.name with anonymous | named
            · exact List.mem_cons.mpr (.inl anonymous)
            · rw [tokens] at named
              exact List.mem_cons_of_mem _ (List.mem_flatMap.mpr ⟨_, inRun, named⟩)
          · exact (Option.some.inj selected).symm
      | _ => cases selected

/-- At every point of every run the map has known words only, no more keys than these
allow, and nothing that depends on which ids or invalid tokens clients present. -/
theorem requests_bounded (settings : RouterSettings) {cfg : Config} {path : Option String}
    {state : AppState} (started : AppState.withPath cfg path = .ok state) (steps : List Step) :
    (∀ key ∈ (run settings state steps).state.metrics.requests.map Prod.fst,
      Worded (tokenNames (cfg :: acceptedIn path (run settings state steps).log)) key) ∧
    (run settings state steps).state.metrics.requests.length ≤
      keyBound (tokenNames (cfg :: acceptedIn path (run settings state steps).log)) ∧
    ∀ (twinSettings : RouterSettings) (twinCfg : Config) (twinPath : Option String)
      (twin : AppState), AppState.withPath twinCfg twinPath = .ok twin →
      ∀ twinSteps, SameTraffic settings twinSettings state twin steps twinSteps →
        (run settings state steps).state.metrics.requests =
          (run twinSettings twin twinSteps).state.metrics.requests := by
  have tallied := (tallied settings started steps).requests
  have worded : ∀ key ∈ (run settings state steps).state.metrics.requests.map Prod.fst,
      Worded (tokenNames (cfg :: acceptedIn path (run settings state steps).log)) key := by
    intro key member
    rw [tallied] at member
    exact worded_of_keys started (mem_of_mem_keys_tally member)
  refine ⟨worded, ?_, ?_⟩
  · rw [← List.length_map Prod.fst]
    apply length_le_keyBound _ worded
    rw [tallied]
    exact (pairwise_keys_tally _).imp ne_of_lt
  · intro twinSettings twinCfg twinPath twin twinStarted twinSteps same
    rw [tallied, same.requests_eq, (Step.tallied twinSettings twinStarted twinSteps).requests]

end Step

end

section

open Sample

/-- A token that may not revoke names a voucher of its choice. -/
def probingSteps (site voucher : String) : List Step :=
  .arrive [] (request "DELETE"
    (s!"/proxy/network/integration/v1/sites/{site}/hotspot/vouchers/{voucher}") lobbyKey []) ::
    List.replicate 14 (.advance 0 outside)

theorem Step.sameTraffic_probing :
    SameTraffic settings settings state state (probingSteps "main" "v1")
      (probingSteps "annex" "v2") where
  length := rfl
  alike := by
    intro index schedule request twinSchedule twinRequest arrived twinArrived
    cases index with
    | zero =>
        cases arrived
        cases twinArrived
        exact ⟨rfl, by decide +kernel⟩
    | succ index => cases arrived
  outcomes := by
    intro index
    cases index with
    | zero => decide +kernel
    | succ index =>
        have none : ∀ site voucher,
            history settings state (probingSteps site voucher) (index + 1) = [] := by
          intro site voucher
          apply (Pool.run_follows state ((probingSteps site voucher).map (turn settings))).2
          change (run settings state (probingSteps site voucher)).threads.length ≤ _
          rw [length_threads]
          exact Nat.succ_le_succ (Nat.zero_le _)
        rw [none, none]

theorem Step.requests_bounded_probing :
    (Step.run settings state (probingSteps "main" "v1")).state.metrics.requests =
      [(requestKey "lobby" "vouchers:revoke" "forbidden", 1)] ∧
    (Step.run settings state (probingSteps "main" "v1")).state.metrics.requests =
      (Step.run settings state (probingSteps "annex" "v2")).state.metrics.requests :=
  ⟨by decide +kernel, (Step.requests_bounded settings started (probingSteps "main" "v1")).2.2
    settings cfg (some "config.toml") state started (probingSteps "annex" "v2")
    Step.sameTraffic_probing⟩

end

end VoucherProxy
