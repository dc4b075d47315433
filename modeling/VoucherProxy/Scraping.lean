import VoucherProxy.Counting
import VoucherProxy.Rendering
import VoucherProxy.Sample

namespace VoucherProxy

/-! A scrape of the metrics while the server goes on serving. The counters are read one
after another, so a scrape is no snapshot; each number in it is what had been counted by
the time it was read. -/

section

variable [Crates]

open Exposition Metrics

/-! ## What a log records -/

def recording? : Event Effect Answer → Option Recording
  | ⟨.recordRequest token action outcome, _⟩ => some (.request token action outcome)
  | ⟨.recordUpstream elapsedMs, _⟩ => some (.upstream elapsedMs)
  | ⟨.recordVouchersCreated token count, _⟩ => some (.vouchersCreated token count)
  | _ => none

/-- The calls that a log makes on the metrics, in order. -/
def recordings (path : Option String) (log : Log) : List Recording :=
  log.filterMap fun
    | .event _ event => recording? event
    | .move found => some (.reload (found.accepted path).isSome)

theorem recordings_append (path : Option String) (early late : Log) :
    recordings path (early ++ late) = recordings path early ++ recordings path late :=
  List.filterMap_append

omit [Crates] in
theorem recorded_append (early late : List Recording) :
    recorded (early ++ late) = late.foldl record (recorded early) :=
  List.foldl_append

theorem recorded_run {α : Type} {cfg : Config} {path : Option String} {state : AppState}
    (started : AppState.withPath cfg path = .ok state)
    (turns : List (Turn Effect Answer Outside Reload α)) :
    (Pool.run server (Pool.start state) turns).state.metrics =
      recorded (recordings path (Pool.run server (Pool.start state) turns).log) := by
  have keeps : ∀ (pool : Pool Effect Answer AppState Reload α)
      (move : Turn Effect Answer Outside Reload α), True →
      (pool.state.configPath = path ∧
        pool.state.metrics = recorded (recordings path pool.log)) →
      (Pool.turn server pool move).state.configPath = path ∧
        (Pool.turn server pool move).state.metrics =
          recorded (recordings path (Pool.turn server pool move).log) := by
    rintro pool move - ⟨configPath, same⟩
    rcases Pool.turn_cases server pool move with kept | ⟨program, -, spawned⟩ |
      ⟨thread, outside, first, effect, next, -, -, advanced⟩ | ⟨found, -, moved⟩
    · rw [kept]
      exact ⟨configPath, same⟩
    · rw [spawned]
      exact ⟨configPath, same⟩
    · rw [advanced]
      simp only [recordings_append, recorded_append, ← same]
      cases effect with
      | _ => exact ⟨configPath, rfl⟩
    · rw [moved]
      simp only [recordings_append, recorded_append, ← same]
      change (pool.state.sighup found).configPath = path ∧ (pool.state.sighup found).metrics =
        pool.state.metrics.recordReload (found.accepted path).isSome
      rcases pool.state.sighup_accepted found with ⟨refused, left⟩ | ⟨cfg, live, accepted, -, left⟩
      · rw [configPath] at refused
        rw [left, refused]
        exact ⟨configPath, rfl⟩
      · rw [configPath] at accepted
        rw [left, accepted]
        exact ⟨configPath, rfl⟩
  rcases AppState.withPath_eq_ok started with ⟨-, -, -, -, configPath⟩
  have initial : (Pool.start state : Pool Effect Answer AppState Reload α).state.configPath = path ∧
      (Pool.start state : Pool Effect Answer AppState Reload α).state.metrics =
        recorded (recordings path []) := ⟨configPath, AppState.metrics_withPath started⟩
  exact (Pool.run_induction keeps initial fun _ _ => trivial).2

/-! ## What the log comes to -/

/-- The name and the number of each creation that a log records. -/
def issue? : Event Effect Answer → Option (String × UInt32)
  | ⟨.recordVouchersCreated token count, _⟩ => some (token, count)
  | _ => none

def latency : Event Effect Answer → Nat
  | ⟨.recordUpstream elapsedMs, _⟩ => elapsedMs.toNat
  | _ => 0

/-- The signals whose configuration was not accepted. -/
def refusedIn (path : Option String) (log : Log) : List Reload :=
  (Pool.moves log).filter fun found => (found.accepted path).isNone

theorem requestsOf_recordings (path : Option String) (log : Log) :
    requestsOf (recordings path log) = (keysOf log).map (·, 1) := by
  induction log with
  | nil => rfl
  | cons first log induction =>
      rcases first with ⟨thread, ⟨effect, answer⟩⟩ | found
      · cases effect with
        | recordRequest token action outcome => exact congrArg ((_, 1) :: ·) induction
        | _ => exact induction
      · exact induction

theorem vouchersOf_recordings (path : Option String) (log : Log) :
    vouchersOf (recordings path log) =
      (Pool.selected issue? log).map fun issue => (issue.1, issue.2.toUInt64) := by
  induction log with
  | nil => rfl
  | cons first log induction =>
      rcases first with ⟨thread, ⟨effect, answer⟩⟩ | found
      · cases effect with
        | recordVouchersCreated token count => exact congrArg ((_, _) :: ·) induction
        | _ => exact induction
      · exact induction

/-- The scalars. -/
structure Scalars (metrics : Metrics) (path : Option String) (log : Log) : Prop where
  latency : metrics.upstreamLatencyMsTotal = UInt64.ofNat (Pool.logged latency log)
  calls : metrics.upstreamCalls = UInt64.ofNat (Pool.logged measures log)
  reloads : metrics.reloads = UInt64.ofNat (acceptedIn path log).length
  failures : metrics.reloadFailures = UInt64.ofNat (refusedIn path log).length

theorem Scalars.snoc {metrics after : Metrics} {path : Option String} {log : Log}
    {last : Occurrence Effect Answer Reload} (scalars : Scalars metrics path log)
    (latencies : after.upstreamLatencyMsTotal =
      metrics.upstreamLatencyMsTotal + UInt64.ofNat (Pool.logged VoucherProxy.latency [last]))
    (calls : after.upstreamCalls =
      metrics.upstreamCalls + UInt64.ofNat (Pool.logged measures [last]))
    (reloads : after.reloads = metrics.reloads + UInt64.ofNat (acceptedIn path [last]).length)
    (failures : after.reloadFailures =
      metrics.reloadFailures + UInt64.ofNat (refusedIn path [last]).length) :
    Scalars after path (log ++ [last]) := by
  have moves : acceptedIn path (log ++ [last]) = acceptedIn path log ++ acceptedIn path [last] :=
    acceptedIn_append path log [last]
  have refusals : refusedIn path (log ++ [last]) =
      refusedIn path log ++ refusedIn path [last] := by
    rw [refusedIn, Pool.moves_append, List.filter_append]
    rfl
  constructor
  · rw [Pool.logged_append, UInt64.ofNat_add, ← scalars.latency, latencies]
  · rw [Pool.logged_append, UInt64.ofNat_add, ← scalars.calls, calls]
  · rw [moves, List.length_append, UInt64.ofNat_add, ← scalars.reloads, reloads]
  · rw [refusals, List.length_append, UInt64.ofNat_add, ← scalars.failures, failures]

theorem scalars_recorded (path : Option String) (log : Log) :
    Scalars (recorded (recordings path log)) path log := by
  have zero : ∀ count : UInt64, count = count + UInt64.ofNat 0 :=
    fun count => (UInt64.add_zero count).symm
  induction log using List.reverseRecOn with
  | nil => exact ⟨rfl, rfl, rfl, rfl⟩
  | append_singleton log last induction =>
      rw [recordings_append, recorded_append]
      rcases last with ⟨thread, ⟨effect, answer⟩⟩ | found
      · cases effect with
        | recordUpstream elapsedMs =>
            apply induction.snoc
            · rw [Pool.logged_event]
              exact congrArg (_ + ·) UInt64.ofNat_toNat.symm
            · exact rfl
            · exact zero _
            · exact zero _
        | _ => exact induction.snoc (zero _) (zero _) (zero _) (zero _)
      · cases accepted : found.accepted path with
        | none =>
            have refused : recordings path [.move found] = [.reload false] := by
              simp [recordings, accepted]
            have refusal : refusedIn path [.move found] = [found] := by
              simp [refusedIn, accepted]
            rw [refused]
            apply induction.snoc
            · exact zero _
            · exact zero _
            · simp [acceptedIn, accepted, record, recordReload]
            · rw [refusal]
              exact rfl
        | some cfg =>
            have taken : recordings path [.move found] = [.reload true] := by
              simp [recordings, accepted]
            have acceptance : acceptedIn path [.move found] = [cfg] := by
              simp [acceptedIn, accepted]
            rw [taken]
            apply induction.snoc
            · exact zero _
            · exact zero _
            · rw [acceptance]
              exact rfl
            · simp [refusedIn, accepted, record, recordReload]

/-! ## What is found under a key -/

section

variable {κ : Type} [LinearOrder κ]

omit [Crates] in
theorem total_eq_sum (key : κ) (additions : List (κ × UInt64)) :
    Metrics.total key additions = UInt64.ofNat
      (additions.map fun addition => if addition.1 = key then addition.2.toNat else 0).sum := by
  induction additions using List.reverseRecOn with
  | nil => rfl
  | append_singleton additions last induction =>
      have totals : Metrics.total key (additions ++ [last]) =
          if last.1 = key then Metrics.total key additions + last.2
          else Metrics.total key additions := by
        simp [Metrics.total]
      rw [totals, List.map_append, List.sum_append, UInt64.ofNat_add, ← induction]
      by_cases own : last.1 = key <;> simp [own]

omit [Crates] in
/-- The entries are the keys under which something was added, each with the sum of it. -/
theorem mem_added {additions : List (κ × UInt64)} {entry : κ × UInt64} :
    entry ∈ added additions ↔
      entry.1 ∈ additions.map Prod.fst ∧ entry.2 = Metrics.total entry.1 additions := by
  classical
  rcases lookup_added entry.1 additions with ⟨present, value⟩
  rw [mem_iff_lookup (pairwise_keys_added additions), ← present, ← value]
  cases (added additions).lookup entry.1 with
  | none => simp
  | some held => simp [eq_comm]

end

omit [Crates] in
theorem mem_map_added {κ α : Type} [LinearOrder κ] {additions : List (κ × UInt64)}
    {f : κ × UInt64 → α} {value : α} :
    value ∈ (added additions).map f ↔
      ∃ addition ∈ additions, value = f (addition.1, Metrics.total addition.1 additions) := by
  rw [List.mem_map]
  constructor
  · rintro ⟨entry, member, rfl⟩
    rcases mem_added.mp member with ⟨present, sum⟩
    rcases List.mem_map.mp present with ⟨addition, here, key⟩
    exact ⟨addition, here, congrArg f (Prod.ext key.symm (key ▸ sum))⟩
  · rintro ⟨addition, here, rfl⟩
    exact ⟨(addition.1, Metrics.total addition.1 additions),
      mem_added.mpr ⟨List.mem_map.mpr ⟨addition, here, rfl⟩, rfl⟩, rfl⟩

theorem total_requests (key : RequestKey) (path : Option String) (log : Log) :
    Metrics.total key (requestsOf (recordings path log)) =
      UInt64.ofNat ((keysOf log).count key) := by
  rw [total_eq_sum, requestsOf_recordings, List.map_map]
  congr 1
  induction keysOf log with
  | nil => rfl
  | cons first keys induction =>
      rw [List.map_cons, List.sum_cons, induction, List.count_cons, Nat.add_comm]
      simp [beq_iff_eq]

theorem total_vouchers (name : String) (path : Option String) (log : Log) :
    Metrics.total name (vouchersOf (recordings path log)) =
      UInt64.ofNat (Pool.logged (issues name) log) := by
  rw [total_eq_sum, vouchersOf_recordings, List.map_map]
  congr 1
  induction log with
  | nil => rfl
  | cons first log induction =>
      have split := Pool.logged_append (issues name) [first] log
      rw [List.singleton_append] at split
      rw [split, ← induction]
      rcases first with ⟨thread, ⟨effect, answer⟩⟩ | found
      · cases effect with
        | recordVouchersCreated token count =>
            rw [Pool.logged_event]
            have value : (if token = name then count.toUInt64.toNat else 0) =
                if name = token then count.toNat else 0 := by
              simp [eq_comm]
            exact congrArg (· + _) value
        | _ =>
            rw [Pool.logged_event]
            exact (Nat.zero_add _).symm
      · rw [Pool.logged_move]
        exact (Nat.zero_add _).symm

/-! ## A scrape -/

/-- The steps the server takes before each read of a scrape, since the read before it. -/
structure Scrape where
  beforeLive : List Step
  beforeRequests : List Step
  beforeVouchers : List Step
  beforeCalls : List Step
  beforeLatency : List Step
  beforeReloads : List Step
  beforeFailures : List Step

namespace Scrape

variable (scrape : Scrape)

/-- All the steps up to a read. -/
def untilLive : List Step := scrape.beforeLive

def untilRequests : List Step := scrape.untilLive ++ scrape.beforeRequests

def untilVouchers : List Step := scrape.untilRequests ++ scrape.beforeVouchers

def untilCalls : List Step := scrape.untilVouchers ++ scrape.beforeCalls

def untilLatency : List Step := scrape.untilCalls ++ scrape.beforeLatency

def untilReloads : List Step := scrape.untilLatency ++ scrape.beforeReloads

def untilFailures : List Step := scrape.untilReloads ++ scrape.beforeFailures

variable [Framework] [GraphQlEngine] (settings : RouterSettings) (state : AppState)

/-- What the counters of a scrape are read as, each at its own time. -/
def counters : Metrics :=
  let metrics (steps : List Step) : Metrics := (Step.run settings state steps).state.metrics
  { requests := (metrics scrape.untilRequests).requests
    vouchersCreated := (metrics scrape.untilVouchers).vouchersCreated
    upstreamCalls := (metrics scrape.untilCalls).upstreamCalls
    upstreamLatencyMsTotal := (metrics scrape.untilLatency).upstreamLatencyMsTotal
    reloads := (metrics scrape.untilReloads).reloads
    reloadFailures := (metrics scrape.untilFailures).reloadFailures }

/-- What the handler of `/metrics` answers with. -/
def metrics (version : String) : String :=
  (scrape.counters settings state).render version
    (Step.run settings state scrape.untilLive).state.live.value.tokenCount

/-- What the samples of a scrape say, of the logs at the times they were read. -/
structure Reports (cfg : Config) (path : Option String) (samples : List Exposition.Sample) :
    Prop where
  single : (samples.map fun sample => (sample.name, sample.labels)).Nodup
  tokens : ⟨"uvp_tokens_configured", [],
    .number (inForce path cfg (Step.run settings state scrape.untilLive).log).tokens.length,
    none⟩ ∈ samples
  requests : ∀ sample, sample.name = "uvp_requests_total" → (sample ∈ samples ↔
    ∃ key ∈ keysOf (Step.run settings state scrape.untilRequests).log,
      sample = requestSample (key, UInt64.ofNat
        ((keysOf (Step.run settings state scrape.untilRequests).log).count key)))
  vouchers : ∀ sample, sample.name = "uvp_vouchers_created_total" → (sample ∈ samples ↔
    ∃ issue ∈ Pool.selected issue? (Step.run settings state scrape.untilVouchers).log,
      sample = vouchersSample (issue.1, UInt64.ofNat
        (Pool.logged (issues issue.1) (Step.run settings state scrape.untilVouchers).log)))
  calls : ⟨"uvp_upstream_calls_total", [], .number (UInt64.ofNat
    (Pool.logged measures (Step.run settings state scrape.untilCalls).log)).toNat, none⟩ ∈ samples
  seconds : ⟨"uvp_upstream_seconds_total", [], .number (thousandths (UInt64.ofNat
    (Pool.logged latency (Step.run settings state scrape.untilLatency).log)) / 1000), none⟩ ∈
      samples
  reloads : ⟨"uvp_config_reloads_total", [], .number (UInt64.ofNat
    (acceptedIn path (Step.run settings state scrape.untilReloads).log).length).toNat, none⟩ ∈
      samples
  failures : ⟨"uvp_config_reload_failures_total", [], .number (UInt64.ofNat
    (refusedIn path (Step.run settings state scrape.untilFailures).log).length).toNat, none⟩ ∈
      samples

variable {scrape settings state} {cfg : Config} {path : Option String}

theorem tokenCount_run (started : AppState.withPath cfg path = .ok state) (steps : List Step) :
    (Step.run settings state steps).state.live.value.tokenCount =
      (inForce path cfg (Step.run settings state steps).log).tokens.length := by
  have snapshots := Snapshots.run started (steps.map (Step.turn settings))
  have newest := getElem?_acceptedIn path cfg (Step.run settings state steps).log
  rcases snapshots.built _ _ newest with ⟨live, built, same⟩
  have current : (Step.run settings state steps).state.current =
      (acceptedIn path (Step.run settings state steps).log).length := snapshots.current
  have held : (Step.run settings state steps).state.live.value.tokenCount = live.tokenCount := by
    rw [AppState.live, current]
    exact same.tokenCount
  rw [held]
  exact (Live.build_eq_ok.mp built).2.2.2.2

omit [Crates] [Framework] [GraphQlEngine] in
/-- The samples under one of the names. -/
theorem mem_exposed_requests {metrics : Metrics} {version : String} {tokens : Nat}
    {sample : Exposition.Sample} (named : sample.name = "uvp_requests_total") :
    sample ∈ metrics.exposed version tokens ↔ sample ∈ metrics.requests.map requestSample := by
  have others : ∀ entry : String × UInt64, sample ≠ vouchersSample entry := by
    rintro entry rfl
    have same : "uvp_vouchers_created_total" = "uvp_requests_total" := named
    exact absurd same (by decide)
  have scalar : ∀ (name : String) labels value timestamp, name ≠ "uvp_requests_total" →
      sample ≠ ⟨name, labels, value, timestamp⟩ := by
    rintro name labels value timestamp different rfl
    exact different named
  simp [Metrics.exposed, scalar, others, eq_comm]

omit [Crates] [Framework] [GraphQlEngine] in
theorem mem_exposed_vouchers {metrics : Metrics} {version : String} {tokens : Nat}
    {sample : Exposition.Sample} (named : sample.name = "uvp_vouchers_created_total") :
    sample ∈ metrics.exposed version tokens ↔
      sample ∈ metrics.vouchersCreated.map vouchersSample := by
  have others : ∀ entry : RequestKey × UInt64, sample ≠ requestSample entry := by
    rintro entry rfl
    have same : "uvp_requests_total" = "uvp_vouchers_created_total" := named
    exact absurd same (by decide)
  have scalar : ∀ (name : String) labels value timestamp, name ≠ "uvp_vouchers_created_total" →
      sample ≠ ⟨name, labels, value, timestamp⟩ := by
    rintro name labels value timestamp different rfl
    exact different named
  simp [Metrics.exposed, scalar, others, eq_comm]

/-- Every scrape reads back, whatever the server does in the meantime, and each number in
it is what had been counted when it was read. -/
theorem reported (started : AppState.withPath cfg path = .ok state) (scrape : Scrape)
    {version : String} (plain : Plain version) :
    ∃ lines, Exposition.parse (scrape.metrics settings state version) = some lines ∧
      scrape.Reports settings state cfg path (Exposition.samples lines) := by
  have recorded : ∀ steps, (Step.run settings state steps).state.metrics =
      Metrics.recorded (recordings path (Step.run settings state steps).log) :=
    fun steps => recorded_run started (steps.map (Step.turn settings))
  have scalars : ∀ steps, Scalars (Step.run settings state steps).state.metrics path
      (Step.run settings state steps).log := by
    intro steps
    rw [recorded]
    exact scalars_recorded path _
  have requests : (scrape.counters settings state).requests = added (requestsOf (recordings path
      (Step.run settings state scrape.untilRequests).log)) :=
    (congrArg Metrics.requests (recorded _)).trans (recorded_eq _).1
  have vouchers : (scrape.counters settings state).vouchersCreated = added (vouchersOf
      (recordings path (Step.run settings state scrape.untilVouchers).log)) :=
    (congrArg Metrics.vouchersCreated (recorded _)).trans (recorded_eq _).2
  refine ⟨_, Exposition.parse_families (toList_render _ plain _), ?_⟩
  rw [Exposition.samples_families, ← exposed_eq, tokenCount_run started]
  constructor
  · apply nodup_exposed
    · rw [requests]
      exact pairwise_keys_added _
    · rw [vouchers]
      exact pairwise_keys_added _
  · simp [Metrics.exposed]
  · intro sample named
    rw [mem_exposed_requests named, requests, mem_map_added]
    simp only [total_requests]
    rw [requestsOf_recordings]
    simp only [List.mem_map, exists_exists_and_eq_and]
  · intro sample named
    rw [mem_exposed_vouchers named, vouchers, mem_map_added]
    simp only [total_vouchers]
    rw [vouchersOf_recordings]
    simp only [List.mem_map, exists_exists_and_eq_and]
  · rw [← (scalars _).calls]
    simp [Metrics.exposed, counters]
  · rw [← (scalars _).latency]
    simp [Metrics.exposed, counters]
  · rw [← (scalars _).reloads]
    simp [Metrics.exposed, counters]
  · rw [← (scalars _).failures]
    simp [Metrics.exposed, counters]

end Scrape

end

section

open Sample

/-- A scrape during which a signal comes between the reads of its two counters. -/
def overtakenScrape : Scrape where
  beforeLive := [.arrive [] (request "GET" "/proxy/info" "guess" [])]
  beforeRequests := List.replicate 6 (.advance 0 outside)
  beforeVouchers := []
  beforeCalls := [.reload ⟨some revokedFile, []⟩]
  beforeLatency := []
  beforeReloads := []
  beforeFailures := [.reload ⟨none, []⟩]

theorem Scrape.reported_overtaken :
    ∃ lines, Exposition.parse (overtakenScrape.metrics settings state "0.1.1") = some lines ∧
      overtakenScrape.Reports settings state cfg (some "config.toml")
        (Exposition.samples lines) := by
  have plain : Metrics.Plain "0.1.1" := by simp [Metrics.Plain]
  exact Scrape.reported started overtakenScrape plain

end

end VoucherProxy
