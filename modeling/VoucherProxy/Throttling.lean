import VoucherProxy.Sweeping
import VoucherProxy.Windows

namespace VoucherProxy

/-! Who is refused for calling too often: exactly those who do, whatever all others do
meanwhile. Both limiters, in every run. -/

section

variable [Crates]

/-! ## The store of addresses -/

namespace RateLimits

/-- The store of addresses, and the counter that it is swept by. -/
def store (rate : RateLimits) : Option (Governor.KeyedLimiter × UInt32) :=
  rate.perIp.map (·, rate.sweep)

theorem store_eq_some {rate : RateLimits} {keyed : Governor.KeyedLimiter × UInt32} :
    rate.store = some keyed ↔ rate.perIp = some keyed.1 ∧ rate.sweep = keyed.2 := by
  rcases keyed with ⟨limiter, counter⟩
  cases limited : rate.perIp with
  | none => simp [store, limited]
  | some own => simp [store, limited]

theorem store_fromConfig {cfg : Config} {m : NonZeroU32}
    (limit : cfg.limits.rateLimitPerIpPerMinute = m.val) :
    (fromConfig cfg).store = some (Governor.keyed m, 0) := by
  rw [store, fromConfig, limit, NonZeroU32.new_of_ne m.property]
  rfl

theorem checkIp_of_store {rate : RateLimits} {keyed : Governor.KeyedLimiter × UInt32}
    (stored : rate.store = some keyed) (ip : IpAddr) (now : Nat) :
    (rate.checkIp ip now).1 = (chargeKeyed keyed (ip, now)).1 ∧
      (rate.checkIp ip now).2.store = some (chargeKeyed keyed (ip, now)).2 := by
  rcases store_eq_some.mp stored with ⟨limited, counter⟩
  have charged := charge_of_some limited (ip, now)
  rw [charge] at charged
  rw [charged, counter]
  exact ⟨rfl, rfl⟩

theorem store_check (rate : RateLimits) (token : TokenConfig) (now : Nat) :
    (rate.check token now).2.store = rate.store := by
  rw [check]
  cases rate.limiters.lookup token.name with
  | none => rfl
  | some limiter => rfl

end RateLimits

/-- A check of an address: on which `Live`, when, and with what verdict. -/
structure TimedCheck where
  ip : IpAddr
  charge : TimedCharge

def timedCheck? : Outside × Event Effect Answer → Option TimedCheck
  | (outside, ⟨.checkIp slot ip, granted⟩) => some ⟨ip, slot, outside.clock, granted⟩
  | _ => none

namespace TimedCheck

def call (check : TimedCheck) : IpAddr × Nat := (check.ip, check.charge.clock)

def granted (check : TimedCheck) : Bool := check.charge.granted

end TimedCheck

/-- The checks of one address. -/
def checksFrom (ip : IpAddr) (checks : List TimedCheck) : List TimedCharge :=
  (checks.filter fun check => check.ip = ip).map TimedCheck.charge

/-- The checks on one `Live`. -/
def checksOn (slot : Nat) (checks : List TimedCheck) : List TimedCheck :=
  checks.filter fun check => check.charge.slot = slot

/-- The stores, one in every slot, are where the checks so far have left them, and gave
the verdicts that were recorded. -/
structure Stored (m : NonZeroU32) (state : AppState) (checks : List TimedCheck) : Prop where
  store : ∀ slot, (state.lives slot).rate.store =
    some (after RateLimits.chargeKeyed (Governor.keyed m, 0)
      ((checksOn slot checks).map TimedCheck.call))
  verdicts : ∀ slot, (checksOn slot checks).map TimedCheck.granted =
    verdicts RateLimits.chargeKeyed (Governor.keyed m, 0)
      ((checksOn slot checks).map TimedCheck.call)
  placed : ∀ check ∈ checks, check.charge.slot ≤ state.current

theorem Live.store_of_build {cfg : Config} {live : Live} (built : Live.build cfg = .ok live)
    {m : NonZeroU32} (limit : cfg.limits.rateLimitPerIpPerMinute = m.val) :
    live.rate.store = some (Governor.keyed m, 0) := by
  rw [(Live.build_eq_ok.mp built).2.2.2.1, RateLimits.store_fromConfig limit]

/-- Only a check of an address moves a store. -/
theorem AppState.store_exec (state : AppState) {effect : Effect} (outside : Outside)
    (quiet : ∀ slot ip, effect ≠ .checkIp slot ip) (slot : Nat) :
    ((state.exec effect outside).2.lives slot).rate.store = (state.lives slot).rate.store := by
  have updated : ∀ (own : Nat) (live : Live), live.rate.store = (state.lives own).rate.store →
      ((state.modify own live).lives slot).rate.store = (state.lives slot).rate.store := by
    intro own live same
    by_cases here : slot = own
    · rw [here, lives_modify_self, same]
    · rw [lives_modify_ne state live here]
  cases effect with
  | checkIp own ip => exact absurd rfl (quiet own ip)
  | cacheInsert own key position => exact updated own _ rfl
  | check own token => exact updated own _ (RateLimits.store_check _ _ _)
  | _ => rfl

namespace Stored

variable {m : NonZeroU32} {state : AppState} {checks : List TimedCheck}

theorem start {cfg : Config} {path : Option String}
    (started : AppState.withPath cfg path = .ok state)
    (limit : cfg.limits.rateLimitPerIpPerMinute = m.val) : Stored m state [] where
  store slot := Live.store_of_build (AppState.lives_withPath started slot) limit
  verdicts _ := rfl
  placed := by simp

theorem keep (stored : Stored m state checks) {later : AppState}
    (same : ∀ slot, (later.lives slot).rate.store = (state.lives slot).rate.store)
    (current : state.current ≤ later.current) : Stored m later checks where
  store slot := (same slot).trans (stored.store slot)
  verdicts := stored.verdicts
  placed check member := (stored.placed check member).trans current

theorem check (stored : Stored m state checks) {slot : Nat} (ip : IpAddr) (outside : Outside)
    (within : slot ≤ state.current) :
    Stored m (state.exec (.checkIp slot ip) outside).2
      (checks ++ [⟨ip, slot, outside.clock, (state.exec (.checkIp slot ip) outside).1⟩]) := by
  rcases RateLimits.checkIp_of_store (stored.store slot) ip outside.clock with ⟨verdict, moved⟩
  have own : ∀ other granted, checksOn other (checks ++ [⟨ip, slot, outside.clock, granted⟩]) =
      checksOn other checks ++
        if slot = other then [⟨ip, slot, outside.clock, granted⟩] else [] := by
    intro other granted
    rw [checksOn, List.filter_append]
    by_cases here : slot = other <;> simp [checksOn, here]
  refine ⟨fun other => ?_, fun other => ?_, fun check member => ?_⟩
  · change ((state.modify slot _).lives other).rate.store = _
    rw [own]
    by_cases here : slot = other
    · subst here
      rw [AppState.lives_modify_self, if_pos rfl, List.map_append]
      exact moved.trans (congrArg some (after_snoc ..).symm)
    · rw [AppState.lives_modify_ne state _ (Ne.symm here), if_neg here, List.append_nil]
      exact stored.store other
  · rw [own]
    by_cases here : slot = other
    · subst here
      rw [if_pos rfl, List.map_append, List.map_append, verdicts_append, stored.verdicts slot]
      exact congrArg (_ ++ [·]) verdict
    · rw [if_neg here, List.append_nil]
      exact stored.verdicts other
  · rcases List.mem_append.mp member with old | new
    · exact stored.placed check old
    · rw [List.mem_singleton.mp new]
      exact within

/-- A signal brings an empty store, or none. -/
theorem sighup (stored : Stored m state checks) {found : Reload}
    (limit : ∀ cfg, found.accepted state.configPath = some cfg →
      cfg.limits.rateLimitPerIpPerMinute = m.val) :
    Stored m (state.sighup found) checks := by
  rcases state.sighup_accepted found with ⟨-, same⟩ | ⟨cfg, live, accepted, built, same⟩
  · rw [same]
    exact stored.keep (fun _ => rfl) le_rfl
  have unchecked : checksOn (state.current + 1) checks = [] := by
    apply List.filter_eq_nil_iff.mpr
    intro check member
    have placed := stored.placed check member
    simp only [decide_eq_true_eq]
    omega
  have replaced : ∀ slot, (state.sighup found).lives slot =
      if slot = state.current + 1 then live else state.lives slot := by
    intro slot
    rw [same]
    exact Function.update_apply ..
  refine ⟨fun slot => ?_, stored.verdicts, fun check member => ?_⟩
  · rw [replaced]
    split
    next fresh =>
      rw [fresh, unchecked]
      exact Live.store_of_build built (limit cfg accepted)
    next => exact stored.store slot
  · rw [same]
    exact (stored.placed check member).trans (Nat.le_succ _)

/-- Any step of a request. -/
theorem exec (stored : Stored m state checks) (effect : Effect) (outside : Outside)
    (within : ∀ slot ip, effect = .checkIp slot ip → slot ≤ state.current) :
    Stored m (state.exec effect outside).2
      (checks ++ (timedCheck? (outside, ⟨effect, (state.exec effect outside).1⟩)).toList) := by
  have current := (state.exec_same effect outside).1.ge
  cases effect with
  | checkIp slot ip => exact stored.check ip outside (within slot ip rfl)
  | _ =>
      rw [timedCheck?, Option.toList_none, List.append_nil]
      · apply stored.keep _ current
        intro slot
        rw [state.store_exec outside (by simp)]
      all_goals simp

end Stored

/-! ## Refusals -/

def readings (charges : List TimedCharge) : List ℚ :=
  charges.map fun charge => (charge.clock : ℚ)

/-- On each `Live` nothing is refused exactly when what is charged there conforms, and
nothing at all when the whole does. -/
structure Throttled (limiter : Gcra ℚ) (charges : List TimedCharge) : Prop where
  exact : ∀ slot, (∀ charge ∈ chargesOn slot charges, charge.granted = true) ↔
    limiter.Conforms (readings (chargesOn slot charges))
  granted : limiter.Conforms (readings charges) → ∀ charge ∈ charges, charge.granted = true

omit [Crates] in
theorem Throttled.of_verdicts {limiter : Gcra ℚ} {charges : List TimedCharge}
    (ordered : (charges.map TimedCharge.clock).Pairwise (· ≤ ·))
    (verdicts : ∀ slot, (chargesOn slot charges).map TimedCharge.granted =
      verdicts limiter.check none (readings (chargesOn slot charges))) :
    Throttled limiter charges := by
  have times : (readings charges).Pairwise (· ≤ ·) := by
    have pairwise := RateLimits.pairwise_cast ordered
    rwa [List.map_map] at pairwise
  have part : ∀ slot, (readings (chargesOn slot charges)).Sublist (readings charges) :=
    fun slot => List.filter_sublist.map _
  have exact : ∀ slot, (∀ charge ∈ chargesOn slot charges, charge.granted = true) ↔
      limiter.Conforms (readings (chargesOn slot charges)) := by
    intro slot
    rw [← Gcra.admits_iff_conforms (times.sublist (part slot)), ← verdicts, List.forall_mem_map]
  refine ⟨exact, fun conforms charge member => ?_⟩
  apply (exact charge.slot).mpr (conforms.sublist (part charge.slot))
  exact List.mem_filter.mpr ⟨member, by simp⟩

/-- Of what a charged name was answered. -/
theorem Metered.throttled (gcra : Governor.ImplementsGcra Crates.toGovernor) {name : String}
    {n : NonZeroU32} {state : AppState} {charges : List TimedCharge}
    (metered : Metered name n state charges)
    (ordered : (charges.map TimedCharge.clock).Pairwise (· ≤ ·)) :
    Throttled (Governor.perMinute n) charges := by
  apply Throttled.of_verdicts ordered
  intro slot
  have times : ((chargesOn slot charges).map TimedCharge.clock).Pairwise (· ≤ ·) :=
    ordered.sublist (List.filter_sublist.map _)
  rw [metered.verdicts slot, gcra n _ times, List.map_map]
  rfl

omit [Crates] in
theorem chargesOn_checksFrom (slot : Nat) (ip : IpAddr) (checks : List TimedCheck) :
    chargesOn slot (checksFrom ip checks) = checksFrom ip (checksOn slot checks) := by
  rw [chargesOn, checksFrom, checksFrom, checksOn, List.filter_map, List.filter_comm]
  rfl

section

variable {quota : Governor.KeyedLimiter → Gcra ℚ}
  {entries : Governor.KeyedLimiter → IpAddr → Option ℚ}

/-- An address is answered by a limiter of its own, from whatever state the store is in. -/
theorem verdicts_checksFrom (keeps : Governor.KeepsArrivals quota entries)
    {keyed : Governor.KeyedLimiter × UInt32} {checks : List TimedCheck}
    (answered : checks.map TimedCheck.granted =
      verdicts RateLimits.chargeKeyed keyed (checks.map TimedCheck.call))
    (ordered : (checks.map fun check => check.charge.clock).Pairwise (· ≤ ·)) (ip : IpAddr) :
    (checksFrom ip checks).map TimedCharge.granted =
      verdicts (quota keyed.1).check (entries keyed.1 ip) (readings (checksFrom ip checks)) := by
  have times : ((checks.map TimedCheck.call).map RateLimits.reading).Pairwise (· ≤ ·) := by
    have pairwise := RateLimits.pairwise_cast ordered
    rw [List.map_map] at pairwise ⊢
    exact pairwise
  rcases exists_start times with ⟨start, begun⟩
  have own : (checks.filter fun check => check.ip = ip).map TimedCheck.granted =
      verdictsOf RateLimits.chargeKeyed (·.1 = ip) keyed (checks.map TimedCheck.call) :=
    verdictsOf_eq_filter (·.1 = ip) answered
  have same : Gcra.SameFrom start (entries keyed.1 ip) (entries keyed.1 ip) := .refl _ _
  have alone := (RateLimits.keeps_chargeKeyed keeps).verdictsOf_eq ip begun same
  rw [List.filter_map, List.map_map] at alone
  rw [readings, checksFrom, List.map_map, List.map_map]
  exact own.trans alone

/-- Of what an address was answered. -/
theorem Stored.throttled (keeps : Governor.KeepsArrivals quota entries) {m : NonZeroU32}
    (fresh : quota (Governor.keyed m) = Governor.perMinute m) {state : AppState}
    {checks : List TimedCheck} (stored : Stored m state checks)
    (ordered : (checks.map fun check => check.charge.clock).Pairwise (· ≤ ·)) (ip : IpAddr) :
    Throttled (Governor.perMinute m) (checksFrom ip checks) := by
  apply Throttled.of_verdicts
  · rw [checksFrom, List.map_map]
    exact ordered.sublist (List.filter_sublist.map _)
  intro slot
  have clocks : ((checksOn slot checks).map fun check => check.charge.clock).Pairwise (· ≤ ·) :=
    ordered.sublist (List.filter_sublist.map _)
  have answered := verdicts_checksFrom keeps (stored.verdicts slot) clocks ip
  rw [keeps.keyed, fresh] at answered
  rw [chargesOn_checksFrom]
  exact answered

end

/-! ## Runs -/

variable [Framework] [GraphQlEngine]

namespace Step

/-- The checks of addresses while a system takes some steps. -/
def checksDuring (settings : RouterSettings) (system : System) (steps : List Step) :
    List TimedCheck :=
  (Pool.timeline server system (steps.map (turn settings))).filterMap timedCheck?

/-- The checks of addresses in the course of a run. -/
abbrev checksIn (settings : RouterSettings) (state : AppState) (steps : List Step) :
    List TimedCheck :=
  checksDuring settings (Pool.start state) steps

theorem checksIn_append (settings : RouterSettings) (state : AppState) (early late : List Step) :
    checksIn settings state (early ++ late) =
      checksIn settings state early ++ checksDuring settings (run settings state early) late := by
  rw [checksIn, checksDuring, List.map_append, Pool.timeline_append, List.filterMap_append]
  rfl

variable {settings : RouterSettings} {cfg : Config} {path : Option String} {state : AppState}

/-- A request checks its address on a `Live` that was put in force before. -/
theorem checked_slot_le_current (started : AppState.withPath cfg path = .ok state)
    {steps : List Step} {index : Nat} {program : Call Response} {slot : Nat} {ip : IpAddr}
    {next : Bool → Call Response}
    (found : (run settings state steps).threads[index]? =
      some ⟨program, .perform (.checkIp slot ip) next⟩) :
    slot ≤ (run settings state steps).state.current := by
  rcases about_permitted found with ⟨request, guard, loaded, rfl⟩
  exact slot_le_current_of_loaded started loaded

/-- The stores of a run in which every configuration sets this limit. -/
theorem stored (started : AppState.withPath cfg path = .ok state) {m : NonZeroU32}
    {steps : List Step} (limits : ∀ config ∈ configurations cfg path steps,
      config.limits.rateLimitPerIpPerMinute = m.val) :
    Stored m (run settings state steps).state (checksIn settings state steps) := by
  apply @run_timeline _ _ _ settings cfg path state started
    (fun later happened => Stored m later (happened.filterMap timedCheck?))
  case start => exact .start started (limits cfg List.mem_cons_self)
  case exec =>
    intro early index program effect next outside happened found stored
    have single : ∀ event, [event].filterMap timedCheck? = (timedCheck? event).toList := by
      intro event
      rw [List.filterMap_cons]
      cases timedCheck? event <;> rfl
    rw [List.filterMap_append, single]
    apply stored.exec effect outside
    intro slot ip same
    subst same
    exact checked_slot_le_current started found
  case sighup =>
    intro later happened signal within stored
    exact stored.sighup fun config accepted => limits config (within config accepted)

/-- Addresses are checked in the order of the clock. -/
theorem clocks_checksDuring (settings : RouterSettings) (system : System) (steps : List Step) :
    ((checksDuring settings system steps).map fun check => check.charge.clock).Sublist
      (clocks steps) := by
  apply clocks_picked
  rintro ⟨outside, effect, answer⟩ check checked
  cases effect with
  | checkIp slot ip =>
      cases checked
      rfl
  | _ => cases checked

/-- Nobody is throttled who keeps to the limits, and everybody who does not: for every
name and every address, in every run. -/
theorem throttled_exactly (gcra : Governor.ImplementsGcra Crates.toGovernor)
    {quota : Governor.KeyedLimiter → Gcra ℚ} {entries : Governor.KeyedLimiter → IpAddr → Option ℚ}
    (keeps : Governor.KeepsArrivals quota entries)
    (fresh : ∀ m, quota (Governor.keyed m) = Governor.perMinute m)
    (started : AppState.withPath cfg path = .ok state) {steps : List Step}
    (ordered : (clocks steps).Pairwise (· ≤ ·)) :
    (∀ name n, (∀ config ∈ configurations cfg path steps, Limited name n config) →
      Throttled (Governor.perMinute n) (chargesIn settings state steps name)) ∧
    ∀ m, (∀ config ∈ configurations cfg path steps,
        config.limits.rateLimitPerIpPerMinute = m.val) →
      ∀ ip, Throttled (Governor.perMinute m) (checksFrom ip (checksIn settings state steps)) := by
  constructor
  · intro name n limited
    have metered : Metered name n (run settings state steps).state
        (chargesIn settings state steps name) :=
      metered started fun config member => (limited config member).quotaFor
    apply metered.throttled gcra
    exact ordered.sublist (clocks_chargesDuring settings (Pool.start state) steps name)
  · intro m limits ip
    apply (stored started limits).throttled keeps (fresh m)
    exact ordered.sublist (clocks_checksDuring settings (Pool.start state) steps)

end Step

end

section

open Sample

/-- The algorithm itself for names, and a map from addresses to arrivals. -/
@[reducible] def gauged : Governor where
  DirectLimiter := Governor.reference.DirectLimiter
  direct := Governor.reference.direct
  check := Governor.reference.check
  KeyedLimiter := mapped.KeyedLimiter
  keyed := mapped.keyed
  checkKey := mapped.checkKey
  retainRecent := mapped.retainRecent

local instance gaugedCrates : Crates := { Sample.crates with toGovernor := gauged }

theorem keepsArrivals_gauged : @Governor.KeepsArrivals gauged Prod.fst Prod.snd := by
  rcases keepsArrivals_mapped with
    ⟨keyed, verdict, checked, dropped, retained, quotaChecked, quotaRetained⟩
  exact ⟨keyed, verdict, checked, dropped, retained, quotaChecked, quotaRetained⟩

/-- The state the proxy starts in under `strict`. -/
def gaugedState : AppState where
  lives _ :=
    { auth := ⟨[(reception, receptionHash), (lobby, lobbyHash)], ∅⟩
      upstream := ⟨⟨.webPki, 15000, 10000, false⟩,
        "https://unifi.local/proxy/network/integration/v1", ⟨"controller-key"⟩⟩
      limits := strict.limits
      rate := RateLimits.fromConfig strict
      tokenCount := 2 }
  current := 0
  metrics := {}
  configPath := none

/-- Two listings from one address at once, of which one is allowed a minute. -/
def hasty : List Step :=
  .arrive [] (request "GET" "/proxy/network/integration/v1/sites" receptionKey []) ::
    .arrive [] (request "GET" "/proxy/network/integration/v1/sites" receptionKey []) ::
      (List.replicate 15 (.advance 0 outside) ++ List.replicate 3 (.advance 1 outside))

theorem Step.throttled_exactly_hasty :
    (Governor.perMinute ⟨2, by decide⟩).Conforms
        (readings (chargesOn 0 (chargesIn settings gaugedState hasty "reception"))) ∧
      ¬ (Governor.perMinute ⟨1, by decide⟩).Conforms
        (readings (chargesOn 0
          (checksFrom (.v4 0x0A000007) (checksIn settings gaugedState hasty)))) := by
  have calm : configurations strict none hasty = [strict] := rfl
  have limited : ∀ config ∈ configurations strict none hasty,
      Limited "reception" ⟨2, by decide⟩ config := by
    rw [calm, List.forall_mem_singleton]
    exact ⟨reception, by decide, rfl, by decide, by decide⟩
  have started : AppState.withPath strict none = .ok gaugedState := rfl
  have ordered : (clocks hasty).Pairwise (· ≤ ·) := by decide +kernel
  rcases @throttled_exactly _ _ _ settings strict none gaugedState
    (fun n times => Governor.reference_implementsGcra n times) _ _ keepsArrivals_gauged
    (fun _ => rfl) started hasty ordered with ⟨names, addresses⟩
  constructor
  · apply ((names "reception" ⟨2, by decide⟩ limited).exact 0).mp
    decide +kernel
  · intro conforms
    have granted := ((addresses ⟨1, by decide⟩ (by
      rw [calm, List.forall_mem_singleton]
      rfl) (.v4 0x0A000007)).exact 0).mpr conforms
    exact absurd granted (by decide +kernel)

end

end VoucherProxy
