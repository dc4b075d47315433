import Mathlib.Algebra.BigOperators.Ring.Finset
import VoucherProxy.Foundation.Budget
import VoucherProxy.Isolation
import VoucherProxy.Throttling

namespace VoucherProxy

/-! How often tokens can be tried from one address. Looking a token up that the cache does
not know verifies it against every hash there is, which is expensive; a check of the
address pays for it. -/

section

variable [Crates]

/-- An address that is let in earns one lookup. -/
def admission : Ledger Effect Answer where
  earns effect answer := match effect, answer with
    | .checkIp _ _, granted => granted
    | _, _ => false
  costs
    | .cacheGet _ _ => true
    | _ => false

/-- A presented string that the cache does not know is verified against every hash. -/
def scans : Event Effect Answer → Nat
  | ⟨.cacheGet _ _, none⟩ => 1
  | _ => 0

/-- A check that an address passes. -/
def lets (ip : IpAddr) : Event Effect Answer → Nat
  | ⟨.checkIp _ own, granted⟩ => if own = ip then granted.toNat else 0
  | _ => 0

namespace Guessing

open Program

theorem refuse_pays {request : HttpRequest} (credit : Nat) (token reason : String)
    (error : ProxyError) : (Caller.refuse request token reason error).Pays admission credit := by
  apply Solvent.free_bind rfl
  intro _
  apply Solvent.free_bind rfl
  exact fun _ => pays_pure _ _

theorem authenticate_pays (guard : Guard) (text : String) :
    (guard.authenticate text).Pays admission 1 := by
  unfold Guard.authenticate
  split
  · exact pays_pure _ _
  · refine ⟨le_rfl, fun answer => ?_⟩
    cases answer with
    | some position => exact pays_pure _ _
    | none =>
        cases Authenticator.scan guard.value.auth.tokens text with
        | none => exact pays_pure _ _
        | some position =>
            apply Solvent.free_bind rfl
            exact fun _ => pays_pure _ _

theorem unlessExpired_pays {request : HttpRequest} (guard : Guard) (token : TokenConfig) :
    (Caller.unlessExpired request guard token).Pays admission 0 := by
  unfold Caller.unlessExpired
  split
  · exact pays_pure _ _
  · apply Solvent.free_bind rfl
    intro now
    split
    · exact refuse_pays _ _ _ _
    · exact pays_pure _ _

/-- Behind an address no token is looked up before the address was let in. -/
theorem fromRequestParts_pays {request : HttpRequest} {ip : IpAddr}
    (peer : request.peer = some ip) : (Caller.fromRequestParts request).Pays admission 0 := by
  have admitted : ∀ guard, (Caller.admitPeer request guard).Solvent admission Bool.toNat 0 := by
    intro guard
    rw [Caller.admitPeer, peer]
    exact ⟨Nat.zero_le _, fun granted => (Nat.zero_add _).ge⟩
  apply Solvent.free_bind rfl
  intro guard
  apply (admitted guard).bind
  intro verdict
  cases verdict with
  | false => exact refuse_pays _ _ _ _
  | true =>
      simp only [if_true]
      split
      · exact refuse_pays _ _ _ _
      · next text _ =>
          apply (authenticate_pays guard text).bind
          intro found
          cases found with
          | none => exact refuse_pays _ _ _ _
          | some token => exact unlessExpired_pays guard token

/-- What is done with the rights of a caller looks nothing up. -/
theorem of_acting {α : Type} {program : Call α} {caller : Caller} {history : History}
    (keeps : program.Keeps (acting caller) history) : program.Pays admission 0 := by
  apply keeps.pays
  intro later effect permitted
  cases effect with
  | cacheGet slot key => exact permitted.elim
  | _ => rfl

theorem of_guarded {request : HttpRequest} {program : Call Response} {ip : IpAddr}
    (guarded : Guarded request program) (peer : request.peer = some ip) :
    program.Pays admission 0 := by
  rcases guarded with keeps | ⟨handler, rfl, refused, keeps⟩
  · apply keeps.pays
    rintro history effect ⟨line, rfl⟩
    rfl
  · apply (fromRequestParts_pays peer).bind
    intro result
    cases result with
    | error why =>
        rcases refused why with ⟨response, same⟩
        rw [same]
        exact pays_pure _ _
    | ok caller => exact of_acting (keeps caller)

/-- A request scans no more often than its address is let in. -/
theorem total_scans_le {request : HttpRequest} {program rest : Call Response} {ip : IpAddr}
    (guarded : Guarded request program) (peer : request.peer = some ip) {events : History}
    (trace : program.Trace events rest) : total scans events ≤ total (lets ip) events := by
  have costs : total scans events ≤
      total (fun event => (admission.costs event.effect).toNat) events := by
    apply List.sum_le_sum
    rintro ⟨effect, answer⟩ -
    cases effect with
    | cacheGet slot key =>
        cases answer with
        | none => exact le_rfl
        | some position => exact Nat.zero_le _
    | _ => exact le_rfl
  have earns : total (fun event => (admission.earns event.effect event.answer).toNat) events =
      total (lets ip) events := by
    apply total_congr
    rintro ⟨effect, answer⟩ member
    cases effect with
    | checkIp slot own =>
        rcases List.append_of_mem member with ⟨before, after, place⟩
        have permitted : request.peer = some own :=
          (guarded.personal.along trace).2 before _ after place
        rw [peer, Option.some.injEq] at permitted
        exact (if_pos permitted.symm).symm
    | _ => rfl
  have paid := (of_guarded guarded peer).total_le trace
  rw [earns, Nat.zero_add] at paid
  exact costs.trans paid

end Guessing

/-! ## Runs -/

variable [Framework] [GraphQlEngine]

namespace Step

/-- The scans on behalf of an address in the course of a run. -/
def scansFrom (settings : RouterSettings) (state : AppState) (steps : List Step)
    (ip : IpAddr) : Nat :=
  ∑ index ∈ Finset.range (requests steps).length,
    if ((requests steps)[index]?).bind (·.2.peer) = some ip then
      total scans (history settings state steps index) else 0

/-- What the log shows of an address is how often it was let in. -/
theorem logged_lets (settings : RouterSettings) (state : AppState) (steps : List Step)
    (ip : IpAddr) :
    Pool.logged (lets ip) (run settings state steps).log =
      (checksFrom ip (checksIn settings state steps)).countP TimedCharge.granted := by
  have counted : ∀ events : List (Outside × Event Effect Answer),
      (events.map fun event => lets ip event.2).sum =
        (checksFrom ip (events.filterMap timedCheck?)).countP TimedCharge.granted := by
    intro events
    rw [checksFrom, List.countP_map, List.countP_filter]
    induction events with
    | nil => rfl
    | cons first events induction =>
        rcases first with ⟨outside, effect, answer⟩
        rw [List.map_cons, List.sum_cons, induction]
        cases effect with
        | checkIp slot own =>
            have checked : timedCheck? (outside, ⟨.checkIp slot own, answer⟩) =
                some ⟨own, slot, outside.clock, answer⟩ := rfl
            rw [List.filterMap_cons_some checked, List.countP_cons, Nat.add_comm, lets]
            by_cases same : own = ip <;> cases answer <;> simp [same]
        | _ => exact Nat.zero_add _
  have logged := Pool.logged_timeline server (lets ip) (Pool.start state)
    (steps.map (turn settings))
  rw [counted] at logged
  exact logged.trans (Nat.zero_add _)

variable {settings : RouterSettings} {cfg : Config} {path : Option String} {state : AppState}

/-- No address makes the proxy scan more often than it was let in. -/
theorem scansFrom_le (steps : List Step) (ip : IpAddr) :
    scansFrom settings state steps ip ≤
      (checksFrom ip (checksIn settings state steps)).countP TimedCharge.granted := by
  have owners : ∀ index, (requests steps).length ≤ index →
      Pool.eventsOf index (run settings state steps).log = [] := fun index beyond =>
    history_eq_nil beyond
  rw [← logged_lets, Pool.logged_eq_sum _ owners, scansFrom]
  apply Finset.sum_le_sum
  intro index member
  rcases arrived_of_mem_range member with ⟨schedule, request, arrived⟩
  rw [arrived, Option.bind_some]
  split
  · next peer =>
      rcases events_trace settings state arrived with ⟨rest, trace⟩
      exact Guessing.total_scans_le (Guarded.serve settings schedule) peer trace
  · exact Nat.zero_le _

/-- As many slots are in use as configurations have been in force. -/
theorem current_lt_configurations (started : AppState.withPath cfg path = .ok state)
    (steps : List Step) :
    (run settings state steps).state.current < (configurations cfg path steps).length := by
  have current : (run settings state steps).state.current =
      (acceptedIn path (run settings state steps).log).length :=
    (Snapshots.run started (steps.map (turn settings))).current
  rw [current, acceptedIn, moves_run, configurations, List.length_cons]
  exact Nat.lt_succ_self _

omit [Crates] [Framework] [GraphQlEngine] in
/-- What is charged on the slots in use is all that is charged. -/
theorem countP_eq_sum {charges : List TimedCharge} {slots : Nat}
    (placed : ∀ charge ∈ charges, charge.slot < slots) :
    charges.countP TimedCharge.granted =
      ∑ slot ∈ Finset.range slots, (chargesOn slot charges).countP TimedCharge.granted := by
  induction charges with
  | nil => simp [chargesOn]
  | cons charge charges induction =>
      rw [List.forall_mem_cons] at placed
      have split : ∀ slot, (chargesOn slot (charge :: charges)).countP TimedCharge.granted =
          (chargesOn slot charges).countP TimedCharge.granted +
            if charge.slot = slot then charge.granted.toNat else 0 := by
        intro slot
        by_cases own : charge.slot = slot
        · cases verdict : charge.granted <;> simp [chargesOn, own, verdict]
        · simp [chargesOn, own]
      have own : charge.slot ∈ Finset.range slots := Finset.mem_range.mpr placed.1
      rw [Finset.sum_congr rfl fun slot _ => split slot, Finset.sum_add_distrib,
        Finset.sum_ite_eq, if_pos own, ← induction placed.2, List.countP_cons]
      cases charge.granted <;> rfl

section

variable {quota : Governor.KeyedLimiter → Gcra ℚ}
  {entries : Governor.KeyedLimiter → IpAddr → Option ℚ} {m : NonZeroU32}
  {early middle : List Step}

omit [Framework] [GraphQlEngine] in
theorem quota_after (keeps : Governor.KeepsArrivals quota entries)
    (keyed : Governor.KeyedLimiter × UInt32) (calls : List (IpAddr × Nat)) :
    quota (after RateLimits.chargeKeyed keyed calls).1 = quota keyed.1 := by
  induction calls using List.reverseRecOn with
  | nil => rfl
  | append_singleton calls call induction =>
      rw [after_snoc]
      exact ((RateLimits.keeps_chargeKeyed keeps).quota_check _ _).trans induction

omit [Crates] [Framework] [GraphQlEngine] in
theorem readings_checksFrom (ip : IpAddr) (checks : List TimedCheck) :
    readings (checksFrom ip checks) = ((checks.filter fun check => check.ip = ip).map
      fun check => check.charge.clock).map (Nat.cast : Nat → ℚ) := by
  rw [readings, checksFrom, List.map_map, List.map_map]
  rfl

/-- On one `Live` an address is let in no more often within some time than its limit and
what is refilled meanwhile. -/
theorem lets_on_le (keeps : Governor.KeepsArrivals quota entries)
    (fresh : quota (Governor.keyed m) = Governor.perMinute m)
    (started : AppState.withPath cfg path = .ok state)
    (limits : ∀ config ∈ configurations cfg path (early ++ middle),
      config.limits.rateLimitPerIpPerMinute = m.val)
    (ordered : (clocks (early ++ middle)).Pairwise (· ≤ ·)) {seconds : ℚ} (nonneg : 0 ≤ seconds)
    (within : Within seconds middle) (ip : IpAddr) (slot : Nat) :
    ((chargesOn slot (checksFrom ip (checksDuring settings (run settings state early)
      middle))).countP TimedCharge.granted : ℚ) ≤ m.val.toNat + m.val.toNat * seconds / 60 := by
  rcases within with ⟨first, within⟩
  have late : (clocks middle).Pairwise (· ≤ ·) := by
    rw [clocks, List.filterMap_append] at ordered
    exact (List.pairwise_append.mp ordered).2.1
  have whole := (@stored _ _ _ settings _ _ _ started _ _ limits).verdicts slot
  rw [checksIn_append, checksOn, List.filter_append, List.map_append, List.map_append,
    verdicts_append] at whole
  have answered := (List.append_inj whole (by simp [length_verdicts])).2
  have clocked : ((checksOn slot (checksDuring settings (run settings state early) middle)).map
      fun check => check.charge.clock).Sublist (clocks middle) :=
    (List.filter_sublist.map _).trans (clocks_checksDuring settings _ middle)
  have own := verdicts_checksFrom keeps answered (late.sublist clocked) ip
  rw [quota_after keeps, fresh] at own
  have times : (readings (checksFrom ip (checksOn slot (checksDuring settings
      (run settings state early) middle)))).Sublist ((clocks middle).map (Nat.cast : Nat → ℚ)) := by
    rw [readings_checksFrom]
    exact ((List.filter_sublist.map _).trans clocked).map _
  have bound := fun arrival => (Governor.perMinute m).admitted_le_window arrival
    ((RateLimits.pairwise_cast late).sublist times)
    (le_add_of_nonneg_right (mul_nonneg nonneg (by norm_num : (0 : ℚ) ≤ 1000000000))) (by
      intro time member
      rcases List.mem_map.mp (times.subset member) with ⟨clock, present, rfl⟩
      exact ⟨Nat.cast_le.mpr (within clock present).1, (within clock present).2⟩)
  have counted : ∀ charges : List TimedCharge, charges.countP TimedCharge.granted =
      (charges.map TimedCharge.granted).count true := by
    intro charges
    rw [List.count, List.countP_map]
    exact List.countP_congr fun charge _ => by simp
  rw [chargesOn_checksFrom, counted]
  change ((List.map _ (checksFrom ip (List.filter _ _))).count true : ℚ) ≤ _
  rw [own]
  refine (bound _).trans (le_of_eq ?_)
  have positive : (m.val.toNat : ℚ) ≠ 0 := Nat.cast_ne_zero.mpr m.toNat_pos.ne'
  simp only [Governor.perMinute]
  field_simp
  ring

/-- At no time of any run has an address made the proxy verify a token more often than it
was let in. Within some time it is let in, for each configuration that has been in force,
no more often than its limit and what is refilled meanwhile. -/
theorem guesses_bounded (keeps : Governor.KeepsArrivals quota entries)
    (fresh : quota (Governor.keyed m) = Governor.perMinute m)
    (started : AppState.withPath cfg path = .ok state)
    (limits : ∀ config ∈ configurations cfg path (early ++ middle),
      config.limits.rateLimitPerIpPerMinute = m.val)
    (ordered : (clocks (early ++ middle)).Pairwise (· ≤ ·)) {seconds : ℚ} (nonneg : 0 ≤ seconds)
    (within : Within seconds middle) (ip : IpAddr) :
    scansFrom settings state (early ++ middle) ip ≤
        (checksFrom ip (checksIn settings state early)).countP TimedCharge.granted +
          (checksFrom ip (checksDuring settings (run settings state early) middle)).countP
            TimedCharge.granted ∧
      ((checksFrom ip (checksDuring settings (run settings state early) middle)).countP
          TimedCharge.granted : ℚ) ≤
        (configurations cfg path (early ++ middle)).length *
          (m.val.toNat + m.val.toNat * seconds / 60) := by
  constructor
  · have paid : scansFrom settings state (early ++ middle) ip ≤ _ := scansFrom_le _ ip
    rwa [checksIn_append, checksFrom, List.filter_append, List.map_append, List.countP_append]
      at paid
  have stored := @stored _ _ _ settings _ _ _ started _ _ limits
  have placed : ∀ charge ∈ checksFrom ip (checksDuring settings (run settings state early) middle),
      charge.slot < (configurations cfg path (early ++ middle)).length := by
    intro charge member
    rcases List.mem_map.mp member with ⟨check, present, rfl⟩
    have inRun : check ∈ checksIn settings state (early ++ middle) := by
      rw [checksIn_append]
      exact List.mem_append_right _ (List.mem_of_mem_filter present)
    exact (stored.placed check inRun).trans_lt (current_lt_configurations started _)
  rw [countP_eq_sum placed, Nat.cast_sum]
  calc ∑ slot ∈ Finset.range (configurations cfg path (early ++ middle)).length,
        ((chargesOn slot (checksFrom ip (checksDuring settings (run settings state early)
          middle))).countP TimedCharge.granted : ℚ)
      ≤ ∑ _slot ∈ Finset.range (configurations cfg path (early ++ middle)).length,
          (m.val.toNat + m.val.toNat * seconds / 60 : ℚ) :=
        Finset.sum_le_sum fun slot _ =>
          lets_on_le keeps fresh started limits ordered nonneg within ip slot
    _ = _ := by rw [Finset.sum_const, Finset.card_range, nsmul_eq_mul]

end

end Step

end

section

open Sample

attribute [local instance] gaugedCrates

/-- At once the address is let in once, and scans once, of two attempts. -/
theorem Step.guesses_bounded_hasty :
    scansFrom settings gaugedState ([] ++ hasty) (.v4 0x0A000007) ≤
        (checksFrom (.v4 0x0A000007) (checksIn settings gaugedState [])).countP
            TimedCharge.granted +
          (checksFrom (.v4 0x0A000007) (checksDuring settings (run settings gaugedState [])
            hasty)).countP TimedCharge.granted ∧
      ((checksFrom (.v4 0x0A000007) (checksDuring settings (run settings gaugedState [])
          hasty)).countP TimedCharge.granted : ℚ) ≤
        (configurations strict none ([] ++ hasty)).length *
          ((1 : UInt32).toNat + (1 : UInt32).toNat * 0 / 60) := by
  have started : AppState.withPath strict none = .ok gaugedState := rfl
  have calm : configurations strict none ([] ++ hasty) = [strict] := rfl
  have limits : ∀ config ∈ configurations strict none ([] ++ hasty),
      config.limits.rateLimitPerIpPerMinute = (⟨1, by decide⟩ : NonZeroU32).val := by
    rw [calm, List.forall_mem_singleton]
    rfl
  exact guesses_bounded keepsArrivals_gauged rfl started limits (by decide +kernel) le_rfl
    ⟨0, by decide +kernel⟩ _

end

end VoucherProxy
