import VoucherProxy.Foundation.Keyed
import VoucherProxy.Sample

namespace VoucherProxy

/-! The sweeping of the per-address store: when it happens, how far the store grows
between, and that no caller can tell. -/

section

variable [Governor]

/-- What is documented of the keyed limiter: the generic cell rate algorithm for each
address, an entry for each one checked, and a sweep that drops exactly the entries as
good as fresh. -/
structure Governor.KeepsArrivals (quota : Governor.KeyedLimiter → Gcra ℚ)
    (entries : Governor.KeyedLimiter → IpAddr → Option ℚ) : Prop where
  keyed : ∀ n ip, entries (Governor.keyed n) ip = none
  verdict : ∀ limiter ip (now : Nat), (Governor.checkKey limiter ip now).1 =
    ((quota limiter).check (entries limiter ip) now).1
  checked : ∀ limiter ip (now : Nat), entries (Governor.checkKey limiter ip now).2 =
    Function.update (entries limiter) ip ((quota limiter).check (entries limiter ip) now).2
  dropped : ∀ limiter ip (now : Nat), Gcra.SameFrom (now : ℚ) (entries limiter ip) none →
    entries (Governor.retainRecent limiter now) ip = none
  retained : ∀ limiter ip (now : Nat), ¬ Gcra.SameFrom (now : ℚ) (entries limiter ip) none →
    entries (Governor.retainRecent limiter now) ip = entries limiter ip
  quota_checkKey : ∀ limiter ip now,
    quota (Governor.checkKey limiter ip now).2 = quota limiter
  quota_retainRecent : ∀ limiter now, quota (Governor.retainRecent limiter now) = quota limiter

namespace RateLimits

/-- A call from an address at some time. -/
def charge (rate : RateLimits) (call : IpAddr × Nat) : Bool × RateLimits :=
  rate.checkIp call.1 call.2

/-- The next call sweeps the store before it is answered. -/
def Sweeps (rate : RateLimits) : Prop :=
  rate.perIp.isSome ∧ rate.sweep % sweepEvery = sweepEvery - 1

instance (rate : RateLimits) : Decidable rate.Sweeps := inferInstanceAs (Decidable (_ ∧ _))

/-! ## When it happens -/

omit [Governor] in
theorem due_iff (counter : UInt32) :
    counter % sweepEvery = sweepEvery - 1 ↔ counter.toNat % 1024 = 1023 := by
  rw [← UInt32.toNat_inj, UInt32.toNat_mod]
  have every : sweepEvery.toNat = 1024 ∧ (sweepEvery - 1).toNat = 1023 := by decide
  rw [every.1, every.2]

/-- The limiter as a call finds it, which may be swept first. -/
def swept (limiter : Governor.KeyedLimiter) (counter : UInt32) (now : Nat) :
    Governor.KeyedLimiter :=
  if counter % sweepEvery = sweepEvery - 1 then Governor.retainRecent limiter now else limiter

theorem charge_of_some {rate : RateLimits} {limiter : Governor.KeyedLimiter}
    (limited : rate.perIp = some limiter) (call : IpAddr × Nat) :
    rate.charge call =
      ((Governor.checkKey (swept limiter rate.sweep call.2) call.1 call.2).1,
        { rate with
          perIp := some (Governor.checkKey (swept limiter rate.sweep call.2) call.1 call.2).2
          sweep := rate.sweep + 1 }) := by
  rw [charge, checkIp, limited]
  rfl

theorem charge_of_none {rate : RateLimits} (unlimited : rate.perIp = none)
    (call : IpAddr × Nat) : rate.charge call = (true, rate) := by
  rw [charge, checkIp, unlimited]

section

variable (entries : Governor.KeyedLimiter → IpAddr → Option ℚ)

def entriesOf (rate : RateLimits) (ip : IpAddr) : Option ℚ :=
  rate.perIp.bind fun limiter => entries limiter ip

/-- The addresses that the store has an entry for. -/
def held (rate : RateLimits) : Set IpAddr := {ip | (rate.entriesOf entries ip).isSome}

/-- Those whose entries are not as good as fresh at some time. -/
def unexpired (rate : RateLimits) (now : Nat) : Set IpAddr :=
  {ip | ¬ Gcra.SameFrom (now : ℚ) (rate.entriesOf entries ip) none}

/-- The addresses that were left by the last sweep of a run, and those given when it
makes none. -/
def keptBy (rate : RateLimits) (kept : Set IpAddr) : List (IpAddr × Nat) → Set IpAddr
  | [] => kept
  | call :: later =>
      (rate.charge call).2.keptBy (if rate.Sweeps then rate.unexpired entries call.2 else kept)
        later

/-- Beyond what the last sweep left there are no more addresses than calls since. -/
structure Bounded (rate : RateLimits) (kept : Set IpAddr) : Prop where
  finite : kept.Finite
  beyond : ∃ fresh : Finset IpAddr, fresh.card ≤ rate.sweep.toNat % 1024 + 1 ∧
    rate.held entries ⊆ kept ∪ fresh

variable {entries} {rate : RateLimits} {kept : Set IpAddr}

theorem unexpired_subset_held (now : Nat) : rate.unexpired entries now ⊆ rate.held entries := by
  intro ip unexpired
  rw [held, Set.mem_ofPred_eq, ← Option.ne_none_iff_isSome]
  intro none
  apply unexpired
  rw [none]
  exact Gcra.SameFrom.refl _ _

theorem Bounded.held_finite (bounded : rate.Bounded entries kept) :
    (rate.held entries).Finite := by
  rcases bounded.beyond with ⟨fresh, -, within⟩
  exact (bounded.finite.union fresh.finite_toSet).subset within

variable {quota : Governor.KeyedLimiter → Gcra ℚ}

/-- What an address has after another's call it had before, and was not swept away. -/
theorem entries_charge_of_ne (keeps : Governor.KeepsArrivals quota entries)
    {limiter : Governor.KeyedLimiter} (limited : rate.perIp = some limiter)
    {call : IpAddr × Nat} {ip : IpAddr} (other : ip ≠ call.1) :
    (rate.charge call).2.entriesOf entries ip = entries (swept limiter rate.sweep call.2) ip := by
  rw [charge_of_some limited, entriesOf, Option.bind_some, keeps.checked,
    Function.update_of_ne other]

theorem Bounded.charge (keeps : Governor.KeepsArrivals quota entries)
    (bounded : rate.Bounded entries kept) (call : IpAddr × Nat) :
    (rate.charge call).2.Bounded entries
      (if rate.Sweeps then rate.unexpired entries call.2 else kept) := by
  cases limited : rate.perIp with
  | none =>
      rw [charge_of_none limited, if_neg fun sweeps => by simp [Sweeps, limited] at sweeps]
      exact bounded
  | some limiter =>
      have counter : (rate.charge call).2.sweep = rate.sweep + 1 := by
        rw [charge_of_some limited]
      by_cases sweeps : rate.Sweeps
      · rw [if_pos sweeps]
        refine ⟨bounded.held_finite.subset (unexpired_subset_held _), {call.1}, by simp, ?_⟩
        intro ip isHeld
        by_cases own : ip = call.1
        · exact .inr (by simp [own])
        · left
          intro expired
          rw [entriesOf, limited] at expired
          rw [held, Set.mem_ofPred_eq, entries_charge_of_ne keeps limited own, swept,
            if_pos sweeps.2, keeps.dropped limiter ip call.2 expired] at isHeld
          cases isHeld
      · rcases bounded.beyond with ⟨fresh, few, within⟩
        have unswept : ¬ rate.sweep % sweepEvery = sweepEvery - 1 := fun due =>
          sweeps ⟨by rw [limited]; rfl, due⟩
        rw [if_neg sweeps]
        refine ⟨bounded.finite, insert call.1 fresh, ?_, ?_⟩
        · have more := Finset.card_insert_le call.1 fresh
          have one : (1 : UInt32).toNat = 1 := rfl
          rw [due_iff] at unswept
          rw [counter, UInt32.toNat_add, one]
          omega
        · intro ip isHeld
          by_cases own : ip = call.1
          · exact .inr (by simp [own])
          · rw [held, Set.mem_ofPred_eq, entries_charge_of_ne keeps limited own, swept,
              if_neg unswept] at isHeld
            have before : ip ∈ rate.held entries := by
              rw [held, Set.mem_ofPred_eq, entriesOf, limited]
              exact isHeld
            rcases within before with left | recent
            · exact .inl left
            · exact .inr (by simp [Finset.mem_coe.mp recent])

/-- Over a whole run the store stays bounded. -/
theorem Bounded.after (keeps : Governor.KeepsArrivals quota entries)
    (bounded : rate.Bounded entries kept) (calls : List (IpAddr × Nat)) :
    (after RateLimits.charge rate calls).Bounded entries (rate.keptBy entries kept calls) := by
  induction calls generalizing rate kept with
  | nil => exact bounded
  | cons call later induction => exact induction (bounded.charge keeps call)

end

/-! ## That it cannot be told -/

section

variable {quota : Governor.KeyedLimiter → Gcra ℚ}
  {entries : Governor.KeyedLimiter → IpAddr → Option ℚ}

theorem sameFrom_swept (keeps : Governor.KeepsArrivals quota entries)
    (limiter : Governor.KeyedLimiter) (counter : UInt32) (now : Nat) (ip : IpAddr) :
    Gcra.SameFrom (now : ℚ) (entries (swept limiter counter now) ip) (entries limiter ip) := by
  rw [swept]
  split
  · by_cases fresh : Gcra.SameFrom (now : ℚ) (entries limiter ip) none
    · rw [keeps.dropped limiter ip now fresh]
      exact fresh.symm
    · rw [keeps.retained limiter ip now fresh]
      exact Gcra.SameFrom.refl _ _
  · exact Gcra.SameFrom.refl _ _

theorem quota_swept (keeps : Governor.KeepsArrivals quota entries)
    (limiter : Governor.KeyedLimiter) (counter : UInt32) (now : Nat) :
    quota (swept limiter counter now) = quota limiter := by
  rw [swept]
  split
  · exact keeps.quota_retainRecent limiter now
  · rfl

/-- The limiter and the counter, as `checkIp` moves them on. -/
def chargeKeyed (state : Governor.KeyedLimiter × UInt32) (call : IpAddr × Nat) :
    Bool × (Governor.KeyedLimiter × UInt32) :=
  let outcome := Governor.checkKey (swept state.1 state.2 call.2) call.1 call.2
  (outcome.1, (outcome.2, state.2 + 1))

/-- The time of a call, as the algorithm reads it. -/
def reading (call : IpAddr × Nat) : ℚ := call.2

theorem keeps_chargeKeyed (keeps : Governor.KeepsArrivals quota entries) :
    Gcra.Keeps Prod.fst reading (fun state : Governor.KeyedLimiter × UInt32 => quota state.1)
      (fun state => entries state.1) chargeKeyed where
  quota_check state call := (keeps.quota_checkKey _ _ _).trans (quota_swept keeps _ _ _)
  verdict state call := by
    have same := (sameFrom_swept keeps state.1 state.2 call.2 call.1).check (quota state.1)
    rw [chargeKeyed, keeps.verdict, quota_swept keeps]
    exact same.1
  own state call := by
    have same := (sameFrom_swept keeps state.1 state.2 call.2 call.1).check (quota state.1)
    rw [chargeKeyed, keeps.checked, Function.update_self, quota_swept keeps]
    exact same.2
  other state call other different := by
    rw [chargeKeyed, keeps.checked, Function.update_of_ne different]
    exact sameFrom_swept keeps _ _ _ _

/-- The state whose store and counter are these. -/
def placed (rate : RateLimits) (state : Governor.KeyedLimiter × UInt32) : RateLimits :=
  { rate with perIp := some state.1, sweep := state.2 }

variable (rate : RateLimits) {calls : List (IpAddr × Nat)}

end

end RateLimits

end

section

/-- A governor whose store is a map from addresses to arrivals. -/
local instance mapped : Governor where
  DirectLimiter := Unit
  direct _ := ()
  check _ _ := (true, ())
  KeyedLimiter := Gcra ℚ × (IpAddr → Option ℚ)
  keyed n := (Governor.perMinute n, fun _ => none)
  checkKey limiter ip now :=
    let outcome := limiter.1.check (limiter.2 ip) now
    (outcome.1, limiter.1, Function.update limiter.2 ip outcome.2)
  retainRecent limiter now := (limiter.1, fun ip => (limiter.2 ip).filter ((now : ℚ) < ·))

theorem keepsArrivals_mapped : Governor.KeepsArrivals Prod.fst Prod.snd where
  keyed _ _ := rfl
  verdict _ _ _ := rfl
  checked _ _ _ := rfl
  dropped limiter ip now fresh := by
    have past : ∀ arrival, limiter.2 ip = some arrival → ¬ (now : ℚ) < arrival := by
      intro arrival kept
      rw [kept, Gcra.sameFrom_none_iff] at fresh
      exact fresh.not_gt
    exact Option.filter_eq_none_iff.mpr fun arrival kept => by simp [past arrival kept]
  retained limiter ip now other := by
    cases kept : limiter.2 ip with
    | none =>
        rw [kept] at other
        exact absurd (Gcra.SameFrom.refl _ _) other
    | some arrival =>
        rw [kept, Gcra.sameFrom_none_iff, not_le] at other
        exact (congrArg (Option.filter _) kept).trans (Option.filter_some_pos (by simpa using other))
  quota_checkKey _ _ _ := rfl
  quota_retainRecent _ _ := rfl

/-- One call a minute from each address. -/
def strict : Config :=
  { Sample.cfg with limits := { Sample.cfg.limits with rateLimitPerIpPerMinute := 1 } }

end

end VoucherProxy
