import VoucherProxy.RateLimit

namespace VoucherProxy

/-! # What a token's budget bounds

Over every schedule of calls, against the configuration: a token may only
tighten the global rate, and no entry spends the budget of another. -/

namespace RateLimits

theorem pairwise_cast {times : List Nat} (ordered : times.Pairwise (· ≤ ·)) :
    (times.map (Nat.cast : Nat → ℚ)).Pairwise (· ≤ ·) :=
  ordered.map _ fun _ _ order => by exact_mod_cast order

section Tightening

variable [governor : Governor]

theorem admitted_direct (gcra : governor.ImplementsGcra) (n : NonZeroU32)
    {times : List Nat} (ordered : times.Pairwise (· ≤ ·)) :
    admitted governor.check (governor.direct n) times =
      admitted (Governor.perMinute n).check none (times.map (Nat.cast : Nat → ℚ)) := by
  rw [admitted, gcra n times ordered, admitted]

/-- A lower rate admits no more calls than a higher one. -/
theorem admitted_direct_le (gcra : governor.ImplementsGcra) {slow fast : NonZeroU32}
    (order : slow.val ≤ fast.val) {times : List Nat} (ordered : times.Pairwise (· ≤ ·)) :
    admitted governor.check (governor.direct slow) times ≤
      admitted governor.check (governor.direct fast) times := by
  have bursts : slow.val.toNat ≤ fast.val.toNat := UInt32.le_iff_toNat_le.mp order
  have slowPositive : (0 : ℚ) < slow.val.toNat := by
    exact_mod_cast slow.toNat_pos
  rw [admitted_direct gcra slow ordered, admitted_direct gcra fast ordered]
  apply Gcra.admitted_le _ _ bursts _ (pairwise_cast ordered)
  apply div_le_div_of_nonneg_left (by norm_num) slowPositive
  exact_mod_cast bursts

/-- At one instant a fresh limiter admits its rate and nothing more. -/
theorem admitted_direct_replicate (gcra : governor.ImplementsGcra) (n : NonZeroU32)
    (calls now : Nat) :
    admitted governor.check (governor.direct n) (List.replicate calls now) =
      min calls n.val.toNat := by
  have ordered : (List.replicate calls now).Pairwise (· ≤ ·) :=
    List.pairwise_replicate.mpr (.inr le_rfl)
  rw [admitted_direct gcra n ordered, List.map_replicate]
  exact (Governor.perMinute n).admitted_burst calls now

/-! ## A token may tighten the global rate, never raise it -/

/-- On every schedule the entry is admitted no more often than by a limiter
with the global rate, or by one with the nonzero rate the entry sets itself. -/
def OnlyTightens (cfg : Config) (global : NonZeroU32) (entry : Fin cfg.tokens.length) :
    Prop :=
  ∀ schedule : List (Fin cfg.tokens.length × Nat),
    (schedule.map Prod.snd).Pairwise (· ≤ ·) →
      let granted := (verdictsFor cfg.token entry (fromConfig cfg) schedule).count true
      granted ≤ admitted governor.check (governor.direct global) (timesOf entry schedule) ∧
      ∀ own : NonZeroU32, (cfg.token entry).rateLimitPerMinute = some own.val →
        granted ≤ admitted governor.check (governor.direct own) (timesOf entry schedule)

/-- With names of their own, entries are alone with their limiters. -/
theorem verdictsFor_of_nodup {cfg : Config}
    (distinct : (cfg.tokens.map (·.name)).Nodup) (entry : Fin cfg.tokens.length)
    (schedule : List (Fin cfg.tokens.length × Nat)) :
    verdictsFor cfg.token entry (fromConfig cfg) schedule =
      ownVerdicts ((NonZeroU32.new
        ((cfg.token entry).effectiveRateLimit cfg.limits)).map governor.direct)
        (timesOf entry schedule) := by
  rw [verdictsFor_eq _ _ _ (fun call _ same => Config.token_inj_of_nodup distinct same),
    lookup_fromConfig, quotaFor_of_unique cfg.limits (cfg.token_mem entry)]
  intro other member same
  rcases List.mem_iff_get.mp member with ⟨position, rfl⟩
  exact congrArg cfg.token (Config.token_inj_of_nodup distinct same)

/-- A rate of zero of its own makes a token unlimited, whatever the global rate. -/
theorem not_onlyTightens_of_zero (gcra : governor.ImplementsGcra) {cfg : Config}
    {global : NonZeroU32} (isGlobal : cfg.limits.rateLimitPerMinute = global.val)
    (distinct : (cfg.tokens.map (·.name)).Nodup) {entry : Fin cfg.tokens.length}
    (zero : (cfg.token entry).rateLimitPerMinute = some 0) :
    ¬ OnlyTightens cfg global entry := by
  intro tightens
  have globalNonzero : cfg.limits.rateLimitPerMinute ≠ 0 := by
    rw [isGlobal]
    exact global.property
  have unlimited : (cfg.token entry).effectiveRateLimit cfg.limits = 0 := by
    rw [TokenConfig.effectiveRateLimit_of_some zero globalNonzero]
    exact UInt32.toNat_inj.mp (by simp [TokenConfig.toNat_min_uint32])
  have flood := (tightens (List.replicate (global.val.toNat + 1) (entry, 0))
    (by simp [List.pairwise_replicate])).1
  rw [verdictsFor_of_nodup distinct, unlimited, timesOf_replicate,
    admitted_direct_replicate gcra] at flood
  simp [ownVerdicts] at flood

/-- A token tightens the global rate exactly when it does not set its own rate
to zero. -/
theorem onlyTightens_iff (gcra : governor.ImplementsGcra) (cfg : Config)
    (global : NonZeroU32) (isGlobal : cfg.limits.rateLimitPerMinute = global.val)
    (distinct : (cfg.tokens.map (·.name)).Nodup) (entry : Fin cfg.tokens.length) :
    OnlyTightens cfg global entry ↔ (cfg.token entry).rateLimitPerMinute ≠ some 0 := by
  constructor
  · intro tightens zero
    exact not_onlyTightens_of_zero gcra isGlobal distinct zero tightens
  · intro nonzero schedule ordered
    have globalNonzero : cfg.limits.rateLimitPerMinute ≠ 0 := by
      rw [isGlobal]
      exact global.property
    have times := timesOf_pairwise entry ordered
    rw [verdictsFor_of_nodup distinct]
    cases own : (cfg.token entry).rateLimitPerMinute with
    | none =>
        rw [TokenConfig.effectiveRateLimit_of_none _ own, isGlobal,
          NonZeroU32.new_of_ne global.property]
        exact ⟨le_rfl, by simp⟩
    | some rate =>
        have rateNonzero : rate ≠ 0 := fun zero => nonzero (by rw [own, zero])
        have least := TokenConfig.toNat_min_uint32 rate global.val
        have minNonzero : min rate global.val ≠ 0 := by
          intro zero
          rw [zero] at least
          have ratePositive := NonZeroU32.toNat_pos ⟨rate, rateNonzero⟩
          have globalPositive := global.toNat_pos
          simp only [UInt32.toNat_zero] at least ratePositive
          omega
        rw [TokenConfig.effectiveRateLimit_of_some own globalNonzero, isGlobal,
          NonZeroU32.new_of_ne minNonzero]
        refine ⟨admitted_direct_le gcra ?_ times, ?_⟩
        · rw [UInt32.le_iff_toNat_le, least]
          exact Nat.min_le_right _ _
        · intro chosen same
          simp only [Option.some.injEq] at same
          apply admitted_direct_le gcra _ times
          rw [UInt32.le_iff_toNat_le, least, same]
          exact Nat.min_le_left _ _

end Tightening

/-- One device with a rate of its own, under a global rate of one a minute. -/
def oneDevice (rate : Option UInt32) : Config where
  controller := { host := "192.168.1.1", apiKey := ⟨"k"⟩ }
  limits := { rateLimitPerMinute := 1 }
  tokens := [{ name := "phone", hash := "$argon2id$v=19$m=1,t=1,p=1$c2FsdA$aGFzaA",
               rateLimitPerMinute := rate }]

def oneDeviceGlobal : NonZeroU32 := ⟨1, by decide⟩

theorem onlyTightens_iff_oneDevice :
    @OnlyTightens Governor.reference (oneDevice (some 5)) oneDeviceGlobal ⟨0, by decide⟩ ↔
      ((oneDevice (some 5)).token ⟨0, by decide⟩).rateLimitPerMinute ≠ some 0 :=
  @onlyTightens_iff Governor.reference Governor.reference_implementsGcra
    (oneDevice (some 5)) oneDeviceGlobal rfl (by decide) ⟨0, by decide⟩

/-- The configuration is accepted, and its token outruns the global rate. -/
theorem zero_rate_outruns_global :
    (oneDevice (some 0)).validate = .ok () ∧
      ¬ @OnlyTightens Governor.reference (oneDevice (some 0)) oneDeviceGlobal
        ⟨0, by decide⟩ :=
  ⟨rfl, @not_onlyTightens_of_zero Governor.reference Governor.reference_implementsGcra
    (oneDevice (some 0)) oneDeviceGlobal rfl (by decide) ⟨0, by decide⟩ rfl⟩

/-! ## No entry spends the budget of another -/

section Isolation

variable [governor : Governor]

/-- Whatever `other` does meanwhile, `entry` receives the verdicts it would
receive alone, and they are those of a limiter with its own effective quota. -/
def Isolated (cfg : Config) (entry other : Fin cfg.tokens.length) : Prop :=
  ∀ schedule : List (Fin cfg.tokens.length × Nat),
    (∀ call ∈ schedule, call.1 = entry ∨ call.1 = other) →
      verdictsFor cfg.token entry (fromConfig cfg) schedule =
        verdictsFor cfg.token entry (fromConfig cfg)
          (schedule.filter fun call => call.1 = entry) ∧
      verdictsFor cfg.token entry (fromConfig cfg) schedule =
        ownVerdicts ((NonZeroU32.new
          ((cfg.token entry).effectiveRateLimit cfg.limits)).map governor.direct)
          (timesOf entry schedule)

/-- Limiters with different quotas can be told apart by a burst. -/
theorem quota_eq_of_verdicts (gcra : governor.ImplementsGcra) {left right : Option NonZeroU32}
    (same : ∀ calls, ownVerdicts (left.map governor.direct) (List.replicate calls 0) =
      ownVerdicts (right.map governor.direct) (List.replicate calls 0)) : left = right := by
  have limited : ∀ (n : NonZeroU32) (calls : Nat),
      (ownVerdicts ((some n).map governor.direct) (List.replicate calls 0)).count true =
        min calls n.val.toNat := fun n calls => admitted_direct_replicate gcra n calls 0
  have unlimited : ∀ calls : Nat,
      (ownVerdicts ((none : Option NonZeroU32).map governor.direct)
        (List.replicate calls 0)).count true = calls := by
    simp [ownVerdicts]
  have counts := fun calls => congrArg (List.count true) (same calls)
  cases left with
  | none =>
      cases right with
      | none => rfl
      | some n =>
          have beyond := counts (n.val.toNat + 1)
          rw [unlimited, limited] at beyond
          omega
  | some n =>
      cases right with
      | none =>
          have beyond := counts (n.val.toNat + 1)
          rw [unlimited, limited] at beyond
          omega
      | some m =>
          have beyond := counts (n.val.toNat + m.val.toNat)
          rw [limited, limited] at beyond
          congr 1
          apply Subtype.ext
          apply UInt32.toNat_inj.mp
          omega

/-- After a burst of `n` calls at one instant the limiter refuses the next. -/
theorem refused_after_burst (gcra : governor.ImplementsGcra) (n : NonZeroU32) (now : Nat) :
    (governor.check (after governor.check (governor.direct n)
      (List.replicate n.val.toNat now)) now).1 = false := by
  have total := admitted_direct_replicate gcra n (n.val.toNat + 1) now
  have burst := admitted_direct_replicate gcra n n.val.toNat now
  rw [admitted, List.replicate_succ', verdicts_append, List.count_append] at total
  rw [admitted] at burst
  rw [burst] at total
  cases verdict : (governor.check (after governor.check (governor.direct n)
      (List.replicate n.val.toNat now)) now).1 with
  | false => rfl
  | true => simp [verdict] at total

/-- Entries sharing a name share a limiter, so one can use up what the other
was granted. -/
theorem not_isolated_of_shared (gcra : governor.ImplementsGcra) {cfg : Config}
    {entry other : Fin cfg.tokens.length} (different : other ≠ entry)
    (shared : (cfg.token other).name = (cfg.token entry).name) {n : NonZeroU32}
    (quota : quotaFor cfg.limits cfg.tokens (cfg.token entry).name = some n) :
    ¬ Isolated cfg entry other := by
  intro isolated
  have found : (fromConfig cfg).limiters.lookup (cfg.token entry).name =
      some (governor.direct n) := by
    rw [lookup_fromConfig, quota]
    rfl
  have alone := (isolated (List.replicate n.val.toNat (other, 0) ++ [(entry, 0)]) (by
    intro call member
    rcases List.mem_append.mp member with early | last
    · exact .inr (by rw [List.eq_of_mem_replicate early])
    · exact .inl (by rw [List.mem_singleton.mp last]))).1
  rcases verdictsFor_replicate_append cfg.token different shared n.val.toNat 0
    [(entry, 0)] found with ⟨moved, lookup, same⟩
  have first : (governor.check (governor.direct n) 0).1 = true := by
    have single := admitted_direct_replicate gcra n 1 0
    have positive := n.toNat_pos
    rw [Nat.min_eq_left positive] at single
    cases verdict : (governor.check (governor.direct n) 0).1 with
    | false => simp [admitted, verdict] at single
    | true => rfl
  have filtered : (List.replicate n.val.toNat (other, 0) ++ [(entry, 0)]).filter
      (fun call => call.1 = entry) = [(entry, 0)] := by
    simp [List.filter_append, different]
  rw [same, filtered] at alone
  simp [verdictsFor, check, lookup, found, refused_after_burst gcra n 0, first] at alone

/-- An entry is isolated from another exactly when its name finds its own quota
and it does not share that name, unless it is unlimited. -/
theorem isolated_iff (gcra : governor.ImplementsGcra) (cfg : Config)
    {entry other : Fin cfg.tokens.length} (different : entry ≠ other) :
    Isolated cfg entry other ↔
      quotaFor cfg.limits cfg.tokens (cfg.token entry).name =
        NonZeroU32.new ((cfg.token entry).effectiveRateLimit cfg.limits) ∧
      ((cfg.token entry).name = (cfg.token other).name →
        (cfg.token entry).effectiveRateLimit cfg.limits = 0) := by
  constructor
  · intro isolated
    have own : quotaFor cfg.limits cfg.tokens (cfg.token entry).name =
        NonZeroU32.new ((cfg.token entry).effectiveRateLimit cfg.limits) := by
      apply quota_eq_of_verdicts gcra
      intro calls
      have alone := (isolated (List.replicate calls (entry, 0)) (by
        intro call member
        exact .inl (by rw [List.eq_of_mem_replicate member]))).2
      rw [verdictsFor_eq _ _ _ (fun call member _ => by
        rw [List.eq_of_mem_replicate member]), lookup_fromConfig, timesOf_replicate] at alone
      exact alone
    refine ⟨own, fun shared => ?_⟩
    by_contra limited
    rw [NonZeroU32.new_of_ne limited] at own
    exact not_isolated_of_shared gcra (Ne.symm different) shared.symm own isolated
  · rintro ⟨own, unlimited⟩ schedule callers
    by_cases shared : (cfg.token entry).name = (cfg.token other).name
    · have absent : (fromConfig cfg).limiters.lookup (cfg.token entry).name = none := by
        rw [lookup_fromConfig, own, unlimited shared]
        rfl
      rw [unlimited shared, verdictsFor_of_lookup_none _ _ _ absent,
        verdictsFor_of_lookup_none _ _ _ absent, timesOf_filter]
      exact ⟨rfl, rfl⟩
    · have alone : ∀ call ∈ schedule,
          (cfg.token call.1).name = (cfg.token entry).name → call.1 = entry := by
        intro call member same
        rcases callers call member with isEntry | isOther
        · exact isEntry
        · rw [isOther] at same
          exact absurd same.symm shared
      rw [verdictsFor_eq _ _ _ alone, verdictsFor_eq _ _ _ (fun call member =>
        alone call (List.mem_filter.mp member).1), timesOf_filter, lookup_fromConfig, own]
      exact ⟨rfl, rfl⟩

end Isolation

/-- Two devices under one name, at the default rate. -/
def twoDevices : Config where
  controller := { host := "192.168.1.1", apiKey := ⟨"k"⟩ }
  tokens := [{ name := "phone", hash := "$argon2id$v=19$m=1,t=1,p=1$c2FsdA$aGFzaA" },
             { name := "phone", hash := "$argon2id$v=19$m=1,t=1,p=1$c2FsdA$b3RoZXI" }]

theorem isolated_iff_twoDevices :
    @Isolated Governor.reference twoDevices ⟨0, by decide⟩ ⟨1, by decide⟩ ↔
      quotaFor twoDevices.limits twoDevices.tokens (twoDevices.token ⟨0, by decide⟩).name =
        NonZeroU32.new
          ((twoDevices.token ⟨0, by decide⟩).effectiveRateLimit twoDevices.limits) ∧
      ((twoDevices.token ⟨0, by decide⟩).name = (twoDevices.token ⟨1, by decide⟩).name →
        (twoDevices.token ⟨0, by decide⟩).effectiveRateLimit twoDevices.limits = 0) :=
  @isolated_iff Governor.reference Governor.reference_implementsGcra twoDevices
    ⟨0, by decide⟩ ⟨1, by decide⟩ (by decide)

/-- The configuration is accepted, and its two entries share one budget. -/
theorem shared_name_shares_budget :
    twoDevices.validate = .ok () ∧
      ¬ @Isolated Governor.reference twoDevices ⟨0, by decide⟩ ⟨1, by decide⟩ :=
  ⟨rfl, @not_isolated_of_shared Governor.reference Governor.reference_implementsGcra
    twoDevices ⟨0, by decide⟩ ⟨1, by decide⟩ (by decide) rfl ⟨60, by decide⟩ (by decide)⟩

end RateLimits

end VoucherProxy
