import Mathlib.Data.Rat.Cast.Order
import VoucherProxy.Config
import VoucherProxy.Foundation.Gcra
import VoucherProxy.Foundation.Json

namespace VoucherProxy

/-! Per-token request budgets, and the per-address budget charged before a
token is looked at. -/

inductive IpAddr
  | v4 (bits : BitVec 32)
  | v6 (bits : BitVec 128)
  deriving DecidableEq, Repr

abbrev NonZeroU32 := { n : UInt32 // n ≠ 0 }

namespace NonZeroU32

def new (n : UInt32) : Option NonZeroU32 :=
  if nonzero : n ≠ 0 then some ⟨n, nonzero⟩ else none

@[simp] theorem new_zero : new 0 = none := rfl

theorem new_of_ne {n : UInt32} (nonzero : n ≠ 0) : new n = some ⟨n, nonzero⟩ := by
  simp [new, nonzero]

theorem toNat_pos (n : NonZeroU32) : 0 < n.val.toNat := by
  apply Nat.pos_of_ne_zero
  intro zero
  exact n.property (UInt32.toNat_inj.mp (by simpa using zero))

end NonZeroU32

/-- The rate limiters of the `governor` crate, built from `Quota::per_minute`.
Times are readings of its monotonic clock, in nanoseconds. -/
class Governor where
  DirectLimiter : Type
  direct : NonZeroU32 → DirectLimiter
  check : DirectLimiter → Nat → Bool × DirectLimiter
  KeyedLimiter : Type
  keyed : NonZeroU32 → KeyedLimiter
  checkKey : KeyedLimiter → IpAddr → Nat → Bool × KeyedLimiter
  retainRecent : KeyedLimiter → Nat → KeyedLimiter

namespace Governor

/-- `Quota::per_minute(n)`: `n` cells in a burst, one more every `60 s / n`. -/
def perMinute (n : NonZeroU32) : Gcra ℚ where
  interval := 60000000000 / n.val.toNat
  burst := n.val.toNat
  interval_pos := by
    have positive : (0 : ℚ) < n.val.toNat := by exact_mod_cast n.toNat_pos
    positivity
  burst_pos := n.toNat_pos

/-- What is documented of the direct limiter: on calls in time order its
verdicts are those of the generic cell rate algorithm. -/
def ImplementsGcra (governor : Governor) : Prop :=
  ∀ (n : NonZeroU32) (times : List Nat), times.Pairwise (· ≤ ·) →
    verdicts governor.check (governor.direct n) times =
      verdicts (perMinute n).check none (times.map (Nat.cast : Nat → ℚ))

end Governor

namespace RateLimits

/-- The quota found under a name: that of the last entry so named whose
effective limit is not zero. -/
def quotaFor (limits : Limits) (tokens : List TokenConfig) (name : String) :
    Option NonZeroU32 :=
  tokens.reverse.findSome? fun token =>
    if token.name = name then NonZeroU32.new (token.effectiveRateLimit limits) else none

theorem quotaFor_append (limits : Limits) (tokens : List TokenConfig) (token : TokenConfig)
    (name : String) :
    quotaFor limits (tokens ++ [token]) name =
      ((if token.name = name then NonZeroU32.new (token.effectiveRateLimit limits)
        else none).or (quotaFor limits tokens name)) := by
  simp only [quotaFor, List.reverse_append, List.reverse_cons, List.reverse_nil,
    List.nil_append, List.cons_append, List.findSome?_cons]
  cases (if token.name = name then NonZeroU32.new (token.effectiveRateLimit limits)
    else none) <;> rfl

theorem quotaFor_of_unique (limits : Limits) {tokens : List TokenConfig}
    {token : TokenConfig} (member : token ∈ tokens)
    (unique : ∀ other ∈ tokens, other.name = token.name → other = token) :
    quotaFor limits tokens token.name = NonZeroU32.new (token.effectiveRateLimit limits) := by
  have settled : ∀ tokens : List TokenConfig,
      (∀ other ∈ tokens, other.name = token.name → other = token) →
      quotaFor limits tokens token.name =
        if token ∈ tokens then NonZeroU32.new (token.effectiveRateLimit limits) else none := by
    intro tokens
    induction tokens using List.reverseRecOn with
    | nil => intro _; rfl
    | append_singleton tokens last induction =>
        intro unique
        rw [quotaFor_append, induction fun other present => unique other (by simp [present])]
        by_cases same : last.name = token.name
        · have isToken := unique last (by simp) same
          subst isToken
          cases NonZeroU32.new (last.effectiveRateLimit limits) <;> simp
        · have notToken : token ≠ last := fun equal => same (by rw [equal])
          simp [same, notToken]
  rw [settled tokens unique, if_pos member]

end RateLimits

section

variable [Governor]

structure RateLimits where
  limiters : List (String × Governor.DirectLimiter)
  perIp : Option Governor.KeyedLimiter
  sweep : UInt32

namespace RateLimits

/-- How many pre-auth checks pass before expired per-IP entries are swept. -/
def sweepEvery : UInt32 := 1024

/-- A token whose effective quota is `0` gets no entry; of several tokens with
one name the last entry stays. -/
def insertLimiter (limits : Limits) (limiters : List (String × Governor.DirectLimiter))
    (token : TokenConfig) : List (String × Governor.DirectLimiter) :=
  match NonZeroU32.new (token.effectiveRateLimit limits) with
  | some n => insertMember token.name (Governor.direct n) limiters
  | none => limiters

def fromConfig (cfg : Config) : RateLimits where
  limiters := cfg.tokens.foldl (insertLimiter cfg.limits) []
  perIp := (NonZeroU32.new cfg.limits.rateLimitPerIpPerMinute).map Governor.keyed
  sweep := 0

/-- Spends one unit of a source address's pre-authentication budget. -/
def checkIp (rate : RateLimits) (ip : IpAddr) (now : Nat) : Bool × RateLimits :=
  match rate.perIp with
  | none => (true, rate)
  | some limiter =>
      let swept :=
        if rate.sweep % sweepEvery = sweepEvery - 1 then Governor.retainRecent limiter now
        else limiter
      let outcome := Governor.checkKey swept ip now
      (outcome.1, { rate with perIp := some outcome.2, sweep := rate.sweep + 1 })

/-- Consumes one unit of the token's budget. `false` means "over quota". -/
def check (rate : RateLimits) (token : TokenConfig) (now : Nat) : Bool × RateLimits :=
  match rate.limiters.lookup token.name with
  | some limiter =>
      let outcome := Governor.check limiter now
      (outcome.1,
        { rate with limiters := insertMember token.name outcome.2 rate.limiters })
  | none => (true, rate)

/-! ## Which limiter a name finds -/

theorem lookup_insertLimiter (limits : Limits)
    (limiters : List (String × Governor.DirectLimiter)) (token : TokenConfig)
    (name : String) :
    (insertLimiter limits limiters token).lookup name =
      ((if token.name = name then NonZeroU32.new (token.effectiveRateLimit limits)
        else none).map Governor.direct).or (limiters.lookup name) := by
  unfold insertLimiter
  cases NonZeroU32.new (token.effectiveRateLimit limits) with
  | none => simp
  | some n =>
      rw [lookup_insertMember]
      by_cases same : token.name = name
      · simp [same]
      · simp [same, Ne.symm same]

theorem lookup_foldl_insertLimiter (limits : Limits) (name : String)
    (tokens : List TokenConfig) :
    (tokens.foldl (insertLimiter limits) []).lookup name =
      (quotaFor limits tokens name).map Governor.direct := by
  induction tokens using List.reverseRecOn with
  | nil => rfl
  | append_singleton tokens token induction =>
      rw [List.foldl_append, List.foldl_cons, List.foldl_nil, lookup_insertLimiter,
        quotaFor_append, induction, Option.map_or]

theorem lookup_fromConfig (cfg : Config) (name : String) :
    (fromConfig cfg).limiters.lookup name =
      (quotaFor cfg.limits cfg.tokens name).map Governor.direct :=
  lookup_foldl_insertLimiter cfg.limits name cfg.tokens

theorem lookup_check_of_ne (rate : RateLimits) {token : TokenConfig} {name : String}
    (different : token.name ≠ name) (now : Nat) :
    (rate.check token now).2.limiters.lookup name = rate.limiters.lookup name := by
  unfold check
  cases rate.limiters.lookup token.name with
  | none => rfl
  | some limiter => simp [lookup_insertMember, Ne.symm different]

theorem check_of_lookup {rate : RateLimits} {token : TokenConfig}
    {limiter : Governor.DirectLimiter}
    (found : rate.limiters.lookup token.name = some limiter) (now : Nat) :
    (rate.check token now).1 = (Governor.check limiter now).1 ∧
      (rate.check token now).2.limiters.lookup token.name =
        some (Governor.check limiter now).2 := by
  unfold check
  rw [found]
  exact ⟨rfl, by simp [lookup_insertMember]⟩

/-! ## Verdicts over a schedule of calls -/

section Schedules

variable {Entry : Type} [DecidableEq Entry] (token : Entry → TokenConfig)

/-- The verdicts one entry receives while every call of the schedule is made. -/
def verdictsFor (entry : Entry) : RateLimits → List (Entry × Nat) → List Bool
  | _, [] => []
  | rate, (caller, now) :: later =>
      let outcome := rate.check (token caller) now
      if caller = entry then outcome.1 :: verdictsFor entry outcome.2 later
      else verdictsFor entry outcome.2 later

/-- The times at which one entry calls. -/
def timesOf (entry : Entry) (schedule : List (Entry × Nat)) : List Nat :=
  schedule.filterMap fun call => if call.1 = entry then some call.2 else none

omit [Governor] in
@[simp] theorem timesOf_replicate (entry : Entry) (calls now : Nat) :
    timesOf entry (List.replicate calls (entry, now)) = List.replicate calls now := by
  simp [timesOf]

omit [Governor] in
theorem timesOf_eq (entry : Entry) (schedule : List (Entry × Nat)) :
    timesOf entry schedule =
      (schedule.filter fun call => call.1 = entry).map Prod.snd := by
  induction schedule with
  | nil => rfl
  | cons call later induction =>
      rw [timesOf] at induction ⊢
      by_cases own : call.1 = entry <;> simp [own, induction]

omit [Governor] in
theorem timesOf_filter (entry : Entry) (schedule : List (Entry × Nat)) :
    timesOf entry (schedule.filter fun call => call.1 = entry) =
      timesOf entry schedule := by
  simp [timesOf_eq]

omit [Governor] in
theorem timesOf_pairwise (entry : Entry) {schedule : List (Entry × Nat)}
    (ordered : (schedule.map Prod.snd).Pairwise (· ≤ ·)) :
    (timesOf entry schedule).Pairwise (· ≤ ·) := by
  rw [timesOf_eq]
  exact List.Pairwise.sublist (List.filter_sublist.map _) ordered

/-- The verdicts of a limiter of its own, which admits everything when absent. -/
def ownVerdicts (limiter : Option Governor.DirectLimiter) (times : List Nat) : List Bool :=
  match limiter with
  | some limiter => verdicts Governor.check limiter times
  | none => times.map fun _ => true

/-- While nobody else calls under its name, an entry is alone with the limiter
of that name. -/
theorem verdictsFor_eq (entry : Entry) (schedule : List (Entry × Nat))
    (alone : ∀ call ∈ schedule, (token call.1).name = (token entry).name → call.1 = entry)
    (rate : RateLimits) :
    verdictsFor token entry rate schedule =
      ownVerdicts (rate.limiters.lookup (token entry).name) (timesOf entry schedule) := by
  induction schedule generalizing rate with
  | nil =>
      cases rate.limiters.lookup (token entry).name <;>
        simp [verdictsFor, timesOf, ownVerdicts]
  | cons call later induction =>
      rcases call with ⟨caller, now⟩
      have rest := induction fun call member => alone call (by simp [member])
      by_cases own : caller = entry
      · subst own
        cases found : rate.limiters.lookup (token caller).name with
        | none =>
            simp only [verdictsFor, if_true, rest, timesOf, List.filterMap_cons]
            simp [check, found, ownVerdicts]
        | some limiter =>
            simp only [verdictsFor, if_true, rest, timesOf, List.filterMap_cons]
            simp [check, found, ownVerdicts, lookup_insertMember]
      · have different : (token caller).name ≠ (token entry).name := fun same =>
          own (alone (caller, now) (by simp) same)
        simp only [verdictsFor, own, if_false, rest, timesOf, List.filterMap_cons]
        rw [lookup_check_of_ne rate different]

/-- A name without a limiter admits every call, whoever makes it. -/
theorem verdictsFor_of_lookup_none (entry : Entry) (schedule : List (Entry × Nat))
    {rate : RateLimits} (unlimited : rate.limiters.lookup (token entry).name = none) :
    verdictsFor token entry rate schedule =
      ownVerdicts none (timesOf entry schedule) := by
  induction schedule generalizing rate with
  | nil => rfl
  | cons call later induction =>
      rcases call with ⟨caller, now⟩
      by_cases same : (token caller).name = (token entry).name
      · have admits : rate.check (token caller) now = (true, rate) := by
          simp [check, same, unlimited]
        by_cases own : caller = entry
        · subst own
          simp [verdictsFor, timesOf, ownVerdicts, admits, induction unlimited]
        · simp [verdictsFor, timesOf, own, admits, induction unlimited]
      · have own : caller ≠ entry := fun equal => same (by rw [equal])
        have kept : (rate.check (token caller) now).2.limiters.lookup (token entry).name =
            none := by
          rw [lookup_check_of_ne rate same, unlimited]
        simp [verdictsFor, timesOf, own, induction kept]

/-- Calls of another entry under the same name move the shared limiter on. -/
theorem verdictsFor_replicate_append {entry other : Entry} (different : other ≠ entry)
    (shared : (token other).name = (token entry).name) (calls now : Nat)
    (later : List (Entry × Nat)) {rate : RateLimits} {limiter : Governor.DirectLimiter}
    (found : rate.limiters.lookup (token entry).name = some limiter) :
    ∃ moved : RateLimits,
      moved.limiters.lookup (token entry).name =
        some (after Governor.check limiter (List.replicate calls now)) ∧
      verdictsFor token entry rate (List.replicate calls (other, now) ++ later) =
        verdictsFor token entry moved later := by
  induction calls generalizing rate limiter with
  | zero => exact ⟨rate, found, rfl⟩
  | succ calls induction =>
      have next : (rate.check (token other) now).2.limiters.lookup (token entry).name =
          some (Governor.check limiter now).2 := by
        simp [check, shared, found, lookup_insertMember]
      rcases induction next with ⟨moved, lookup, same⟩
      refine ⟨moved, lookup, ?_⟩
      simpa [List.replicate_succ, verdictsFor, different] using same

end Schedules

end RateLimits

end

/-! ## A governor that is the algorithm itself -/

/-- The generic cell rate algorithm run as it stands, one state per limiter and
one per address. -/
@[reducible] def Governor.reference : Governor where
  DirectLimiter := Gcra ℚ × Option ℚ
  direct n := (perMinute n, none)
  check limiter now :=
    let outcome := limiter.1.check limiter.2 now
    (outcome.1, (limiter.1, outcome.2))
  KeyedLimiter := Gcra ℚ × List (IpAddr × ℚ)
  keyed n := (perMinute n, [])
  checkKey limiter ip now :=
    let outcome := limiter.1.check (limiter.2.lookup ip) now
    (outcome.1, (limiter.1,
      match outcome.2 with
      | some arrival => (ip, arrival) :: limiter.2.filter fun entry => entry.1 != ip
      | none => limiter.2))
  retainRecent limiter now :=
    (limiter.1, limiter.2.filter fun entry => decide ((now : ℚ) < entry.2))

theorem Governor.reference_implementsGcra : Governor.reference.ImplementsGcra := by
  have run : ∀ (limiter : Gcra ℚ) (times : List Nat) (arrival : Option ℚ),
      verdicts Governor.reference.check (limiter, arrival) times =
        verdicts limiter.check arrival (times.map (Nat.cast : Nat → ℚ)) := by
    intro limiter times
    induction times with
    | nil => intro arrival; rfl
    | cons now later induction =>
        intro arrival
        simp only [verdicts_cons, List.map_cons]
        rw [← induction]
        rfl
  intro n times _
  exact run _ _ _

end VoucherProxy
