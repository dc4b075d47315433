import VoucherProxy.Sample

namespace VoucherProxy

/-! What a client learns about its token from either surface, against what the
request policy lets it do. -/

/-! ## The reports -/

/-- An unsigned number under `limits` in the report of the REST route. -/
def reportedLimit (body : Json) (key : String) : Option Int :=
  match (body.get "limits").bind (·.get key) with
  | some (.number (.posInt value)) => some value.toNat
  | _ => none

/-- The name and the guest limit of a request are in order. -/
structure Presentable (request : CreateVoucherRequest) : Prop where
  named : (Text.trim request.name).isEmpty = false
  short : request.name.toList.length ≤ 128
  guests : 1 ≤ request.authorizedGuestLimit.toNat ∧ request.authorizedGuestLimit.toNat ≤ 10000

/-- The two numbers say exactly which requests are accepted. -/
def Tells (ceilings : Ceilings) (maxVouchers maxValidity : Int) : Prop :=
  ∀ request, Presentable request →
    (request.enforce ceilings = .ok () ↔
      (1 ≤ (request.count.toNat : Int) ∧ request.count.toNat ≤ maxVouchers) ∧
        1 ≤ (request.timeLimitMinutes.toNat : Int) ∧
          request.timeLimitMinutes.toNat ≤ maxValidity)

/-- The report of the REST route tells the caller what it may do. -/
def RestTells (caller : Caller) : Prop :=
  ∃ maxVouchers maxValidity,
    reportedLimit (Routes.infoBody caller) "maxVouchersPerRequest" = some maxVouchers ∧
    reportedLimit (Routes.infoBody caller) "maxValidityMinutes" = some maxValidity ∧
    Tells caller.ceilings maxVouchers maxValidity

/-- So does the GraphQL field. -/
def GraphQlTells (caller : Caller) : Prop :=
  Tells caller.ceilings (GraphQl.info caller).maxVouchersPerRequest.toInt
    (GraphQl.info caller).maxValidityMinutes.toInt

/-! ## What the policy lets through -/

section

variable {ceilings : Ceilings} {maxVouchers maxValidity : Int}

theorem enforce_iff {request : CreateVoucherRequest} (presentable : Presentable request) :
    request.enforce ceilings = .ok () ↔
      (1 ≤ request.count.toNat ∧ request.count.toNat ≤ ceilings.maxVouchers.toNat) ∧
        1 ≤ request.timeLimitMinutes.toNat ∧
          request.timeLimitMinutes.toNat ≤ ceilings.maxValidityMinutes.toNat ∧
            request.timeLimitMinutes.toNat ≤ 1000000 := by
  have positive32 : ∀ n : UInt32, n ≠ 0 ↔ 1 ≤ n.toNat := by
    intro n
    rw [ne_eq, ← UInt32.toNat_inj, Nat.one_le_iff_ne_zero]
    rfl
  have positive64 : ∀ n : UInt64, n ≠ 0 ↔ 1 ≤ n.toNat := by
    intro n
    rw [ne_eq, ← UInt64.toNat_inj, Nat.one_le_iff_ne_zero]
    rfl
  rw [CreateVoucherRequest.enforce_eq_ok, positive32, positive64, positive32,
    UInt32.le_iff_toNat_le, UInt64.le_iff_toNat_le, UInt32.le_iff_toNat_le,
    TokenConfig.toNat_min_uint64, Nat.le_min]
  constructor
  · rintro ⟨-, -, count, time, -⟩
    exact ⟨count, time⟩
  · rintro ⟨count, time⟩
    exact ⟨presentable.named, presentable.short, count, time, presentable.guests⟩

/-- A request for this many vouchers of this validity that is otherwise in order. -/
theorem exists_presentable (count : UInt32) (time : UInt64) :
    ∃ request, Presentable request ∧ request.count = count ∧ request.timeLimitMinutes = time := by
  have named : (Text.trim "guest").isEmpty = false := by decide
  have short : "guest".toList.length ≤ 128 := by decide
  have guests : 1 ≤ (1 : UInt32).toNat ∧ (1 : UInt32).toNat ≤ 10000 := by decide
  exact ⟨⟨"guest", count, time, 1, none, none, none⟩, ⟨named, short, guests⟩, rfl, rfl⟩

/-- Two numbers tell exactly when they agree with the ceilings wherever both can
be met. -/
theorem tells_iff :
    Tells ceilings maxVouchers maxValidity ↔
      ∀ count : UInt32, ∀ time : UInt64, 1 ≤ count.toNat → 1 ≤ time.toNat →
        (count.toNat ≤ ceilings.maxVouchers.toNat ∧
            time.toNat ≤ ceilings.maxValidityMinutes.toNat ∧ time.toNat ≤ 1000000 ↔
          (count.toNat : Int) ≤ maxVouchers ∧ (time.toNat : Int) ≤ maxValidity) := by
  constructor
  · intro tells count time someCount someTime
    rcases exists_presentable count time with ⟨request, presentable, rfl, rfl⟩
    have same := tells request presentable
    rw [enforce_iff presentable] at same
    omega
  · intro agrees request presentable
    have same := agrees request.count request.timeLimitMinutes
    rw [enforce_iff presentable]
    omega

end

/-! ## When a report tells -/

section

variable {ceilings : Ceilings}

/-- The ceilings as they are. -/
theorem tells_ceilings_iff :
    Tells ceilings ceilings.maxVouchers.toNat ceilings.maxValidityMinutes.toNat ↔
      ceilings.maxVouchers.toNat = 0 ∨ ceilings.maxValidityMinutes.toNat ≤ 1000000 := by
  rw [tells_iff]
  constructor
  · intro agrees
    have beyond := agrees 1 1000001 (by decide) (by decide)
    have one : (1 : UInt32).toNat = 1 := rfl
    have past : (1000001 : UInt64).toNat = 1000001 := rfl
    rw [one, past] at beyond
    omega
  · intro within count time someCount someTime
    omega

theorem toInt_toInt32 (n : UInt32) :
    n.toInt32.toInt = if n.toNat < 2147483648 then (n.toNat : Int) else n.toNat - 4294967296 := by
  have signed : n.toInt32.toInt = n.toBitVec.toInt := rfl
  have unsigned : n.toBitVec.toNat = n.toNat := rfl
  rw [signed, BitVec.toInt_eq_toNat_cond, unsigned]
  apply if_congr (by omega) rfl rfl

theorem toInt_toInt64 (n : UInt64) :
    n.toInt64.toInt =
      if n.toNat < 9223372036854775808 then (n.toNat : Int)
      else n.toNat - 18446744073709551616 := by
  have signed : n.toInt64.toInt = n.toBitVec.toInt := rfl
  have unsigned : n.toBitVec.toNat = n.toNat := rfl
  rw [signed, BitVec.toInt_eq_toNat_cond, unsigned]
  apply if_congr (by omega) rfl rfl

/-- The ceilings narrowed to signed integers. -/
theorem tells_narrowed_iff :
    Tells ceilings ceilings.maxVouchers.toInt32.toInt ceilings.maxValidityMinutes.toInt64.toInt ↔
      (ceilings.maxVouchers.toNat = 0 ∨ ceilings.maxValidityMinutes.toNat ≤ 1000000) ∧
        (ceilings.maxValidityMinutes.toNat = 0 ∨ ceilings.maxVouchers.toNat < 2147483648) := by
  have vouchers := ceilings.maxVouchers.toNat_lt
  have minutes := ceilings.maxValidityMinutes.toNat_lt
  rw [tells_iff, toInt_toInt32, toInt_toInt64]
  have one : (1 : UInt32).toNat = 1 := rfl
  have minute : (1 : UInt64).toNat = 1 := rfl
  have past : (1000001 : UInt64).toNat = 1000001 := rfl
  constructor
  · intro agrees
    have lowest := agrees 1 1 (by decide) (by decide)
    have beyond := agrees 1 1000001 (by decide) (by decide)
    rw [one, minute] at lowest
    rw [one, past] at beyond
    split at lowest <;> split at lowest <;> omega
  · rintro ⟨within, narrow⟩ count time someCount someTime
    split <;> split <;> omega

end

/-- What the REST route reports are the ceilings themselves. -/
theorem restTells_iff (caller : Caller) :
    RestTells caller ↔
      Tells caller.ceilings caller.ceilings.maxVouchers.toNat
        caller.ceilings.maxValidityMinutes.toNat := by
  have vouchers : reportedLimit (Routes.infoBody caller) "maxVouchersPerRequest" =
      some (caller.ceilings.maxVouchers.toNat : Int) := by
    simp [reportedLimit, Routes.infoBody, lookup_cons_ite]
  have validity : reportedLimit (Routes.infoBody caller) "maxValidityMinutes" =
      some (caller.ceilings.maxValidityMinutes.toNat : Int) := by
    simp [reportedLimit, Routes.infoBody]
  constructor
  · rintro ⟨maxVouchers, maxValidity, first, second, tells⟩
    rw [vouchers] at first
    rw [validity] at second
    rwa [← Option.some.inj first, ← Option.some.inj second] at tells
  · intro tells
    exact ⟨_, _, vouchers, validity, tells⟩

/-- Both reports tell a client exactly what it may do in these cases and in no other:
no voucher may be created at all, or no validity past the maximum of the API is
configured; and no validity is allowed at all, or the voucher ceiling fits a signed
integer of 32 bits. -/
theorem info_tells_iff (token : TokenConfig) (limits : Limits) :
    (RestTells (Caller.ofToken token limits) ∧ GraphQlTells (Caller.ofToken token limits) ↔
      ((token.effectiveMaxVouchers limits).toNat = 0 ∨
          (token.effectiveMaxValidity limits).toNat ≤ 1000000) ∧
        ((token.effectiveMaxValidity limits).toNat = 0 ∨
          (token.effectiveMaxVouchers limits).toNat < 2147483648)) ∧
    (RestTells (Caller.ofToken token limits) ↔
      (token.effectiveMaxVouchers limits).toNat = 0 ∨
        (token.effectiveMaxValidity limits).toNat ≤ 1000000) := by
  have rest := (restTells_iff (Caller.ofToken token limits)).trans tells_ceilings_iff
  have graphql : GraphQlTells (Caller.ofToken token limits) ↔ _ := tells_narrowed_iff
  refine ⟨?_, rest⟩
  rw [rest, graphql, ← and_assoc, and_self]
  rfl

section

open Sample

/-- Ceilings that a configuration may have, past what the API and a signed integer
take. -/
def generous : Config :=
  { cfg with limits := { maxVouchersPerRequest := 3000000000, maxValidityMinutes := 2000000 } }

local instance generousFile : Figment where
  extract _ _ := .ok generous

/-- The reports name a validity that is refused, and a number of vouchers below zero. -/
theorem generous_misinforms :
    Config.load none none [] = .ok generous ∧ reception ∈ generous.tokens ∧
      ¬ RestTells (Caller.ofToken reception generous.limits) ∧
      ¬ GraphQlTells (Caller.ofToken reception generous.limits) ∧
      (GraphQl.info (Caller.ofToken reception generous.limits)).maxVouchersPerRequest =
        -1294967296 := by
  have loaded : Config.load none none [] = .ok generous :=
    Config.load_eq_ok.mpr ⟨(nomatch ·), rfl, Config.validate_eq_ok.mp rfl⟩
  refine ⟨loaded, by decide, ?_, ?_, by decide⟩
  · rw [restTells_iff, tells_ceilings_iff]
    decide
  · intro tells
    exact absurd (tells_narrowed_iff.mp tells) (by decide)

end

end VoucherProxy
