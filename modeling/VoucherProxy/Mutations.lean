import VoucherProxy.Interrupted
import VoucherProxy.Measured

namespace VoucherProxy

/-! What of a mutation document reaches its client: its fields run one after the
other, and one that fails takes the results of the others with it. -/

section

variable [Crates]

namespace GraphQl

open Program

/-! ## One field -/

/-- A field that was reached: what it did and how it ended. -/
structure Resolution where
  key : String
  field : MutationField
  events : History
  result : Except GqlError FieldValue

namespace Resolution

/-- Nothing keeps the field from its call, and no call of it fails. -/
def Clear (resolution : Resolution) (caller : Caller) : Prop :=
  ∀ operation, resolution.field.operation? caller = some operation →
    operation.Clear caller resolution.events ∧ ∀ event ∈ resolution.events, Succeeds event

end Resolution

variable {caller : Caller} {operation : Operation FieldValue}

omit [Crates] in
/-- A request that is formed for one upstream is formed for every one. -/
theorem forms_of_formed (sanctioned : operation.Sanctioned caller) {plan : Plan}
    (planned : operation.plan = .ok plan) {upstream : Upstream} {sent : UpstreamRequest}
    (formed : plan.request upstream = .ok sent) :
    ∀ other, ∃ request, plan.request other = .ok request := by
  rcases sanctioned plan planned with ⟨call, -, -, -, asCall⟩
  rw [asCall] at formed
  have valid := (UpstreamCall.prepare_eq_ok.mp formed).1
  intro other
  rw [asCall]
  exact ⟨_, UpstreamCall.prepare_eq_ok.mpr ⟨valid, rfl⟩⟩

/-- A resolver with a value sent one request, and the answer reads as a success. -/
theorem Ended.answered_of_isOk {events : History} {result : Except GqlError FieldValue}
    (ended : Ended operation caller events result) (isOk : result.isOk = true) :
    ∃ sent reply body, exchanges events = [(sent, reply)] ∧ reply.interpret = .ok body := by
  rcases ended.exchanged with ⟨-, why, failed⟩ | ⟨plan, sent, reply, -, one, shown⟩
  · rw [failed] at isOk
    cases isOk
  · cases read : reply.interpret with
    | error why =>
        rw [shown, read] at isOk
        cases isOk
    | ok body => exact ⟨sent, reply, body, one, read⟩

theorem Ended.succeeds {events : History} {result : Except GqlError FieldValue}
    (ended : Ended operation caller events result) (isOk : result.isOk = true) :
    ∀ event ∈ events, Succeeds event := by
  rcases ended.answered_of_isOk isOk with ⟨sent, reply, body, one, read⟩
  rintro event member slot request answer rfl
  have exchanged := mem_exchanges member
  rw [one, List.mem_singleton, Prod.mk.injEq] at exchanged
  rw [exchanged.2]
  exact ⟨body, read⟩

theorem Ended.clear {events : History} {result : Except GqlError FieldValue}
    (ended : Ended operation caller events result) (sanctioned : operation.Sanctioned caller)
    (isOk : result.isOk = true) : operation.Clear caller events := by
  rcases ended with ⟨ran⟩
  cases ran with
  | barred barred => cases isOk
  | unplanned admitted unplanned => cases isOk
  | failed admitted planned calling up => cases isOk
  | @called events call plan body admitted planned calling up now =>
      cases admitted with
      | admitted permitted =>
          cases calling with
          | sent formed reads =>
              refine ⟨permitted, ?_, plan, planned, forms_of_formed sanctioned planned formed⟩
              intro slot refused
              cases plan.count <;> simp at refused

namespace Resolution

variable {resolution : Resolution}

end Resolution

variable [GraphQlEngine]

end GraphQl

end

section

open Sample Surfaces GraphQl

/-- Three creates under aliases, by a token with a quota of two. -/
def threeCreates : List (String × MutationField) :=
  [("a", .createVouchers "main" guestArguments), ("b", .createVouchers "main" guestArguments),
    ("c", .createVouchers "main" guestArguments)]

local instance creating : GraphQlEngine where
  prepare _ _ _ := .ok (.mutation threeCreates)
  abandons := true
  sdl := ""
  graphiql := ""

end

end VoucherProxy
