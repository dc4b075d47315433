import VoucherProxy.Foundation.Accounting
import VoucherProxy.Routes

namespace VoucherProxy

/-! Every call to the controller is paid for by a successful charge of its own. -/

variable [Crates]

/-- A successful charge earns one call. -/
def charging : Ledger Effect Answer where
  earns effect answer := match effect, answer with
    | .check _ _, granted => granted
    | _, _ => false
  costs
    | .send _ _ => true
    | _ => false

namespace Charging

open Program

/-! ## Operations -/

section Operations

variable {α : Type} (operation : Operation α) (caller : Caller) (guard : Guard)

/-- Only an admitted operation has a call to spend. -/
theorem admit_solvent : (caller.admission guard operation).Solvent charging
    (fun result => if result.isOk then 1 else 0) 0 := by
  unfold Caller.admission
  split
  · exact Nat.zero_le _
  · refine ⟨Nat.zero_le _, fun granted => ?_⟩
    cases granted with
    | true => exact le_rfl
    | false =>
        apply Solvent.free_bind rfl
        exact fun _ => Nat.zero_le _

theorem send_pays (prepared : Except ProxyError UpstreamRequest) :
    (guard.send prepared).Pays charging 1 := by
  unfold Guard.send
  split
  · exact pays_pure _ _
  · exact ⟨le_rfl, fun _ => pays_pure _ _⟩

theorem finish_pays (started : Nat) (outcome : Outcome α) :
    (finish caller operation started outcome).Pays charging 0 := by
  apply Solvent.free_bind rfl
  intro _
  apply Solvent.free_bind rfl
  intro _
  split
  · apply Solvent.free_bind rfl
    intro _
    apply Solvent.free_bind rfl
    intro _
    apply Solvent.free_bind rfl
    exact fun _ => pays_pure _ _
  · apply Solvent.free_bind rfl
    intro _
    apply Solvent.free_bind rfl
    exact fun _ => pays_pure _ _

theorem run_pays : (operation.run caller guard).Pays charging 0 := by
  apply (admit_solvent operation caller guard).bind
  intro result
  cases result with
  | error why => exact pays_pure _ _
  | ok done =>
      cases operation.plan with
      | error why => exact pays_pure _ _
      | ok plan =>
          apply Solvent.free_bind rfl
          intro _
          apply (send_pays guard _).bind
          intro _
          apply Solvent.free_bind rfl
          exact fun _ => pays_pure _ _

theorem handle_pays : (operation.handle caller).Pays charging 0 := by
  apply Solvent.free_bind rfl
  intro started
  apply Solvent.free_bind rfl
  intro guard
  exact (run_pays operation caller guard).bind fun outcome =>
    finish_pays operation caller started outcome

theorem respond_pays (operation : Operation Json) :
    (Routes.respond caller operation).Pays charging 0 :=
  (handle_pays operation caller).bind fun _ => pays_pure _ _

theorem resolve_pays (operation : Operation FieldValue) :
    (GraphQl.resolve caller operation).Pays charging 0 := by
  apply Solvent.free_bind rfl
  intro guard
  apply (admit_solvent operation caller guard).bind
  intro result
  cases result with
  | error why => exact pays_pure _ _
  | ok done =>
      cases operation.plan with
      | error why => exact pays_pure _ _
      | ok plan =>
          apply Solvent.free_bind rfl
          intro _
          apply (send_pays guard _).bind
          intro body
          cases body with
          | error why => exact pays_pure _ _
          | ok json =>
              apply Solvent.free_bind rfl
              intro _
              apply Solvent.free_bind rfl
              intro _
              cases plan.count with
              | none => exact pays_pure _ _
              | some count =>
                  apply Solvent.free_bind rfl
                  exact fun _ => pays_pure _ _

end Operations

/-! ## Extraction -/

theorem refuse_pays (request : HttpRequest) (token reason : String) (error : ProxyError) :
    (Caller.refuse request token reason error).Pays charging 0 := by
  apply Solvent.free_bind rfl
  intro _
  apply Solvent.free_bind rfl
  exact fun _ => pays_pure _ _

theorem authenticate_pays (guard : Guard) (text : String) :
    (guard.authenticate text).Pays charging 0 := by
  unfold Guard.authenticate
  split
  · exact pays_pure _ _
  · apply Solvent.free_bind rfl
    intro answer
    cases answer with
    | some position => exact pays_pure _ _
    | none =>
        cases Authenticator.scan guard.value.auth.tokens text with
        | none => exact pays_pure _ _
        | some position =>
            apply Solvent.free_bind rfl
            exact fun _ => pays_pure _ _

theorem unlessExpired_pays (request : HttpRequest) (guard : Guard) (token : TokenConfig) :
    (Caller.unlessExpired request guard token).Pays charging 0 := by
  unfold Caller.unlessExpired
  split
  · exact pays_pure _ _
  · apply Solvent.free_bind rfl
    intro now
    split
    · exact refuse_pays request _ _ _
    · exact pays_pure _ _

theorem fromRequestParts_pays (request : HttpRequest) :
    (Caller.fromRequestParts request).Pays charging 0 := by
  have admitted : ∀ guard, (Caller.admitPeer request guard).Pays charging 0 := by
    intro guard
    unfold Caller.admitPeer
    split
    · exact pays_pure _ _
    · exact ⟨Nat.zero_le _, fun _ => pays_pure _ _⟩
  apply Solvent.free_bind rfl
  intro guard
  apply (admitted guard).bind
  intro verdict
  cases verdict with
  | false => exact refuse_pays request _ _ _
  | true =>
      simp only [if_true]
      split
      · exact refuse_pays request _ _ _
      · next text _ =>
          apply (authenticate_pays guard text).bind
          intro found
          cases found with
          | none => exact refuse_pays request _ _ _
          | some token => exact unlessExpired_pays request guard token

/-! ## Documents and routes -/

theorem withCaller_pays (request : HttpRequest) {handler : Caller → Call Response}
    (handled : ∀ caller, (handler caller).Pays charging 0) :
    (Routes.withCaller request handler).Pays charging 0 := by
  apply (fromRequestParts_pays request).bind
  intro result
  cases result with
  | error why => exact pays_pure _ _
  | ok caller => exact handled caller

theorem withExtracted_pays {α : Type} (extracted : Except Rejection α)
    {handler : α → Call Response} (handled : ∀ value, (handler value).Pays charging 0) :
    (Routes.withExtracted extracted handler).Pays charging 0 := by
  cases extracted with
  | error rejection => exact pays_pure _ _
  | ok value => exact handled value

theorem notAllowed_pays (request : HttpRequest) :
    (Routes.notAllowed request).Pays charging 0 := by
  apply Solvent.free_bind rfl
  exact fun _ => pays_pure _ _

theorem getting_pays (request : HttpRequest) {handler : Call Response}
    (handled : handler.Pays charging 0) :
    (Routes.getting request handler).Pays charging 0 := by
  unfold Routes.getting
  split
  · exact handled
  · exact notAllowed_pays request

theorem named_pays {key : String} {resolver : Call (Except GqlError FieldValue)}
    (pays : resolver.Pays charging 0) : (GraphQl.named key resolver).Pays charging 0 :=
  pays.bind fun _ => pays_pure _ _

theorem queryField_pays (caller : Caller) (field : GraphQl.QueryField) :
    (field.resolver caller).Pays charging 0 := by
  cases field with
  | introspection value => exact pays_pure _ _
  | info => exact pays_pure _ _
  | sites => exact resolve_pays caller _
  | vouchers siteId => exact resolve_pays caller _

theorem mutationField_pays (caller : Caller) (field : GraphQl.MutationField) :
    (field.resolver caller).Pays charging 0 := by
  cases field with
  | introspection value => exact pays_pure _ _
  | createVouchers siteId input => exact resolve_pays caller _
  | revokeVoucher siteId voucherId => exact resolve_pays caller _

variable [GraphQlEngine]

/-- However many fields a document has, each pays for itself. -/
theorem execute_pays (turns : List Nat) (caller : Caller) (document : GraphQlRequest) :
    (GraphQl.execute turns caller document).Pays charging 0 := by
  unfold GraphQl.execute
  split
  · exact pays_pure _ _
  · next fields _ =>
      apply Pays.interleave
      · intro credits programs purses
        unfold GraphQl.settle
        split
        · exact pays_pure _ _
        · exact (purses.sequence _).bind fun _ => pays_pure _ _
      · intro program member
        rcases List.mem_map.mp member with ⟨field, _, rfl⟩
        exact named_pays (queryField_pays caller field.2)
  · next fields _ =>
      apply (Pays.sequence _ _).bind
      · exact fun _ => pays_pure _ _
      · intro program member
        rcases List.mem_map.mp member with ⟨field, _, rfl⟩
        exact named_pays (mutationField_pays caller field.2)

theorem graphqlHandler_pays (turns : List Nat) (caller : Caller) (document : GraphQlRequest) :
    (Routes.graphqlHandler turns caller document).Pays charging 0 := by
  apply Solvent.free_bind rfl
  intro _
  apply (execute_pays turns caller document).bind
  intro _
  apply Solvent.free_bind rfl
  intro _
  apply Solvent.free_bind rfl
  intro _
  apply Solvent.free_bind rfl
  exact fun _ => pays_pure _ _

variable [Framework]

theorem dispatch_pays (settings : RouterSettings) (turns : List Nat) (request : HttpRequest) :
    (Routes.dispatch settings turns request).Pays charging 0 := by
  have recorded : ∀ (action : String) (response : Caller → Response) (caller : Caller), (do
      Call.recordRequest caller.name action "ok"
      return response caller : Call Response).Pays charging 0 := by
    intro _ _ _
    apply Solvent.free_bind rfl
    exact fun _ => pays_pure _ _
  unfold Routes.dispatch
  split
  · exact notAllowed_pays request
  · exact getting_pays request (pays_pure _ _)
  · exact getting_pays request (withCaller_pays request (recorded "info" fun caller =>
      ⟨.ok, .json (Routes.infoBody caller)⟩))
  · exact getting_pays request (withCaller_pays request (recorded "graphql:schema" fun _ =>
      ⟨.ok, .text GraphQlEngine.sdl⟩))
  · split
    · exact withCaller_pays request fun caller => withExtracted_pays _ fun document =>
        graphqlHandler_pays turns caller document
    · split
      · exact getting_pays request (pays_pure _ _)
      · exact notAllowed_pays request
  · exact getting_pays request (withCaller_pays request fun caller => respond_pays caller _)
  · split
    · exact withCaller_pays request fun caller => withExtracted_pays _ fun site =>
        withExtracted_pays _ fun body => respond_pays caller _
    · exact getting_pays request (withCaller_pays request fun caller =>
        withExtracted_pays _ fun site => respond_pays caller _)
  · split
    · exact withCaller_pays request fun caller => withExtracted_pays _ fun site =>
        withExtracted_pays _ fun voucher => respond_pays caller _
    · exact notAllowed_pays request

/-- Every request pays for each of its calls. -/
theorem serve_pays (settings : RouterSettings) (turns : List Nat) (request : HttpRequest) :
    (Routes.serve settings turns request).Pays charging 0 := by
  have limited : (Routes.limited settings turns request).Pays charging 0 := by
    unfold Routes.limited
    split
    · exact pays_pure _ _
    · exact dispatch_pays settings turns request
  exact limited.bind fun _ => pays_pure _ _

end Charging

end VoucherProxy
