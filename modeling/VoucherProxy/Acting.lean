import VoucherProxy.Foundation.Contract
import VoucherProxy.Routes

namespace VoucherProxy

/-! What may be done with the rights of a caller: a contract that every operation
of that caller keeps on either surface. -/

variable [Crates]

abbrev History := List (Event Effect Answer)

/-- The `Live` in this slot was loaded by this very request. -/
def Loaded (history : History) (guard : Guard) : Prop :=
  (⟨.live, guard⟩ : Event Effect Answer) ∈ history

/-- The rights and the charge behind a request to the controller. -/
structure Acts (caller : Caller) (history : History) (slot : Nat) (call : UpstreamCall)
    (sent : UpstreamRequest) : Prop where
  scope : caller.token.hasScope call.scope = true
  site : ∀ site, call.site = some site → caller.token.allowsSite site = true
  charged : (⟨.check slot caller.token, true⟩ : Event Effect Answer) ∈ history
  policy : call.Within caller.ceilings
  prepared : ∃ guard, Loaded history guard ∧ guard.slot = slot ∧
    call.prepare guard.value.upstream = .ok sent

theorem Acts.mono {caller : Caller} {history later : History} {slot : Nat}
    {call : UpstreamCall} {sent : UpstreamRequest} (within : history ⊆ later)
    (acts : Acts caller history slot call sent) : Acts caller later slot call sent where
  scope := acts.scope
  site := acts.site
  charged := within acts.charged
  policy := acts.policy
  prepared := by
    rcases acts.prepared with ⟨guard, loaded, same, prepared⟩
    exact ⟨guard, within loaded, same, prepared⟩

def acting (caller : Caller) : Contract Effect Answer where
  permits history
    | .checkIp _ _ => False
    | .cacheGet _ _ => False
    | .cacheInsert _ _ _ => False
    | .check slot token =>
        token = caller.token ∧ ∃ guard, Loaded history guard ∧ guard.slot = slot
    | .send slot sent => ∃ call, Acts caller history slot call sent
    | _ => True
  permits_mono := by
    intro history later effect within permitted
    cases effect with
    | checkIp slot ip => exact permitted
    | cacheGet slot key => exact permitted
    | cacheInsert slot key position => exact permitted
    | check slot token =>
        rcases permitted with ⟨own, guard, loaded, same⟩
        exact ⟨own, guard, within loaded, same⟩
    | send slot sent =>
        rcases permitted with ⟨call, acts⟩
        exact ⟨call, acts.mono within⟩
    | _ => trivial

namespace Acting

open Program

variable {history : History} {caller : Caller}

/-! ## Operations -/

section Operations

variable {α : Type} {operation : Operation α} {guard : Guard}

theorem admit_obeys (loaded : Loaded history guard) :
    (caller.admission guard operation).Obeys (acting caller)
      (fun later result => result = .ok () →
        caller.token.hasScope operation.scope = true ∧
        (∀ site, operation.site = some site → caller.token.allowsSite site = true) ∧
        (⟨.check guard.slot caller.token, true⟩ : Event Effect Answer) ∈ later) history := by
  unfold Caller.admission
  split
  · intro same
    cases same
  · next permitted =>
      have checks := Caller.permits_eq_ok.mp permitted
      apply Obeys.request_bind
      · exact ⟨rfl, guard, loaded, rfl⟩
      · intro verdict
        cases verdict with
        | true =>
            intro _
            exact ⟨checks.1, checks.2, List.mem_append_right _ (List.mem_singleton_self _)⟩
        | false =>
            apply Obeys.request_bind trivial
            intro _ same
            cases same

/-- Only a request that went through all checks is sent. -/
theorem send_keeps {plan : Plan} (sanctioned : operation.Sanctioned caller)
    (planned : operation.plan = .ok plan) (loaded : Loaded history guard)
    (admitted : caller.token.hasScope operation.scope = true ∧
      (∀ site, operation.site = some site → caller.token.allowsSite site = true) ∧
      (⟨.check guard.slot caller.token, true⟩ : Event Effect Answer) ∈ history) :
    (guard.send (plan.request guard.value.upstream)).Keeps (acting caller) history := by
  unfold Guard.send
  split
  · trivial
  · next sent prepared =>
      rcases sanctioned plan planned with ⟨call, scope, site, within, asCall⟩
      apply Obeys.request_bind
      · refine ⟨call, ?_, ?_, admitted.2.2, within, guard, loaded, rfl, ?_⟩
        · rw [scope]
          exact admitted.1
        · rw [site]
          exact admitted.2.1
        · rw [← asCall, prepared]
      · exact fun _ => trivial

theorem finish_keeps (started : Nat) (outcome : Outcome α) :
    (finish caller operation started outcome).Keeps (acting caller) history := by
  apply Obeys.request_bind trivial
  intro _
  apply Obeys.request_bind trivial
  intro _
  split
  · apply Obeys.request_bind trivial
    intro _
    apply Obeys.request_bind trivial
    intro _
    apply Obeys.request_bind trivial
    exact fun _ => trivial
  · apply Obeys.request_bind trivial
    intro _
    apply Obeys.request_bind trivial
    exact fun _ => trivial

theorem run_keeps (sanctioned : operation.Sanctioned caller) (loaded : Loaded history guard) :
    (operation.run caller guard).Keeps (acting caller) history := by
  apply (admit_obeys loaded).bind
  intro later result within admitted
  cases result with
  | error why => trivial
  | ok done =>
      cases planned : operation.plan with
      | error why => trivial
      | ok plan =>
          apply Obeys.request_bind trivial
          intro up
          have within := List.Subset.trans within (List.subset_append_left later [⟨.instant, up⟩])
          have admitted := admitted rfl
          apply Obeys.bind
          · exact send_keeps sanctioned planned (within loaded)
              ⟨admitted.1, admitted.2.1, List.mem_append_left _ admitted.2.2⟩
          · intro _ _ _ _
            apply Obeys.request_bind trivial
            exact fun _ => trivial

/-- A REST operation keeps within the rights of its caller. -/
theorem handle_keeps (sanctioned : operation.Sanctioned caller) :
    (operation.handle caller).Keeps (acting caller) history := by
  apply Obeys.request_bind trivial
  intro started
  apply Obeys.request_bind trivial
  intro guard
  apply (run_keeps sanctioned (List.mem_append_right _ (List.mem_singleton_self _))).bind
  exact fun _ outcome _ _ => finish_keeps started outcome

theorem respond_keeps {operation : Operation Json} (sanctioned : operation.Sanctioned caller) :
    (Routes.respond caller operation).Keeps (acting caller) history :=
  (handle_keeps sanctioned).bind fun _ _ _ _ => trivial

/-- So does a resolver. -/
theorem resolve_keeps {operation : Operation FieldValue}
    (sanctioned : operation.Sanctioned caller) :
    (GraphQl.resolve caller operation).Keeps (acting caller) history := by
  apply Obeys.request_bind trivial
  intro guard
  have loaded : Loaded (history ++ [⟨.live, guard⟩]) guard :=
    List.mem_append_right _ (List.mem_singleton_self _)
  apply (admit_obeys loaded).bind
  intro later result within admitted
  cases result with
  | error why => trivial
  | ok done =>
      cases planned : operation.plan with
      | error why => trivial
      | ok plan =>
          apply Obeys.request_bind trivial
          intro up
          have within := List.Subset.trans within (List.subset_append_left later [⟨.instant, up⟩])
          have admitted := admitted rfl
          apply Obeys.bind
          · exact send_keeps sanctioned planned (within loaded)
              ⟨admitted.1, admitted.2.1, List.mem_append_left _ admitted.2.2⟩
          · intro _ body _ _
            cases body with
            | error why => trivial
            | ok json =>
                apply Obeys.request_bind trivial
                intro _
                apply Obeys.request_bind trivial
                intro _
                cases plan.count with
                | none => trivial
                | some count =>
                    apply Obeys.request_bind trivial
                    exact fun _ => trivial

end Operations

/-! ## All eight operations are sanctioned -/

section

variable (caller : Caller) (site voucher : String)

omit [Crates] in
theorem listSites_sanctioned : (Routes.listSites caller).Sanctioned caller :=
  Operation.sanctioned_call .listSites rfl rfl (by simp) rfl

omit [Crates] in
theorem listVouchers_sanctioned : (Routes.listVouchers site).Sanctioned caller :=
  Operation.sanctioned_call (.listVouchers site) rfl rfl (by simp) rfl

theorem createVouchers_sanctioned (body : Json) :
    (Routes.createVouchers caller site body).Sanctioned caller :=
  Operation.sanctioned_create rfl rfl rfl

omit [Crates] in
theorem deleteVoucher_sanctioned : (Routes.deleteVoucher site voucher).Sanctioned caller :=
  Operation.sanctioned_call (.deleteVoucher site voucher) rfl rfl (by simp) rfl

theorem sites_sanctioned : (GraphQl.sites caller).Sanctioned caller :=
  Operation.sanctioned_call .listSites rfl rfl (by simp) rfl

theorem vouchers_sanctioned : (GraphQl.vouchers site).Sanctioned caller :=
  Operation.sanctioned_call (.listVouchers site) rfl rfl (by simp) rfl

theorem gqlCreateVouchers_sanctioned (input : CreateVoucherInput) :
    (GraphQl.createVouchers caller site input).Sanctioned caller :=
  Operation.sanctioned_create rfl rfl rfl

omit [Crates] in
theorem revokeVoucher_sanctioned : (GraphQl.revokeVoucher site voucher).Sanctioned caller :=
  Operation.sanctioned_call (.deleteVoucher site voucher) rfl rfl (by simp) rfl

end

/-! ## Documents and routes -/

theorem named_keeps {key : String} {resolver : Call (Except GqlError FieldValue)}
    (keeps : resolver.Keeps (acting caller) history) :
    (GraphQl.named key resolver).Keeps (acting caller) history :=
  keeps.bind fun _ _ _ _ => trivial

theorem queryField_keeps (caller : Caller) (field : GraphQl.QueryField) :
    (field.resolver caller).Keeps (acting caller) history := by
  cases field with
  | introspection value => trivial
  | info => trivial
  | sites => exact resolve_keeps (sites_sanctioned caller)
  | vouchers siteId => exact resolve_keeps (vouchers_sanctioned caller siteId)

theorem mutationField_keeps (caller : Caller) (field : GraphQl.MutationField) :
    (field.resolver caller).Keeps (acting caller) history := by
  cases field with
  | introspection value => trivial
  | createVouchers siteId input =>
      exact resolve_keeps (gqlCreateVouchers_sanctioned caller siteId input.input)
  | revokeVoucher siteId voucherId =>
      exact resolve_keeps (revokeVoucher_sanctioned caller siteId voucherId)

theorem withExtracted_keeps {α : Type} {extracted : Except Rejection α}
    {handler : α → Call Response}
    (handled : ∀ value, (handler value).Keeps (acting caller) history) :
    (Routes.withExtracted extracted handler).Keeps (acting caller) history := by
  cases extracted with
  | error rejection => trivial
  | ok value => exact handled value

variable [GraphQlEngine]

/-- Whatever the document and however its fields are interleaved. -/
theorem execute_keeps (turns : List Nat) (document : GraphQlRequest) :
    (GraphQl.execute turns caller document).Keeps (acting caller) history := by
  unfold GraphQl.execute
  split
  · trivial
  · next fields _ =>
      apply Keeps.interleave
      · intro later programs _ keep
        unfold GraphQl.settle
        split
        · trivial
        · exact (Keeps.sequence _ keep).bind fun _ _ _ _ => trivial
      · intro program member
        rcases List.mem_map.mp member with ⟨field, _, rfl⟩
        exact named_keeps (queryField_keeps caller field.2)
  · next fields _ =>
      apply (Keeps.sequence _ _).bind
      · exact fun _ _ _ _ => trivial
      · intro program member
        rcases List.mem_map.mp member with ⟨field, _, rfl⟩
        exact named_keeps (mutationField_keeps caller field.2)

theorem graphqlHandler_keeps (turns : List Nat) (document : GraphQlRequest) :
    (Routes.graphqlHandler turns caller document).Keeps (acting caller) history := by
  apply Obeys.request_bind trivial
  intro started
  apply (execute_keeps turns document).bind
  intro _ _ _ _
  apply Obeys.request_bind trivial
  intro _
  apply Obeys.request_bind trivial
  intro _
  apply Obeys.request_bind trivial
  exact fun _ => trivial

end Acting

end VoucherProxy
