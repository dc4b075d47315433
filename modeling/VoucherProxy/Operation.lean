import VoucherProxy.Caller

namespace VoucherProxy

/-! What every operation does on either surface, in this order: scope, site,
quota, request policy, and only then the call to the controller. -/

variable [Crates]

/-- A call that policy has accepted, with the number of vouchers it creates. -/
structure Plan where
  count : Option UInt32
  request : Upstream → Except ProxyError UpstreamRequest

/-- A call that nothing but the upstream client has a say in. -/
def Plan.call (request : Upstream → Except ProxyError UpstreamRequest) : Plan :=
  ⟨none, request⟩

structure Operation (α : Type) where
  action : String
  scope : Scope
  site : Option String
  target : Option String
  /-- Request policy; runs once the quota is spent. -/
  plan : Except ProxyError Plan
  /-- What the caller is shown of a successful answer. -/
  view : Json → α

/-- The policy of a create: the request must keep within the caller's ceilings. -/
def Plan.create (caller : Caller) (site : String)
    (parsed : Except ProxyError CreateVoucherRequest) : Except ProxyError Plan := do
  let request ← parsed
  request.enforce caller.ceilings
  return { count := some request.count
           request := fun upstream => do
             let body ← request.toUpstreamBody
             upstream.createVouchers site body }

namespace Caller

/-- The checks that need neither quota nor controller. -/
def permits {α : Type} (caller : Caller) (operation : Operation α) : Except ProxyError Unit := do
  caller.requireScope operation.scope
  match operation.site with
  | none => return
  | some site => caller.requireSite site

/-- Scope and site refusals are free; the quota is spent after them. -/
def admission {α : Type} (caller : Caller) (guard : Guard) (operation : Operation α) :
    Call (Except ProxyError Unit) :=
  match caller.permits operation with
  | .error why => return .error why
  | .ok () => caller.charge guard operation.action

omit [Crates] in
theorem permits_eq_ok {α : Type} {caller : Caller} {operation : Operation α} :
    caller.permits operation = .ok () ↔
      caller.token.hasScope operation.scope = true ∧
      ∀ site, operation.site = some site → caller.token.allowsSite site = true := by
  unfold permits requireScope
  cases caller.token.hasScope operation.scope with
  | false => simp [Bind.bind, Except.bind]
  | true =>
      cases operation.site with
      | none => simp [Bind.bind, Except.bind, Pure.pure, Except.pure]
      | some site =>
          unfold requireSite
          cases caller.token.allowsSite site <;> simp [Bind.bind, Except.bind]

end Caller

/-! ## What the controller can be asked for -/

/-- The four calls, with what each is about. -/
inductive UpstreamCall
  | listSites
  | listVouchers (site : String)
  | createVouchers (site : String) (request : CreateVoucherRequest)
  | deleteVoucher (site voucher : String)
  deriving DecidableEq

namespace UpstreamCall

def scope : UpstreamCall → Scope
  | .listSites => .sitesRead
  | .listVouchers _ => .vouchersRead
  | .createVouchers _ _ => .vouchersCreate
  | .deleteVoucher _ _ => .vouchersRevoke

def site : UpstreamCall → Option String
  | .listSites => none
  | .listVouchers site => some site
  | .createVouchers site _ => some site
  | .deleteVoucher site _ => some site

/-- The request an upstream client forms for the call, if the ids let it. -/
def prepare (upstream : Upstream) : UpstreamCall → Except ProxyError UpstreamRequest
  | .listSites => upstream.listSites
  | .listVouchers site => upstream.listVouchers site
  | .createVouchers site request => upstream.createVouchers site (.object request.members)
  | .deleteVoucher site voucher => upstream.deleteVoucher site voucher

def method : UpstreamCall → Method
  | .listSites => .get
  | .listVouchers _ => .get
  | .createVouchers _ _ => .post
  | .deleteVoucher _ _ => .delete

/-- What follows the configured base in the URL. -/
def path : UpstreamCall → String
  | .listSites => "/sites"
  | .listVouchers site => s!"/sites/{site}/hotspot/vouchers?limit={Upstream.voucherPageLimit}"
  | .createVouchers site _ => s!"/sites/{site}/hotspot/vouchers"
  | .deleteVoucher site voucher => s!"/sites/{site}/hotspot/vouchers/{voucher}"

def body : UpstreamCall → Option Json
  | .createVouchers _ request => some (.object request.members)
  | _ => none

/-- The ids that end up in the URL. -/
def ids : UpstreamCall → List String
  | .listSites => []
  | .listVouchers site => [site]
  | .createVouchers site _ => [site]
  | .deleteVoucher site voucher => [site, voucher]

omit [Crates] in
/-- A request is formed exactly when every id is one, and then it is the one
that belongs to the call. -/
theorem prepare_eq_ok {upstream : Upstream} {call : UpstreamCall} {sent : UpstreamRequest} :
    call.prepare upstream = .ok sent ↔
      (∀ id ∈ call.ids, IsId id) ∧ sent = upstream.prepare call.method call.path call.body := by
  cases call with
  | listSites => simp [prepare, ids, Upstream.listSites, method, path, body, eq_comm]
  | listVouchers site =>
      rcases validateId_cases site "site id" with ⟨id, accepts⟩ | ⟨notId, message, refuses⟩
      · simp [prepare, ids, Upstream.listVouchers, method, path, body, accepts, id,
          Bind.bind, Except.bind, Pure.pure, Except.pure, eq_comm]
      · simp [prepare, ids, Upstream.listVouchers, refuses, notId, Bind.bind, Except.bind]
  | createVouchers site request =>
      rcases validateId_cases site "site id" with ⟨id, accepts⟩ | ⟨notId, message, refuses⟩
      · simp [prepare, ids, Upstream.createVouchers, method, path, body, accepts, id,
          Bind.bind, Except.bind, Pure.pure, Except.pure, eq_comm]
      · simp [prepare, ids, Upstream.createVouchers, refuses, notId, Bind.bind, Except.bind]
  | deleteVoucher site voucher =>
      rcases validateId_cases site "site id" with ⟨id, accepts⟩ | ⟨notId, message, refuses⟩
      · rcases validateId_cases voucher "voucher id" with
          ⟨other, acceptsOther⟩ | ⟨notId, message, refuses⟩
        · have valid : ∀ own ∈ (deleteVoucher site voucher).ids, IsId own := by
            simp [ids, id, other]
          rw [iff_true_intro valid, true_and]
          simp [prepare, Upstream.deleteVoucher, method, path, body, accepts, acceptsOther,
            Bind.bind, Except.bind, Pure.pure, Except.pure, eq_comm]
        · simp [prepare, ids, Upstream.deleteVoucher, accepts, refuses, notId, Bind.bind,
            Except.bind]
      · simp [prepare, ids, Upstream.deleteVoucher, refuses, notId, Bind.bind, Except.bind]

/-- A create passes the request policy under these ceilings. -/
def Within (ceilings : Ceilings) (call : UpstreamCall) : Prop :=
  ∀ site request, call = .createVouchers site request → request.enforce ceilings = .ok ()

end UpstreamCall

/-- Whatever the operation sends is one of the four calls, for the scope and the
site it checks and within the caller's ceilings. -/
def Operation.Sanctioned {α : Type} (operation : Operation α) (caller : Caller) : Prop :=
  ∀ plan, operation.plan = .ok plan → ∃ call : UpstreamCall,
    call.scope = operation.scope ∧ call.site = operation.site ∧
    call.Within caller.ceilings ∧ ∀ upstream, plan.request upstream = call.prepare upstream

omit [Crates] in
/-- A create plan is made from a request that policy accepted. -/
theorem Plan.create_eq_ok {caller : Caller} {site : String}
    {parsed : Except ProxyError CreateVoucherRequest} {plan : Plan}
    (planned : Plan.create caller site parsed = .ok plan) :
    ∃ request, parsed = .ok request ∧ request.enforce caller.ceilings = .ok () ∧
      plan.count = some request.count ∧
      ∀ upstream, plan.request upstream =
        (UpstreamCall.createVouchers site request).prepare upstream := by
  unfold Plan.create at planned
  cases parsed with
  | error why => simp [Bind.bind, Except.bind] at planned
  | ok request =>
      cases enforced : request.enforce caller.ceilings with
      | error why => simp [Bind.bind, Except.bind, enforced] at planned
      | ok accepted =>
          simp only [Bind.bind, Except.bind, enforced, Pure.pure, Except.pure,
            Except.ok.injEq] at planned
          subst planned
          exact ⟨request, rfl, enforced, rfl, fun _ => rfl⟩

omit [Crates] in
theorem Operation.sanctioned_call {α : Type} {operation : Operation α} {caller : Caller}
    (call : UpstreamCall) (scope : call.scope = operation.scope)
    (site : call.site = operation.site)
    (notCreate : ∀ site request, call ≠ .createVouchers site request)
    (planned : operation.plan = .ok (.call fun upstream => call.prepare upstream)) :
    operation.Sanctioned caller := by
  intro plan same
  rw [planned, Except.ok.injEq] at same
  subst same
  exact ⟨call, scope, site, fun site request isCreate => absurd isCreate (notCreate site request),
    fun _ => rfl⟩

omit [Crates] in
theorem Operation.sanctioned_create {α : Type} {operation : Operation α} {caller : Caller}
    {target : String} {parsed : Except ProxyError CreateVoucherRequest}
    (scope : .vouchersCreate = operation.scope) (site : some target = operation.site)
    (planned : operation.plan = Plan.create caller target parsed) :
    operation.Sanctioned caller := by
  intro plan same
  rw [planned] at same
  rcases Plan.create_eq_ok same with ⟨request, -, enforced, -, prepared⟩
  refine ⟨.createVouchers target request, scope, site, ?_, prepared⟩
  intro otherSite other isCreate
  rw [UpstreamCall.createVouchers.injEq] at isCreate
  rw [← isCreate.2]
  exact enforced

end VoucherProxy
