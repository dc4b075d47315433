import VoucherProxy.Confinement
import VoucherProxy.Documents

namespace VoucherProxy

/-! What a request to the controller asks to be changed there, read from the request
alone. -/

inductive Demand
  | create (site : String) (count : UInt32)
  | revoke (site voucher : String)
  deriving DecidableEq, Repr

def Demand.count? : Demand → Option UInt32
  | .create _ count => some count
  | .revoke _ _ => none

namespace UpstreamRequest

/-- The `count` in the body. -/
def count? (request : UpstreamRequest) : Option UInt32 :=
  (request.body.bind fun body => body.get "count").bind fun value =>
    (Codec.u32.decode value).toOption

/-- Reads demand nothing. -/
def demand? (request : UpstreamRequest) : Option Demand :=
  match request.method, (Text.split request.url '/').reverse with
  | .post, "vouchers" :: "hotspot" :: site :: "sites" :: _ => request.count?.map (.create site)
  | .delete, voucher :: "vouchers" :: "hotspot" :: site :: "sites" :: _ =>
      some (.revoke site voucher)
  | _, _ => none

end UpstreamRequest

namespace UpstreamCall

def demand : UpstreamCall → Option Demand
  | .listSites => none
  | .listVouchers _ => none
  | .createVouchers site request => some (.create site request.count)
  | .deleteVoucher site voucher => some (.revoke site voucher)

/-- Below any base, the last segments of the URL are those of the call. -/
theorem split_url {call : UpstreamCall} (valid : ∀ id ∈ call.ids, IsId id) (base : String) :
    Text.split (base ++ call.path) '/' = Text.split base '/' ++ call.target.segments.tail := by
  have spelled : call.path.toList =
      '/' :: ['/'].intercalate (call.target.segments.tail.map String.toList) := by
    rw [call.toList_path]
    cases call <;> simp [target, Target.segments, List.intercalate]
  apply Text.split_append spelled
  · intro piece member
    exact clean_segments valid piece (List.mem_of_mem_tail member)
  · cases call <;> simp [target, Target.segments]

/-- A request that was formed for a call demands what the call is for. -/
theorem demand?_of_prepare {call : UpstreamCall} {upstream : Upstream} {sent : UpstreamRequest}
    (formed : call.prepare upstream = .ok sent) : sent.demand? = call.demand := by
  rcases prepare_eq_ok.mp formed with ⟨valid, rfl⟩
  have url : Text.split (upstream.prepare call.method call.path call.body).url '/' =
      Text.split upstream.base '/' ++ call.target.segments.tail := split_url valid upstream.base
  rw [UpstreamRequest.demand?, url, List.reverse_append]
  cases call with
  | listSites => rfl
  | listVouchers site => rfl
  | createVouchers site request =>
      have counted : (upstream.prepare .post (createVouchers site request).path
          (some (.object request.members))).count? = some request.count := by
        have written : request.members.lookup "count" = some (Codec.u32.encode request.count) :=
          request.lookup_members .count
        have decoded : Codec.u32.decode (Codec.u32.encode request.count) = .ok request.count :=
          Codec.u32.decode_eq_ok.mpr rfl
        change ((request.members.lookup "count").bind fun value =>
          (Codec.u32.decode value).toOption) = _
        rw [written, Option.bind_some, decoded]
        rfl
      exact congrArg (Option.map (Demand.create site)) counted
  | deleteVoucher site voucher => rfl

end UpstreamCall

/-! ## Operations -/

/-- What an operation would change, given the vouchers its plan creates. -/
def Operation.demand {α : Type} (operation : Operation α) (count : Option UInt32) : Option Demand :=
  match operation.scope, operation.site, operation.target, count with
  | .vouchersCreate, some site, _, some count => some (.create site count)
  | .vouchersRevoke, some site, some voucher, _ => some (.revoke site voucher)
  | _, _, _, _ => none

/-- Whatever the operation sends demands what the operation says, and its plan counts
the vouchers. -/
def Operation.Demands {α : Type} (operation : Operation α) : Prop :=
  ∀ plan upstream sent, operation.plan = .ok plan → plan.request upstream = .ok sent →
    sent.demand? = operation.demand plan.count ∧ plan.count = sent.demand?.bind Demand.count?

theorem Operation.Demands.of_call {α : Type} {operation : Operation α} (call : UpstreamCall)
    (planned : operation.plan = .ok (.call fun upstream => call.prepare upstream))
    (demands : call.demand = operation.demand none)
    (countless : call.demand.bind Demand.count? = none) : operation.Demands := by
  intro plan upstream sent same formed
  rw [planned, Except.ok.injEq] at same
  subst same
  have demanded : sent.demand? = call.demand := UpstreamCall.demand?_of_prepare formed
  rw [demanded]
  exact ⟨demands, countless.symm⟩

theorem Operation.Demands.of_create {α : Type} {operation : Operation α} {caller : Caller}
    {target : String} {parsed : Except ProxyError CreateVoucherRequest}
    (planned : operation.plan = Plan.create caller target parsed)
    (scope : operation.scope = .vouchersCreate) (site : operation.site = some target) :
    operation.Demands := by
  intro plan upstream sent same formed
  rw [planned] at same
  rcases Plan.create_eq_ok same with ⟨request, -, -, counted, prepared⟩
  rw [prepared] at formed
  have creates : operation.demand (some request.count) = some (.create target request.count) := by
    simp [Operation.demand, scope, site]
  rw [UpstreamCall.demand?_of_prepare formed, counted, creates]
  exact ⟨rfl, rfl⟩

variable [Crates]

theorem GraphQl.MutationField.operation_demands {caller : Caller} {field : GraphQl.MutationField}
    {operation : Operation FieldValue} (own : field.operation? caller = some operation) :
    operation.Demands := by
  cases field with
  | introspection value => cases own
  | createVouchers siteId input =>
      rcases Option.some.inj own with rfl
      exact .of_create rfl rfl rfl
  | revokeVoucher siteId voucherId =>
      rcases Option.some.inj own with rfl
      exact .of_call (.deleteVoucher siteId voucherId) rfl rfl rfl

theorem Endpoint.operation_demands [Framework] {settings : RouterSettings} {request : HttpRequest}
    {caller : Caller} {endpoint : Endpoint} {operation : Operation Json}
    (takes : endpoint.operation settings request caller = .ok operation) : operation.Demands := by
  cases endpoint with
  | sites =>
      rcases Except.ok.inj takes with rfl
      exact .of_call .listSites rfl rfl rfl
  | listing site =>
      rcases bind_eq_ok.mp takes with ⟨decoded, -, made⟩
      rcases Except.ok.inj made with rfl
      exact .of_call (.listVouchers decoded) rfl rfl rfl
  | creation site =>
      rcases bind_eq_ok.mp takes with ⟨decoded, -, rest⟩
      rcases bind_eq_ok.mp rest with ⟨body, -, made⟩
      rcases Except.ok.inj made with rfl
      exact .of_create rfl rfl rfl
  | revocation site voucher =>
      rcases bind_eq_ok.mp takes with ⟨decoded, -, rest⟩
      rcases bind_eq_ok.mp rest with ⟨id, -, made⟩
      rcases Except.ok.inj made with rfl
      exact .of_call (.deleteVoucher decoded id) rfl rfl rfl

end VoucherProxy
