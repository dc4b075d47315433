import VoucherProxy.Documents

namespace VoucherProxy

/-! Which failures an operation can end with: its own refusals before the call, or
what the controller's reply is read as. -/

/-- Refused by the proxy before anything was sent. -/
def ProxyError.Local (why : ProxyError) : Prop :=
  why.kind ∈ ["forbidden", "bad_request", "rate_limited"]

/-- What a failed call is read as. -/
def ProxyError.Remote (why : ProxyError) : Prop :=
  why.kind ∈ ["upstream_error", "upstream_unreachable"]

theorem ProxyError.local_badRequest (message : String) : (badRequest message).Local := by
  simp [Local, kind]

theorem ProxyError.local_forbidden (message : String) : (forbidden message).Local := by
  simp [Local, kind]

theorem Reply.interpret_fails [SerdeJson] (reply : Reply) :
    FailsWith ProxyError.Remote reply.interpret := by
  cases reply with
  | failed error => exact .error (by simp [ProxyError.Remote, ProxyError.kind])
  | answered status text =>
      unfold Reply.interpret
      simp only
      split
      · exact .ok _
      · exact .error (by simp [ProxyError.Remote, ProxyError.kind])

theorem validateId_fails (value what : String) :
    FailsWith ProxyError.Local (validateId value what) := by
  rcases validateId_cases value what with ⟨-, accepts⟩ | ⟨-, message, refuses⟩
  · rw [accepts]
    exact .ok _
  · rw [refuses]
    exact .error (ProxyError.local_badRequest message)

theorem UpstreamCall.prepare_fails (upstream : Upstream) (call : UpstreamCall) :
    FailsWith ProxyError.Local (call.prepare upstream) := by
  cases call with
  | listSites => exact .ok _
  | listVouchers site => exact (validateId_fails site _).bind fun _ => .ok _
  | createVouchers site request => exact (validateId_fails site _).bind fun _ => .ok _
  | deleteVoucher site voucher =>
      apply (validateId_fails site _).bind
      exact fun _ => (validateId_fails voucher _).bind fun _ => .ok _

theorem CreateVoucherRequest.parse_fails [SerdeJson] (body : Json) :
    FailsWith ProxyError.Local (parse body) := by
  unfold parse
  split
  · exact .ok _
  · exact .error (ProxyError.local_badRequest _)

theorem CreateVoucherRequest.enforce_fails (request : CreateVoucherRequest)
    (ceilings : Ceilings) : FailsWith ProxyError.Local (request.enforce ceilings) := by
  unfold enforce
  apply FailsWith.check (ProxyError.local_badRequest _)
  apply FailsWith.check (ProxyError.local_badRequest _)
  apply FailsWith.check (ProxyError.local_badRequest _)
  apply FailsWith.check (ProxyError.local_forbidden _)
  apply FailsWith.check (ProxyError.local_badRequest _)
  apply FailsWith.check (ProxyError.local_forbidden _)
  exact .lastCheck (ProxyError.local_badRequest _)

theorem Caller.permits_fails {α : Type} (caller : Caller) (operation : Operation α) :
    FailsWith ProxyError.Local (caller.permits operation) := by
  have hasScope : FailsWith ProxyError.Local (caller.requireScope operation.scope) := by
    unfold requireScope
    split
    · exact .ok _
    · exact .error (ProxyError.local_forbidden _)
  have hasSite : ∀ site, FailsWith ProxyError.Local (caller.requireSite site) := by
    intro site
    unfold requireSite
    split
    · exact .ok _
    · exact .error (ProxyError.local_forbidden _)
  apply hasScope.bind
  intro _
  cases operation.site with
  | none => exact .ok _
  | some site => exact hasSite site

theorem Plan.create_fails [SerdeJson] (caller : Caller) (site : String) (body : Json) :
    FailsWith ProxyError.Local
      (Plan.create caller site (CreateVoucherRequest.parse body)) := by
  apply (CreateVoucherRequest.parse_fails body).bind
  intro request
  exact (request.enforce_fails caller.ceilings).bind fun _ => .ok _

section

variable [Crates] [Framework]

theorem Endpoint.plan_fails {settings : RouterSettings} {request : HttpRequest} {caller : Caller}
    {endpoint : Endpoint} {operation : Operation Json}
    (takes : endpoint.operation settings request caller = .ok operation) :
    FailsWith ProxyError.Local operation.plan := by
  cases endpoint with
  | sites =>
      rcases Except.ok.inj takes with rfl
      exact .ok _
  | listing site =>
      rcases bind_eq_ok.mp takes with ⟨decoded, -, made⟩
      rcases Except.ok.inj made with rfl
      exact .ok _
  | creation site =>
      rcases bind_eq_ok.mp takes with ⟨decoded, -, rest⟩
      rcases bind_eq_ok.mp rest with ⟨body, -, made⟩
      rcases Except.ok.inj made with rfl
      exact Plan.create_fails caller decoded body
  | revocation site voucher =>
      rcases bind_eq_ok.mp takes with ⟨decoded, -, rest⟩
      rcases bind_eq_ok.mp rest with ⟨id, -, made⟩
      rcases Except.ok.inj made with rfl
      exact .ok _

end

variable [Crates] {α : Type} {operation : Operation α} {caller : Caller} {guard : Guard}

theorem Admitting.fails {events : History} {result : Except ProxyError Unit}
    (admitting : Admitting operation caller guard events result) :
    FailsWith ProxyError.Local result := by
  cases admitting with
  | refused refused => exact .error (caller.permits_fails operation _ refused)
  | limited _ => exact .error (by simp [ProxyError.Local, ProxyError.kind])
  | admitted _ => exact .ok _

/-- An operation that sent nothing was refused by the proxy itself. -/
theorem Ran.refused {events : History} {outcome : Outcome α}
    (ran : Ran operation caller guard events outcome) (sanctioned : operation.Sanctioned caller)
    (plans : FailsWith ProxyError.Local operation.plan) (unsent : exchanges events = []) :
    ∃ why, outcome.result = .error why ∧ why.Local := by
  cases ran with
  | barred barred => exact ⟨_, rfl, barred.fails _ rfl⟩
  | unplanned _ unplanned => exact ⟨_, rfl, plans _ unplanned⟩
  | called admitted planned calling up now =>
      cases calling with
      | @unformed why unformed =>
          rcases sanctioned _ planned with ⟨call, -, -, -, prepared⟩
          rw [prepared] at unformed
          exact ⟨why, rfl, call.prepare_fails _ why unformed⟩
      | sent _ _ =>
          rw [exchanges_append, admitted.silent] at unsent
          cases unsent

/-- However an operation ends, its tag is one of a few. -/
theorem Handled.tag_mem {events : History} {result : Except ProxyError α}
    (handled : Handled operation caller events result) (sanctioned : operation.Sanctioned caller)
    (plans : FailsWith ProxyError.Local operation.plan) :
    (resultTag result).2 ∈ ["ok", "forbidden", "bad_request", "rate_limited", "upstream_error",
      "upstream_unreachable"] := by
  cases handled with
  | @intro events outcome guard ran started now =>
      rcases ran.exchanged with ⟨unsent, -⟩ | ⟨plan, sent, reply, -, -, ended, -⟩
      · rcases ran.refused sanctioned plans unsent with ⟨why, failed, isLocal⟩
        rw [failed]
        simp only [ProxyError.Local, List.mem_cons, List.not_mem_nil, or_false] at isLocal
        simp only [resultTag, List.mem_cons, List.not_mem_nil, or_false]
        tauto
      · rw [ended]
        cases read : reply.interpret with
        | ok body => simp [resultTag, Except.map]
        | error why =>
            have remote := reply.interpret_fails why read
            simp only [ProxyError.Remote, List.mem_cons, List.not_mem_nil, or_false] at remote
            simp only [resultTag, Except.map, List.mem_cons, List.not_mem_nil, or_false]
            tauto

end VoucherProxy
