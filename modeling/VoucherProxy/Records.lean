import VoucherProxy.Endpoints
import VoucherProxy.Surfaces

namespace VoucherProxy

/-! What a request to a REST route leaves behind: in its token's quota, on the
audit target and in the counters, finished or dropped. -/

section

variable [Crates]

/-! ## Steps that spare the limiters -/

variable [Framework] [GraphQlEngine]

end

section

open Sample

end

/-! ## One line and one count -/

section

variable [Crates] [Framework] [GraphQlEngine]

end

section

open Sample

end

/-! ## Dropped requests -/

section

variable [Crates] [Framework] [GraphQlEngine]

/-- Every call that was sent has its line and its count, in the name of the token
that was charged. -/
def Accounted (endpoint : Endpoint) (events : History) : Prop :=
  ∀ slot sent reply, (⟨.send slot sent, reply⟩ : Event Effect Answer) ∈ events →
    ∃ (own : Nat) (token : TokenConfig),
      (⟨.check own token, true⟩ : Event Effect Answer) ∈ events ∧
      ∃ site target count status outcome elapsed,
        .request token.name endpoint.action site target count status outcome elapsed ∈
          audits events ∧
        (token.name, endpoint.action, outcome) ∈ counts events

omit [Framework] [GraphQlEngine] in
theorem unsent_of_exchanges {early late : History} (unsent : exchanges (early ++ late) = [])
    (slot : Nat) (sent : UpstreamRequest) (reply : Reply) :
    (⟨.send slot sent, reply⟩ : Event Effect Answer) ∉ early := by
  intro member
  have exchanged := mem_exchanges (List.mem_append_left late member)
  rw [unsent] at exchanged
  cases exchanged

omit [GraphQlEngine] in
/-- Of a request that sent a call, the last event is its line and there is no other. -/
theorem Served.of_sent {settings : RouterSettings} {request : HttpRequest} {endpoint : Endpoint}
    {events : History} {whole : Response} (served : Served settings request endpoint events whole)
    (sends : exchanges events ≠ []) :
    ∃ front line own token, events = front ++ [⟨.audit line, ()⟩] ∧ audits front = [] ∧
      (⟨.check own token, true⟩ : Event Effect Answer) ∈ events ∧
      ∃ site target count status outcome elapsed,
        line = .request token.name endpoint.action site target count status outcome elapsed ∧
        counts events = [(token.name, endpoint.action, outcome)] := by
  cases served with
  | oversized exceeds => exact absurd rfl sends
  | refused fits extracted => exact absurd (extraction_of_trace extracted).silent.2 sends
  | rejected fits extracted rejects => exact absurd (extraction_of_trace extracted).silent.2 sends
  | @handled early handling caller operation result fits extracted takes handles =>
      have extraction := extraction_of_trace extracted
      have handled := handled_of_trace handles
      rw [exchanges_append, extraction.silent.2] at sends
      rcases handled.charged_of_exchanges sends with ⟨slot, charged⟩
      rcases handled.recorded with ⟨count, elapsed, lines, counted⟩
      rw [charged, (Endpoint.operation_eq_ok takes).1] at lines
      rcases handled.ends_audited with ⟨front, line, rfl⟩
      rw [audits_append] at lines
      rcases List.append_inj' lines rfl with ⟨nothing, last⟩
      refine ⟨early ++ front, line, slot, caller.token, (List.append_assoc ..).symm, ?_, ?_,
        _, _, count, _, _, elapsed, List.singleton_inj.mp last, ?_⟩
      · rw [audits_append, extraction.unrecorded.1, nothing]
        rfl
      · have member : (slot, caller.token, true) ∈ charges (front ++ [⟨.audit line, ()⟩]) := by
          rw [charged]
          exact List.mem_singleton_self _
        exact List.mem_append_right early (mem_charges.mp member)
      · rw [counts_append, extraction.unrecorded.2, counted, (Endpoint.operation_eq_ok takes).1]
        rfl

/-- A request that was dropped after its call has no line. -/
theorem audits_of_dropped {settings : RouterSettings} {turns : List Nat} {request : HttpRequest}
    {endpoint : Endpoint} (asks : Endpoint.ofRequest request = some endpoint)
    {events : History} {effect : Effect} {next : Answer effect → Call Response}
    (trace : (Routes.serve settings turns request).Trace events (.perform effect next))
    {slot : Nat} {sent : UpstreamRequest} {reply : Reply}
    (sends : (⟨.send slot sent, reply⟩ : Event Effect Answer) ∈ events) : audits events = [] := by
  rcases Program.exists_finished nonempty_answer (.perform effect next) with
    ⟨later, response, finished⟩
  rcases served_of_trace asks (trace.append finished) with ⟨whole, -, served⟩
  have exchanged : exchanges (events ++ later) ≠ [] := by
    intro nothing
    exact unsent_of_exchanges nothing slot sent reply sends
  rcases served.of_sent exchanged with ⟨front, line, own, token, place, nothing, -⟩
  rcases List.eq_nil_or_concat later with rfl | ⟨middle, last, rfl⟩
  · cases finished
  · rw [List.concat_eq_append, ← List.append_assoc] at place
    rcases List.append_inj' place rfl with ⟨rfl, -⟩
    rw [audits_append] at nothing
    exact (List.append_eq_nil_iff.mp nothing).1

/-- Wherever a request stops, its call is accounted for exactly when none was sent
or the request ran to its end. -/
theorem accounted_iff {settings : RouterSettings} {turns : List Nat} {request : HttpRequest}
    {endpoint : Endpoint} (asks : Endpoint.ofRequest request = some endpoint)
    {events : History} {rest : Call Response}
    (trace : (Routes.serve settings turns request).Trace events rest) :
    Accounted endpoint events ↔
      (∀ slot sent reply, (⟨.send slot sent, reply⟩ : Event Effect Answer) ∉ events) ∨
        ∃ response, rest = .pure response := by
  constructor
  · intro accounted
    by_contra neither
    rcases not_or.mp neither with ⟨sends, unfinished⟩
    push Not at sends
    rcases sends with ⟨slot, sent, reply, sends⟩
    cases rest with
    | pure response => exact unfinished ⟨response, rfl⟩
    | perform effect next =>
        rcases accounted slot sent reply sends with ⟨own, token, -, _, _, _, _, _, _, line, -⟩
        rw [audits_of_dropped asks trace sends] at line
        cases line
  · rintro (unsent | ⟨response, rfl⟩) slot sent reply sends
    · exact absurd sends (unsent slot sent reply)
    · rcases served_of_trace asks trace with ⟨whole, -, served⟩
      have exchanged : exchanges events ≠ [] := List.ne_nil_of_mem (mem_exchanges sends)
      rcases served.of_sent exchanged with ⟨front, line, own, token, rfl, -, charged,
        site, target, count, status, outcome, elapsed, rfl, counted⟩
      refine ⟨own, token, charged, site, target, count, status, outcome, elapsed, ?_, ?_⟩
      · rw [audits_append]
        exact List.mem_append_right _ (List.mem_singleton_self _)
      · rw [counted]
        exact List.mem_singleton_self _

end

section

open Sample

/-- A revocation whose client goes away while the controller is asked. -/
def droppedSteps : List Step :=
  .arrive [] (request "DELETE" "/proxy/network/integration/v1/sites/main/hotspot/vouchers/v1"
    receptionKey []) :: List.replicate 9 (.advance 0 outside)

abbrev droppedEvents : History := Step.history settings state droppedSteps 0

theorem accounted_iff_dropped : ∃ rest : Call Response,
    (Routes.serve settings [] (request "DELETE"
      "/proxy/network/integration/v1/sites/main/hotspot/vouchers/v1" receptionKey [])).Trace
        droppedEvents rest ∧
    (Accounted (.revocation "main" "v1") droppedEvents ↔
      (∀ slot sent reply, (⟨.send slot sent, reply⟩ : Event Effect Answer) ∉ droppedEvents) ∨
        ∃ response, rest = .pure response) := by
  have arrived : (Step.requests droppedSteps)[0]? = some ([], request "DELETE"
      "/proxy/network/integration/v1/sites/main/hotspot/vouchers/v1" receptionKey []) := rfl
  have asks : Endpoint.ofRequest (request "DELETE"
      "/proxy/network/integration/v1/sites/main/hotspot/vouchers/v1" receptionKey []) =
        some (.revocation "main" "v1") := by
    decide +kernel
  rcases Step.events_trace settings state arrived with ⟨rest, trace⟩
  exact ⟨rest, trace, accounted_iff asks trace⟩

/-- The revocation has reached the controller, and nothing says so. -/
theorem dropped_unaccounted :
    droppedEvents.getLast?.bind sent? = some (0, .delete,
      "https://unifi.local/proxy/network/integration/v1/sites/main/hotspot/vouchers/v1") ∧
      ¬Accounted (.revocation "main" "v1") droppedEvents := by
  have sends : droppedEvents.getLast?.bind sent? = some (0, .delete,
      "https://unifi.local/proxy/network/integration/v1/sites/main/hotspot/vouchers/v1") := by
    decide +kernel
  refine ⟨sends, fun accounted => ?_⟩
  rcases sent?_eq_some sends with ⟨sent, reply, last, -⟩
  rcases accounted 0 sent reply (List.mem_of_getLast? last) with
    ⟨own, token, -, site, target, count, status, outcome, elapsed, line, -⟩
  have unwritten : audits droppedEvents = [] := by decide +kernel
  rw [unwritten] at line
  cases line

end

end VoucherProxy
