import VoucherProxy.Endpoints

namespace VoucherProxy

/-! Everything a request has done by the time it is answered, whatever it asked for. -/

/-- The action a handler of the matched route records. -/
def handledAs (request : HttpRequest) : String :=
  match Route.ofPath request.path with
  | some .info => "info"
  | some .graphqlSdl => "graphql:schema"
  | some .graphql => "graphql"
  | some .sites => "sites:list"
  | some (.vouchers _) => if request.method = "POST" then "vouchers:create" else "vouchers:list"
  | some (.voucher _ _) => "vouchers:revoke"
  | _ => "-"

theorem Endpoint.action_eq {request : HttpRequest} {endpoint : Endpoint}
    (asks : ofRequest request = some endpoint) : endpoint.action = handledAs request := by
  unfold ofRequest at asks
  unfold handledAs
  cases found : Route.ofPath request.path with
  | none => simp [found] at asks
  | some route =>
      cases route with
      | sites =>
          simp only [found, Option.ite_none_right_eq_some, Option.some.injEq] at asks
          rw [← asks.2]
          rfl
      | vouchers site =>
          simp only [found] at asks
          by_cases posts : request.method = "POST"
          · simp only [posts, if_true, Option.some.injEq] at asks ⊢
            rw [← asks]
            rfl
          · simp only [posts, if_false, Option.ite_none_right_eq_some,
              Option.some.injEq] at asks ⊢
            rw [← asks.2]
            rfl
      | voucher site voucher =>
          simp only [found, Option.ite_none_right_eq_some, Option.some.injEq] at asks
          rw [← asks.2]
          rfl
      | _ => simp [found] at asks

variable [Crates]

/-- Nothing but lines of refusals. -/
def Anonymous (events : History) : Prop :=
  ∀ event ∈ events, ∃ action reason status, event.effect = .audit (.rejected action reason status)

theorem Anonymous.unsent {events : History} (anonymous : Anonymous events) :
    exchanges events = [] := by
  apply List.filterMap_eq_nil_iff.mpr
  rintro ⟨effect, answer⟩ member
  rcases anonymous _ member with ⟨action, reason, status, rfl⟩
  rfl

/-- What the handler of a document does around its execution. -/
def documented (caller : Caller) (document : GraphQlRequest) (started now : Nat)
    (executed : History) (response : GraphQlResponse) : History :=
  let outcome := if response.isOk then "ok" else "graphql_errors"
  [⟨.instant, started⟩] ++ executed ++
    [⟨.recordRequest caller.name "graphql" outcome, ()⟩, ⟨.instant, now⟩,
      ⟨.audit (.request caller.name "graphql" "-" (GraphQl.describe document.query) 0
        (if response.isOk then 200 else 400) outcome (millis (now - started))), ()⟩]

variable [Framework] [GraphQlEngine]

inductive Concluded (settings : RouterSettings) (turns : List Nat) (request : HttpRequest) :
    History → Prop
  | anonymous {events : History} (anonymous : Anonymous events) :
      Concluded settings turns request events
  | refused {extraction : History} {why : ProxyError}
      (extracted : (Caller.fromRequestParts request).Trace extraction (.pure (.error why))) :
      Concluded settings turns request extraction
  | rejected {extraction : History} {caller : Caller}
      (extracted : (Caller.fromRequestParts request).Trace extraction (.pure (.ok caller))) :
      Concluded settings turns request extraction
  | plain {extraction : History} {caller : Caller}
      (extracted : (Caller.fromRequestParts request).Trace extraction (.pure (.ok caller)))
      (handles : handledAs request ∈ ["info", "graphql:schema"]) :
      Concluded settings turns request
        (extraction ++ [⟨.recordRequest caller.name (handledAs request) "ok", ()⟩])
  | document {extraction executed : History} {caller : Caller} {document : GraphQlRequest}
      {response : GraphQlResponse}
      (extracted : (Caller.fromRequestParts request).Trace extraction (.pure (.ok caller)))
      (handles : handledAs request = "graphql")
      (reads : Framework.graphQlBody settings.maxBodyBytes request = .ok document)
      (executes : (GraphQl.execute turns caller document).Trace executed (.pure response))
      (started now : Nat) :
      Concluded settings turns request
        (extraction ++ documented caller document started now executed response)
  | handled {endpoint : Endpoint} {extraction events : History} {caller : Caller}
      {operation : Operation Json} {result : Except ProxyError Json}
      (asks : Endpoint.ofRequest request = some endpoint)
      (extracted : (Caller.fromRequestParts request).Trace extraction (.pure (.ok caller)))
      (takes : endpoint.operation settings request caller = .ok operation)
      (handles : (operation.handle caller).Trace events (.pure result)) :
      Concluded settings turns request (extraction ++ events)

namespace Concluded

open Program

variable {settings : RouterSettings} {turns : List Nat} {request : HttpRequest}

theorem of_pure {response value : Response} {events : History}
    (trace : (Program.pure response : Call Response).Trace events (.pure value)) :
    Concluded settings turns request events := by
  rcases trace.of_pure with ⟨rfl, -⟩
  exact .anonymous (by simp [Anonymous])

theorem of_notAllowed {response : Response} {events : History}
    (trace : (Routes.notAllowed request).Trace events (.pure response)) :
    Concluded settings turns request events := by
  rcases Trace.of_request trace with ⟨_, later, rfl, last⟩
  rcases Trace.of_pure last with ⟨rfl, -⟩
  exact .anonymous (by simp [Anonymous])

theorem of_getting {handler : Call Response} {response : Response} {events : History}
    (trace : (Routes.getting request handler).Trace events (.pure response))
    (handled : request.method = "GET" ∨ request.method = "HEAD" →
      handler.Trace events (.pure response) → Concluded settings turns request events) :
    Concluded settings turns request events := by
  unfold Routes.getting at trace
  split at trace
  · next reads => exact handled reads trace
  · exact of_notAllowed trace

theorem of_withCaller {handler : Caller → Call Response} {response : Response}
    {events : History}
    (trace : (Routes.withCaller request handler).Trace events (.pure response))
    (handled : ∀ caller extraction later,
      (Caller.fromRequestParts request).Trace extraction (.pure (.ok caller)) →
      (handler caller).Trace later (.pure response) →
      Concluded settings turns request (extraction ++ later)) :
    Concluded settings turns request events := by
  rcases Trace.of_bind trace with ⟨extraction, result, later, rfl, extracted, rest⟩
  cases result with
  | error why =>
      rcases Trace.of_pure rest with ⟨rfl, -⟩
      rw [List.append_nil]
      exact .refused extracted
  | ok caller => exact handled caller extraction later extracted rest

/-- A handler that only counts. -/
theorem of_plain {response : Response} {extraction later : History} {caller : Caller}
    (extracted : (Caller.fromRequestParts request).Trace extraction (.pure (.ok caller)))
    (handles : handledAs request ∈ ["info", "graphql:schema"]) {shown : Response}
    (trace : (Call.recordRequest caller.name (handledAs request) "ok" >>= fun _ =>
      (.pure shown : Call Response)).Trace later (.pure response)) :
    Concluded settings turns request (extraction ++ later) := by
  rcases Trace.of_request trace with ⟨_, nothing, rfl, last⟩
  rcases Trace.of_pure last with ⟨rfl, -⟩
  exact .plain extracted handles

omit [Framework] in
theorem documented_of_trace {response : Response} {caller : Caller} {document : GraphQlRequest}
    {events : History}
    (trace : (Routes.graphqlHandler turns caller document).Trace events (.pure response)) :
    ∃ started now executed shown, events = documented caller document started now executed shown ∧
      (GraphQl.execute turns caller document).Trace executed (.pure shown) := by
  rcases Trace.of_request trace with ⟨started, tail, rfl, executing⟩
  rcases Trace.of_bind executing with ⟨executed, shown, last, rfl, executes, rest⟩
  rcases Trace.of_request rest with ⟨_, timing, rfl, counted⟩
  rcases Trace.of_request counted with ⟨now, line, rfl, timed⟩
  rcases Trace.of_request timed with ⟨_, nothing, rfl, written⟩
  rcases Trace.of_pure written with ⟨rfl, -⟩
  exact ⟨started, now, executed, shown, rfl, executes⟩

theorem of_graphql {response : Response} {extraction later : History} {caller : Caller}
    (extracted : (Caller.fromRequestParts request).Trace extraction (.pure (.ok caller)))
    (handles : handledAs request = "graphql")
    (trace : (Routes.withExtracted (Framework.graphQlBody settings.maxBodyBytes request)
      (Routes.graphqlHandler turns caller)).Trace later (.pure response)) :
    Concluded settings turns request (extraction ++ later) := by
  unfold Routes.withExtracted at trace
  cases reads : Framework.graphQlBody settings.maxBodyBytes request with
  | error rejection =>
      rw [reads] at trace
      rcases Trace.of_pure trace with ⟨rfl, -⟩
      rw [List.append_nil]
      exact .rejected extracted
  | ok document =>
      rw [reads] at trace
      rcases documented_of_trace trace with ⟨started, now, executed, shown, rfl, executes⟩
      exact .document extracted handles reads executes started now

/-- Every request that was answered completed in one of these ways. -/
theorem of_trace {response : Response} {events : History}
    (trace : (Routes.serve settings turns request).Trace events (.pure response)) :
    Concluded settings turns request events := by
  cases asks : Endpoint.ofRequest request with
  | some endpoint =>
      rcases served_of_trace asks trace with ⟨whole, -, served⟩
      cases served with
      | oversized exceeds => exact .anonymous (by simp [Anonymous])
      | refused fits extracted => exact .refused extracted
      | rejected fits extracted rejects => exact .rejected extracted
      | handled fits extracted takes handles => exact .handled asks extracted takes handles
  | none =>
      rcases Trace.of_bind trace with ⟨early, whole, late, rfl, routed, stripped⟩
      rcases Trace.of_pure stripped with ⟨rfl, -⟩
      rw [List.append_nil]
      unfold Routes.limited at routed
      split at routed
      · exact of_pure routed
      · unfold Endpoint.ofRequest at asks
        unfold Routes.dispatch at routed
        have handles := @handledAs.eq_1 request
        cases found : Route.ofPath request.path with
        | none =>
            rw [found] at routed
            exact of_notAllowed routed
        | some route =>
            rw [found] at routed handles
            simp only [found] at asks
            cases route with
            | healthz => exact of_getting routed fun _ => of_pure
            | info =>
                apply of_getting routed
                intro _ handled
                apply of_withCaller handled
                intro caller extraction later extracted counting
                unfold Routes.info at counting
                have isInfo : handledAs request = "info" := handles
                rw [← isInfo] at counting
                exact of_plain extracted (by simp [isInfo]) counting
            | graphqlSdl =>
                apply of_getting routed
                intro _ handled
                apply of_withCaller handled
                intro caller extraction later extracted counting
                unfold Routes.graphqlSdl at counting
                have isSchema : handledAs request = "graphql:schema" := handles
                rw [← isSchema] at counting
                exact of_plain extracted (by simp [isSchema]) counting
            | graphql =>
                simp only at routed
                split at routed
                · apply of_withCaller routed
                  intro caller extraction later extracted document
                  exact of_graphql extracted handles document
                · split at routed
                  · exact of_getting routed fun _ => of_pure
                  · exact of_notAllowed routed
            | sites =>
                apply of_getting routed
                intro reads _
                simp [reads] at asks
            | vouchers site =>
                simp only at routed asks
                split at routed
                · next posts => simp [posts] at asks
                · next other =>
                    apply of_getting routed
                    intro reads _
                    simp [other, reads] at asks
            | voucher site voucher =>
                simp only at routed asks
                split at routed
                · next deletes => simp [deletes] at asks
                · exact of_notAllowed routed

end Concluded

end VoucherProxy
