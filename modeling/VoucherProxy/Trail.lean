import VoucherProxy.Counting
import VoucherProxy.Demands
import VoucherProxy.Failures
import VoucherProxy.Sample

namespace VoucherProxy

/-! What the audit lines say of the changes that were made at the controller. -/

/-- A create or delete call: on whose behalf, of what, and whether it succeeded. -/
structure Mutation where
  token : String
  demand : Demand
  succeeded : Bool
  deriving DecidableEq

/-- The outcomes of operations whose call was sent. -/
def sentTags : List String := ["ok", "upstream_error", "upstream_unreachable"]

/-- The change that a line stands for, if it stands for one. -/
def AuditLine.mutation? : AuditLine → Option Mutation
  | .request token action site targetId count _ outcome _ =>
      if outcome ∈ sentTags then
        if action = "vouchers:create" then some ⟨token, .create site count, outcome = "ok"⟩
        else if action = "vouchers:revoke" then some ⟨token, .revoke site targetId, outcome = "ok"⟩
        else none
      else none
  | .rejected _ _ _ => none

/-- A local failure is no outcome of a call that was sent. -/
theorem ProxyError.Local.not_sent {why : ProxyError} (isLocal : why.Local) :
    why.kind ∉ sentTags := by
  have unsent : ∀ tag ∈ ["forbidden", "bad_request", "rate_limited"], tag ∉ sentTags := by decide
  exact unsent _ isLocal

theorem overQuota_untold (action : String) (charged : List (Nat × TokenConfig × Bool)) :
    (overQuota action charged).filterMap AuditLine.mutation? = [] := by
  apply List.filterMap_eq_nil_iff.mpr
  intro line member
  rcases List.mem_map.mp member with ⟨charge, -, rfl⟩
  rfl

section

variable [Crates]

/-- The change that a call asks for on behalf of a token. -/
def Mutation.of? (token : String) (sent : UpstreamRequest) (reply : Reply) : Option Mutation :=
  sent.demand?.map fun demand => ⟨token, demand, reply.interpret.isOk⟩

/-- The change that an event makes. -/
def made? (token : String) : Event Effect Answer → Option Mutation
  | ⟨.send _ sent, reply⟩ => Mutation.of? token sent reply
  | _ => none

/-- The change that an event tells of. -/
def told? : Event Effect Answer → Option Mutation
  | ⟨.audit line, _⟩ => line.mutation?
  | _ => none

def line? : Event Effect Answer → Option AuditLine
  | ⟨.audit line, _⟩ => some line
  | _ => none

/-- The lines of a log, in order. -/
def linesOf (log : Log) : List AuditLine := Pool.selected line? log

theorem selected_told? (log : Log) :
    Pool.selected told? log = (linesOf log).filterMap AuditLine.mutation? := by
  rw [linesOf, Pool.selected, Pool.selected, List.filterMap_filterMap]
  congr 1
  funext occurrence
  cases occurrence with
  | move made => rfl
  | event thread event =>
      rcases event with ⟨effect, answer⟩
      cases effect <;> rfl

theorem filterMap_told? (events : History) :
    events.filterMap told? = (audits events).filterMap AuditLine.mutation? := by
  rw [audits, List.filterMap_filterMap]
  congr 1
  funext event
  rcases event with ⟨effect, answer⟩
  cases effect <;> rfl

theorem filterMap_made? (token : String) (events : History) :
    events.filterMap (made? token) =
      (exchanges events).filterMap fun exchange => Mutation.of? token exchange.1 exchange.2 := by
  rw [exchanges, List.filterMap_filterMap]
  congr 1
  funext event
  rcases event with ⟨effect, answer⟩
  cases effect <;> rfl

/-- Whoever made them, the changes are what the calls demanded. -/
theorem map_demand_made? (token : String) (events : History) :
    (events.filterMap (made? token)).map Mutation.demand =
      (exchanges events).filterMap fun exchange => exchange.1.demand? := by
  rw [filterMap_made?, List.map_filterMap]
  congr 1
  funext exchange
  cases demanded : exchange.1.demand? <;> rw [Mutation.of?, demanded] <;> rfl

/-! ## One request -/

/-- What the lines tell is what the caller made. -/
def Accurate (token : String) (events : History) : Prop :=
  events.filterMap told? = events.filterMap (made? token)

theorem Accurate.append {token : String} {early late : History} (first : Accurate token early)
    (second : Accurate token late) : Accurate token (early ++ late) := by
  rw [Accurate, List.filterMap_append, List.filterMap_append, first, second]

theorem Accurate.nothing {token : String} {events : History}
    (untold : events.filterMap told? = []) (unsent : exchanges events = []) :
    Accurate token events := by
  rw [Accurate, untold, filterMap_made?, unsent]
  rfl

/-- Lines of refusals tell of no change. -/
theorem untold_of_rejected {events : History} (rejects : ∀ line ∈ audits events,
    ∃ action reason status, line = .rejected action reason status) :
    events.filterMap told? = [] := by
  rw [filterMap_told?]
  apply List.filterMap_eq_nil_iff.mpr
  intro line member
  rcases rejects line member with ⟨action, reason, status, rfl⟩
  rfl

theorem Anonymous.untold {events : History} (anonymous : Anonymous events) :
    events.filterMap told? = [] := by
  apply List.filterMap_eq_nil_iff.mpr
  rintro ⟨effect, answer⟩ member
  rcases anonymous _ member with ⟨action, reason, status, rfl⟩
  rfl

/-- The tag of a call that was sent shows whether it succeeded. -/
theorem resultTag_of_sent {α : Type} (reply : Reply) (view : Json → α) :
    (resultTag (reply.interpret.map view)).2 ∈ sentTags ∧
      decide ((resultTag (reply.interpret.map view)).2 = "ok") = reply.interpret.isOk := by
  cases read : reply.interpret with
  | ok body =>
      exact ⟨by simp [resultTag, Except.map, sentTags],
        by simp [resultTag, Except.map, Except.isOk, Except.toBool]⟩
  | error why =>
      have remote : ∀ tag ∈ ["upstream_error", "upstream_unreachable"],
          tag ∈ sentTags ∧ tag ≠ "ok" := by
        decide
      have failed := remote _ (reply.interpret_fails why read)
      exact ⟨failed.1, by simp [resultTag, Except.map, failed.2, Except.isOk, Except.toBool]⟩

variable [Framework]

/-- The line of a call that was sent tells what the request demanded. -/
theorem Endpoint.mutation_finishLine {settings : RouterSettings} {request : HttpRequest}
    {caller : Caller} {endpoint : Endpoint} {operation : Operation Json}
    (takes : endpoint.operation settings request caller = .ok operation) {plan : Plan}
    (planned : operation.plan = .ok plan) {upstream : Upstream} {sent : UpstreamRequest}
    (formed : plan.request upstream = .ok sent) {elapsed : Nat} {outcome : Outcome Json}
    (counted : outcome.count = plan.count) (isSent : (resultTag outcome.result).2 ∈ sentTags) :
    (finishLine caller operation elapsed outcome).mutation? = sent.demand?.map fun demand =>
      ⟨caller.name, demand, decide ((resultTag outcome.result).2 = "ok")⟩ := by
  have demands := (Endpoint.operation_demands takes plan upstream sent planned formed).1
  rw [finishLine, AuditLine.mutation?, if_pos isSent, counted, demands]
  cases endpoint with
  | sites =>
      rcases Except.ok.inj takes with rfl
      rfl
  | listing site =>
      rcases bind_eq_ok.mp takes with ⟨decoded, -, made⟩
      rcases Except.ok.inj made with rfl
      rfl
  | creation site =>
      rcases bind_eq_ok.mp takes with ⟨decoded, -, rest⟩
      rcases bind_eq_ok.mp rest with ⟨body, -, made⟩
      rcases Except.ok.inj made with rfl
      rcases Plan.create_eq_ok planned with ⟨create, -, -, count, -⟩
      rw [count]
      rfl
  | revocation site voucher =>
      rcases bind_eq_ok.mp takes with ⟨decoded, -, rest⟩
      rcases bind_eq_ok.mp rest with ⟨id, -, made⟩
      rcases Except.ok.inj made with rfl
      rfl

theorem Handled.accurate {settings : RouterSettings} {request : HttpRequest}
    {caller : Caller} {endpoint : Endpoint} {operation : Operation Json}
    (takes : endpoint.operation settings request caller = .ok operation) {events : History}
    {result : Except ProxyError Json} (handled : Handled operation caller events result) :
    Accurate caller.name events := by
  cases handled with
  | @intro events outcome guard ran started now =>
      rw [Accurate, filterMap_told?, filterMap_made?, (recorded_whole ran started now).1,
        List.filterMap_append, overQuota_untold, exchanges_whole]
      rcases ran.exchanged with ⟨unsent, -⟩ | ⟨plan, sent, reply, exchanged, one, ended, counted⟩
      · rcases ran.refused (Endpoint.operation_sanctioned takes) (Endpoint.plan_fails takes) unsent
          with ⟨why, failed, isLocal⟩
        have unmarked : (resultTag outcome.result).2 ∉ sentTags := by
          rw [failed]
          exact isLocal.not_sent
        have untold : (finishLine caller operation (now - started) outcome).mutation? = none :=
          if_neg unmarked
        rw [unsent, List.filterMap_cons, untold]
        rfl
      · rcases exchanged.formed with ⟨guard, formed⟩
        rcases resultTag_of_sent reply operation.view with ⟨isSent, isOk⟩
        rw [← ended] at isSent isOk
        have line : (finishLine caller operation (now - started) outcome).mutation? =
            Mutation.of? caller.name sent reply := by
          rw [Endpoint.mutation_finishLine takes exchanged.planned formed counted isSent, isOk]
          rfl
        rw [one, List.filterMap_cons, List.filterMap_cons, line]
        rfl

/-! ## Whole runs -/

variable [GraphQlEngine]

/-- No GraphQL document makes a create or delete call. -/
def DocumentsRead (request : HttpRequest) (events : History) : Prop :=
  handledAs request = "graphql" → ∀ exchange ∈ exchanges events, exchange.1.demand? = none

/-- What the lines of a request tell is what its caller made. -/
theorem Concluded.told {settings : RouterSettings} {turns : List Nat} {request : HttpRequest}
    {events : History} (concluded : Concluded settings turns request events)
    (reads : DocumentsRead request events) :
    total (chosen told?) events =
      (bearer? request events).elim 0 fun caller => total (chosen (made? caller.name)) events := by
  have silent : ∀ {events : History}, events.filterMap told? = [] → exchanges events = [] →
      total (chosen told?) events =
        (bearer? request events).elim 0 fun caller =>
          total (chosen (made? caller.name)) events := by
    intro events untold unsent
    rw [total_chosen, untold]
    cases bearer? request events with
    | none => rfl
    | some caller => rw [Option.elim_some, total_chosen, filterMap_made?, unsent]; rfl
  have owned : ∀ {extraction later : History} {caller : Caller},
      (Caller.fromRequestParts request).Trace extraction (.pure (.ok caller)) →
      Accurate caller.name later → total (chosen told?) (extraction ++ later) =
        (bearer? request (extraction ++ later)).elim 0 fun caller =>
          total (chosen (made? caller.name)) (extraction ++ later) := by
    intro extraction later caller extracted accurate
    have extraction := extraction_of_trace extracted
    have before : Accurate caller.name _ := .nothing
      (untold_of_rejected (by rw [extraction.unrecorded.1]; simp)) extraction.silent.2
    rw [bearer?_of_extracted extracted, Option.elim_some, total_chosen, total_chosen,
      before.append accurate]
  cases concluded with
  | anonymous anonymous => exact silent anonymous.untold anonymous.unsent
  | refused extracted =>
      have extraction := extraction_of_trace extracted
      rcases extraction.recorded with ⟨token, reason, lines, -⟩
      apply silent (untold_of_rejected _) extraction.silent.2
      rw [lines]
      simp
  | rejected extracted =>
      have extraction := extraction_of_trace extracted
      apply silent (untold_of_rejected _) extraction.silent.2
      rw [extraction.unrecorded.1]
      simp
  | plain extracted _ => exact owned extracted (.nothing rfl rfl)
  | @document extraction executed caller document response extracted handles _ executes
      started now =>
      apply owned extracted
      have untold := untold_of_rejected (GraphQl.executed_of_trace executes).unrecorded.2
      have notMade : executed.filterMap (made? caller.name) = [] := by
        rw [filterMap_made?]
        apply List.filterMap_eq_nil_iff.mpr
        intro exchange member
        have demandless := reads handles exchange (by
          rw [exchanges_append, documented, exchanges_append, exchanges_append]
          simp [member])
        rw [Mutation.of?, demandless, Option.map_none]
      have inner : Accurate caller.name executed := untold.trans notMade.symm
      have before : Accurate caller.name [⟨.instant, started⟩] := .nothing rfl rfl
      refine (before.append inner).append (.nothing ?_ rfl)
      have other : ("graphql" : String) ≠ "vouchers:create" ∧ "graphql" ≠ "vouchers:revoke" := by
        decide
      simp [told?, AuditLine.mutation?, other]
  | handled asks extracted takes handles =>
      exact owned extracted (Handled.accurate takes (handled_of_trace handles))

/-- Only a request with a caller reaches the controller. -/
theorem Concluded.unsent {settings : RouterSettings} {turns : List Nat} {request : HttpRequest}
    {events : History} (concluded : Concluded settings turns request events)
    (unborne : bearer? request events = none) : exchanges events = [] := by
  have owned : ∀ {extraction later : History} {caller : Caller},
      (Caller.fromRequestParts request).Trace extraction (.pure (.ok caller)) →
      bearer? request (extraction ++ later) = none → exchanges (extraction ++ later) = [] := by
    intro extraction later caller extracted unborne
    rw [bearer?_of_extracted extracted] at unborne
    cases unborne
  cases concluded with
  | anonymous anonymous => exact anonymous.unsent
  | refused extracted => exact (extraction_of_trace extracted).silent.2
  | rejected extracted => exact (extraction_of_trace extracted).silent.2
  | plain extracted _ => exact owned extracted unborne
  | document extracted _ _ _ started now => exact owned extracted unborne
  | handled asks extracted _ _ => exact owned extracted unborne

namespace Step

/-- The changes that the requests of a run made, each on behalf of its caller. -/
noncomputable def mutations (settings : RouterSettings) (state : AppState) (steps : List Step) :
    Multiset Mutation :=
  ∑ index ∈ Finset.range (requests steps).length, (bearer? settings state steps index).elim 0
    fun caller => total (chosen (made? caller.name)) (history settings state steps index)

/-- The changes are what the calls of the run demanded. -/
theorem map_demand_mutations {settings : RouterSettings} {state : AppState} {steps : List Step}
    (completed : Completed settings state steps) :
    (mutations settings state steps).map Mutation.demand =
      ∑ index ∈ Finset.range (requests steps).length,
        ((exchanges (history settings state steps index)).filterMap
          fun exchange => exchange.1.demand? : Multiset Demand) := by
  rw [mutations, ← Multiset.coe_mapAddMonoidHom, map_sum]
  apply Finset.sum_congr rfl
  intro index member
  rcases arrived_of_mem_range member with ⟨schedule, request, arrived⟩
  cases borne : bearer? settings state steps index with
  | none =>
      rw [bearer?, arrived, Option.bind_some] at borne
      rw [(completed.concluded arrived).unsent borne]
      rfl
  | some caller =>
      rw [Option.elim_some, total_chosen, Multiset.coe_mapAddMonoidHom, Multiset.map_coe,
        map_demand_made?]

/-- No document of the run makes a create or delete call. -/
def ReadsOnly (settings : RouterSettings) (state : AppState) (steps : List Step) : Prop :=
  ∀ (index : Nat) (schedule : List Nat) (request : HttpRequest),
    (requests steps)[index]? = some (schedule, request) →
    DocumentsRead request (history settings state steps index)

theorem mutations_eq {settings : RouterSettings} {state : AppState} {steps : List Step}
    (completed : Completed settings state steps) (reads : ReadsOnly settings state steps) :
    mutations settings state steps =
      ((linesOf (run settings state steps).log).filterMap AuditLine.mutation? : Multiset Mutation) := by
  rw [← selected_told?, ← Pool.logged_chosen, logged_eq_sum]
  apply Finset.sum_congr rfl
  intro index member
  rcases arrived_of_mem_range member with ⟨schedule, request, arrived⟩
  rw [(completed.concluded arrived).told (reads index schedule request arrived), bearer?, arrived,
    Option.bind_some]

/-- Two runs of completed requests whose documents change nothing made the same
changes when they left the same lines. -/
theorem mutations_of_lines {settings twinSettings : RouterSettings} {state twin : AppState}
    {steps twinSteps : List Step} (completed : Completed settings state steps)
    (twinCompleted : Completed twinSettings twin twinSteps)
    (reads : ReadsOnly settings state steps) (twinReads : ReadsOnly twinSettings twin twinSteps)
    (sameLines : (linesOf (run settings state steps).log).Perm
      (linesOf (run twinSettings twin twinSteps).log)) :
    mutations settings state steps = mutations twinSettings twin twinSteps := by
  rw [mutations_eq completed reads, mutations_eq twinCompleted twinReads, Multiset.coe_eq_coe]
  exact sameLines.filterMap _

end Step

end

section

open Sample

/-- A revocation over REST. -/
def revokingSteps (body : String) : List Step :=
  .arrive [] (request "DELETE" "/proxy/network/integration/v1/sites/main/hotspot/vouchers/v1"
    receptionKey (ascii body)) :: List.replicate 15 (.advance 0 outside)

theorem Step.readsOnly_revoking (body : String) :
    ReadsOnly settings state (revokingSteps body) := by
  intro index schedule request arrived handles
  cases index with
  | zero =>
      cases arrived
      have route : Route.ofPath "/proxy/network/integration/v1/sites/main/hotspot/vouchers/v1" =
          some (.voucher "main" "v1") := by
        decide +kernel
      have other : handledAs (Sample.request "DELETE"
          "/proxy/network/integration/v1/sites/main/hotspot/vouchers/v1" receptionKey
            (ascii body)) = "vouchers:revoke" := by
        rw [handledAs, Sample.request, route]
      rw [other] at handles
      exact absurd handles (by decide)
  | succ index => cases arrived

/-- A body that nothing reads leaves no trace. -/
theorem Step.mutations_of_lines_revoking :
    mutations settings state (revokingSteps "") =
      mutations settings state (revokingSteps "ignored") := by
  have sameLines : linesOf (run settings state (revokingSteps "")).log =
      linesOf (run settings state (revokingSteps "ignored")).log := by
    decide +kernel
  exact mutations_of_lines (completed_of_single rfl (by decide +kernel))
    (completed_of_single rfl (by decide +kernel)) (readsOnly_revoking "")
    (readsOnly_revoking "ignored") (.of_eq sameLines)

/-! Two documents of one shape. -/

def revokeFirst : String :=
  "mutation \x7b revokeVoucher(siteId: \"main\", voucherId: \"v1\") \x7b id \x7d \x7d"

def revokeSecond : String :=
  "mutation \x7b revokeVoucher(siteId: \"main\", voucherId: \"v2\") \x7b id \x7d \x7d"

/-- A framework that hands on one of the two documents. -/
local instance posting : Framework where
  pathParam segment := .ok segment
  oversized _ _ := none
  jsonBody _ _ := .error ⟨.badRequest, "Failed to parse the request body as JSON"⟩
  graphQlBody _ request :=
    .ok ⟨if request.body = ascii "first" then revokeFirst else revokeSecond, none, .null⟩

local instance revoking : GraphQlEngine where
  prepare _ _ request :=
    .ok (.mutation [("revokeVoucher",
      .revokeVoucher "main" (if request.query = revokeFirst then "v1" else "v2"))])
  abandons := true
  sdl := ""
  graphiql := ""

def documentSteps (body : String) : List Step :=
  .arrive [] (request "POST" "/graphql" receptionKey (ascii body)) ::
    List.replicate 20 (.advance 0 outside)

theorem Step.completed_documents :
    Completed settings state (documentSteps "first") ∧
      Completed settings state (documentSteps "second") :=
  ⟨completed_of_single rfl (by decide +kernel), completed_of_single rfl (by decide +kernel)⟩

/-- Two documents leave the same lines and revoke different vouchers. -/
theorem Step.revoked_untraceable :
    Completed settings state (documentSteps "first") ∧
    Completed settings state (documentSteps "second") ∧
    linesOf (run settings state (documentSteps "first")).log =
      linesOf (run settings state (documentSteps "second")).log ∧
    mutations settings state (documentSteps "first") ≠
      mutations settings state (documentSteps "second") := by
  rcases completed_documents with ⟨first, second⟩
  have same : linesOf (run settings state (documentSteps "first")).log =
      linesOf (run settings state (documentSteps "second")).log := by
    decide +kernel
  have firstDemands : (exchanges (history settings state (documentSteps "first") 0)).filterMap
      (fun exchange => exchange.1.demand?) = [.revoke "main" "v1"] := by
    decide +kernel
  have secondDemands : (exchanges (history settings state (documentSteps "second") 0)).filterMap
      (fun exchange => exchange.1.demand?) = [.revoke "main" "v2"] := by
    decide +kernel
  refine ⟨first, second, same, fun equal => ?_⟩
  have demands := congrArg (Multiset.map Mutation.demand) equal
  rw [map_demand_mutations first, map_demand_mutations second] at demands
  change ∑ index ∈ Finset.range 1, _ = ∑ index ∈ Finset.range 1, _ at demands
  rw [Finset.sum_range_one, Finset.sum_range_one, firstDemands, secondDemands] at demands
  exact absurd demands (by decide)

end

end VoucherProxy
