import VoucherProxy.Counting
import VoucherProxy.Documents
import VoucherProxy.Sample

namespace VoucherProxy

/-! When the counter of upstream calls is the number of calls: it is one ahead for
every REST operation that ends before its call, and one behind for every call of a
document that fails. -/

section

variable [Crates]

/-! ## One operation -/

/-- What the counter gains on the calls. -/
def surplus (event : Event Effect Answer) : ℤ := measures event - attempts event

theorem total_surplus (events : History) :
    total surplus events = total measures events - total attempts events := by
  induction events with
  | nil => rfl
  | cons event events induction =>
      rw [total_cons, total_cons, total_cons, induction, surplus]
      push_cast
      ring

theorem logged_surplus (log : Log) :
    Pool.logged surplus log = Pool.logged measures log - Pool.logged attempts log := by
  induction log using List.reverseRecOn with
  | nil => rfl
  | append_singleton log last induction =>
      rw [Pool.logged_append, Pool.logged_append, Pool.logged_append, induction]
      cases last with
      | event thread event =>
          rw [Pool.logged_event, Pool.logged_event, Pool.logged_event, surplus]
          push_cast
          ring
      | move made => simp

theorem total_attempts (events : History) : total attempts events = (exchanges events).length := by
  induction events with
  | nil => rfl
  | cons event events induction =>
      rw [total_cons, induction]
      rcases event with ⟨effect, answer⟩
      cases effect with
      | send slot sent => exact Nat.add_comm _ _
      | _ => exact Nat.zero_add _

/-- Nothing keeps the operation from its call: the caller has the rights, no charge
is refused, the policy accepts it, and its ids form a request. -/
structure Operation.Clear {α : Type} (operation : Operation α) (caller : Caller)
    (events : History) : Prop where
  permitted : caller.permits operation = .ok ()
  granted : ∀ slot, (⟨.check slot caller.token, false⟩ : Event Effect Answer) ∉ events
  planned : ∃ plan, operation.plan = .ok plan ∧
    ∀ upstream, ∃ sent, plan.request upstream = .ok sent

variable {α : Type} {operation : Operation α} {caller : Caller} {guard : Guard}

theorem Operation.Clear.mono {events later : History} (clear : operation.Clear caller later)
    (within : events ⊆ later) : operation.Clear caller events :=
  ⟨clear.permitted, fun slot member => clear.granted slot (within member), clear.planned⟩

theorem Operation.Clear.not_barred {events : History} {why : ProxyError}
    (clear : operation.Clear caller events) :
    ¬Admitting operation caller guard events (.error why) := by
  intro barred
  cases barred with
  | refused refused =>
      rw [clear.permitted] at refused
      cases refused
  | limited permitted => exact clear.granted guard.slot (by simp)

theorem measures_finishing (started now : Nat) (outcome : Outcome α) :
    total measures (finishing caller operation started now outcome) = 1 := by
  rcases outcome with ⟨result, upstream, count⟩
  cases result with
  | error why => rfl
  | ok value => cases count <;> rfl

/-- An operation that is clear sends its call. -/
theorem Ran.exchanges_of_clear {events : History} {outcome : Outcome α}
    (ran : Ran operation caller guard events outcome) (clear : operation.Clear caller events) :
    (exchanges events).length = 1 := by
  rcases clear.planned with ⟨plan, planned, forms⟩
  cases ran with
  | barred barred => exact absurd barred clear.not_barred
  | unplanned admitted unplanned =>
      rw [planned] at unplanned
      cases unplanned
  | @called events call own read admitted isPlan calling up now =>
      rw [planned] at isPlan
      rcases Except.ok.inj isPlan with rfl
      rcases forms guard.value.upstream with ⟨sent, formed⟩
      cases calling with
      | unformed unformed =>
          rw [formed] at unformed
          cases unformed
      | sent _ _ =>
          rw [exchanges_append, admitted.silent]
          rfl

/-- `finish` measures every operation, so the counter keeps step with those that
make their call. -/
theorem Handled.surplus_of_clear {events : History} {result : Except ProxyError α}
    (handled : Handled operation caller events result) (clear : operation.Clear caller events) :
    total surplus events = 0 := by
  cases handled with
  | @intro events outcome guard ran started now =>
      have within : events ⊆ ⟨.instant, started⟩ :: ⟨.live, guard⟩ ::
          (events ++ finishing caller operation started now outcome) := by
        intro event member
        simp [member]
      have sent := ran.exchanges_of_clear (clear.mono within)
      have measured : total measures (⟨.instant, started⟩ :: ⟨.live, guard⟩ ::
          (events ++ finishing caller operation started now outcome)) = 1 := by
        rw [total_cons, total_cons, total_append, ran.feedless.unmeasured, measures_finishing]
        rfl
      rw [total_surplus, measured, total_attempts, exchanges_whole, sent]
      rfl

end

/-! ## One document -/

section

variable [Crates]

/-- The reply, if the event is one, reads as a success. -/
def Succeeds (event : Event Effect Answer) : Prop :=
  ∀ slot sent reply, event = ⟨.send slot sent, reply⟩ → ∃ body, reply.interpret = .ok body

namespace GraphQl

open Program

variable {operation : Operation FieldValue} {caller : Caller} {guard : Guard}

theorem failed_unsent {plan : Plan} {call : History} {why : ProxyError}
    (calling : Calling guard plan call (.error why)) (succeed : ∀ event ∈ call, Succeeds event) :
    call = [] ∧ plan.request guard.value.upstream = .error why := by
  cases calling with
  | unformed unformed => exact ⟨rfl, unformed⟩
  | @sent sent reply _ formed reads =>
      rcases succeed _ (List.mem_singleton_self _) guard.slot sent reply rfl with ⟨body, succeeded⟩
      rw [reads] at succeeded
      cases succeeded

/-- A resolver whose call does not fail measures what it sends. -/
theorem Ran.surplus {events : History} {result : Except GqlError FieldValue}
    (ran : Ran operation caller guard events result) (succeed : ∀ event ∈ events, Succeeds event) :
    total surplus events = 0 := by
  rw [total_surplus, total_attempts]
  cases ran with
  | barred barred => rw [barred.feedless.unmeasured, barred.silent]; rfl
  | unplanned admitted _ => rw [admitted.feedless.unmeasured, admitted.silent]; rfl
  | failed admitted planned calling up =>
      have unsent := failed_unsent calling fun event member => succeed event (by simp [member])
      rw [unsent.1, total_append, exchanges_append, admitted.feedless.unmeasured, admitted.silent]
      rfl
  | @called events call plan body admitted planned calling up now =>
      rw [total_append, exchanges_append, admitted.feedless.unmeasured, admitted.silent]
      cases calling with
      | sent formed reads => cases plan.count <;> rfl

/-- A resolver that is clear and whose call does not fail has a value. -/
theorem Ran.isOk {events : History} {result : Except GqlError FieldValue}
    (ran : Ran operation caller guard events result) (clear : operation.Clear caller events)
    (succeed : ∀ event ∈ events, Succeeds event) : result.isOk = true := by
  rcases clear.planned with ⟨plan, planned, forms⟩
  cases ran with
  | barred barred => exact absurd barred clear.not_barred
  | unplanned admitted unplanned =>
      rw [planned] at unplanned
      cases unplanned
  | failed admitted isPlan calling up =>
      rw [planned] at isPlan
      rcases Except.ok.inj isPlan with rfl
      have unsent := failed_unsent calling fun event member => succeed event (by simp [member])
      rcases forms guard.value.upstream with ⟨sent, formed⟩
      rw [formed] at unsent
      cases unsent.2
  | called => rfl

theorem Resolved.surplus {operation? : Option (Operation FieldValue)} {events : History}
    {result : FieldResult} (resolved : Resolved caller operation? events result)
    (succeed : ∀ event ∈ events, Succeeds event) : total surplus events = 0 := by
  cases resolved with
  | plain => rfl
  | ended key ended =>
      rcases ended with ⟨ran⟩
      have rest := ran.surplus fun event member => succeed event (by simp [member])
      rw [total_cons, rest]
      rfl

theorem Resolved.isOk {operation? : Option (Operation FieldValue)} {events : History}
    {result : FieldResult} (resolved : Resolved caller operation? events result)
    (clear : ∀ operation, operation? = some operation → operation.Clear caller events)
    (succeed : ∀ event ∈ events, Succeeds event) : result.2.isOk = true := by
  cases resolved with
  | plain => rfl
  | @ended key operation events result ended =>
      have clear := clear operation rfl
      rcases ended with ⟨ran⟩
      apply ran.isOk (clear.mono (List.subset_cons_self _ _))
      exact fun event member => succeed event (by simp [member])

variable [GraphQlEngine]

/-- Nothing makes the engine abandon a call of a query: it never abandons a field,
or no field is refused before its call, or there is no call. -/
def Unabandoned (caller : Caller) (fields : List (String × QueryField)) (events : History) : Prop :=
  GraphQlEngine.abandons = false ∨
  (∀ field ∈ fields, ∀ operation, field.2.operation? caller = some operation →
    operation.Clear caller events) ∨
  ∀ slot sent reply, (⟨.send slot sent, reply⟩ : Event Effect Answer) ∉ events

omit [GraphQlEngine] in
theorem unsent_surplus {events : History} (honoured : querying.Honoured events)
    (unsent : ∀ slot sent reply, (⟨.send slot sent, reply⟩ : Event Effect Answer) ∉ events) :
    total surplus events = 0 := by
  apply total_eq_zero
  rintro ⟨effect, answer⟩ member
  cases effect with
  | send slot sent => exact absurd member (unsent slot sent answer)
  | recordUpstream elapsed =>
      rcases List.append_of_mem member with ⟨before, after, place⟩
      rcases honoured before _ after place with ⟨slot, sent, reply, earlier⟩
      exact absurd (place ▸ List.mem_append_left _ earlier) (unsent slot sent reply)
  | _ => rfl

theorem query_surplus {turns : List Nat} {fields : List (String × QueryField)} {events : History}
    {response : GraphQlResponse}
    (trace : (executeQuery turns caller fields).Trace events (.pure response))
    (succeed : ∀ event ∈ events, Succeeds event) (unabandoned : Unabandoned caller fields events) :
    total surplus events = 0 := by
  have balanced : (∀ field ∈ fields, ∀ own result, own ⊆ events →
      Resolved caller (field.2.operation? caller) own result → stops result = false) →
      total surplus events = 0 := by
    intro continues
    have balances : List.Forall₂
        (Balances surplus (fun event => event ∈ events ∧ Succeeds event) stops)
        (fields.map fun _ => 0) (queryPrograms caller fields) := by
      rw [queryPrograms, List.forall₂_map_left_iff, List.forall₂_map_right_iff, List.forall₂_same]
      intro field member own result ended goods
      have resolved := queryField_of_trace ended
      exact ⟨continues field member own result (fun event within => (goods event within).1) resolved,
        resolved.surplus fun event within => (goods event within).2⟩
    rw [executeQuery_balanced balances trace fun event member => ⟨member, succeed event member⟩]
    simp
  rcases unabandoned with never | clear | unsent
  · apply balanced
    intro field _ own result _ _
    simp [stops, never]
  · apply balanced
    intro field member own result within resolved
    have isOk := resolved.isOk (fun operation is => (clear field member operation is).mono within)
      fun event member => succeed event (within member)
    simp [stops, isOk]
  · exact unsent_surplus (querying_of_trace trace) unsent

/-- A document whose calls do not fail measures what it sends. -/
theorem Executed.surplus {turns : List Nat} {document : GraphQlRequest} {events : History}
    {response : GraphQlResponse} (executed : Executed turns caller document events response)
    (succeed : ∀ event ∈ events, Succeeds event)
    (unabandoned : ∀ fields,
      GraphQlEngine.prepare maxDepth maxComplexity document = .ok (.query fields) →
      Unabandoned caller fields events) : total surplus events = 0 := by
  cases executed with
  | unprepared fails => rfl
  | query prepares interleaved =>
      exact query_surplus interleaved succeed (unabandoned _ prepares)
  | mutation prepares sequenced =>
      revert succeed
      apply sequenced.holds
      · exact fun _ => rfl
      · intro early late first second succeed
        rw [total_append, first fun event member => succeed event (by simp [member]),
          second fun event member => succeed event (by simp [member])]
        rfl
      · intro program member own result ended succeed
        rcases List.mem_map.mp member with ⟨field, -, rfl⟩
        exact (mutationField_of_trace ended).surplus succeed

end GraphQl

end

/-! ## Whole runs -/

section

variable [Crates]

theorem Extraction.surplus {request : HttpRequest} {events : History}
    {result : Except ProxyError Caller} (extraction : Extraction request events result) :
    total surplus events = 0 := by
  rw [total_surplus, total_attempts, extraction.silent.2]
  cases extraction with
  | admitted extracting _ => rw [total_cons, extracting.feedless.unmeasured]; rfl
  | limited => rfl
  | refused extracting _ => rw [total_cons, total_append, extracting.feedless.unmeasured]; rfl

theorem Anonymous.surplus {events : History} (anonymous : Anonymous events) :
    total surplus events = 0 := by
  rw [total_surplus, total_attempts, anonymous.feedless.unmeasured, anonymous.unsent]
  rfl

variable [Framework] [GraphQlEngine]

/-- What keeps the counter in step over one request: an operation that its handler
takes up is clear, no call of a document fails, and none is abandoned. -/
structure InStep (settings : RouterSettings) (request : HttpRequest) (events : History) :
    Prop where
  clear : ∀ endpoint extraction later caller operation,
    Endpoint.ofRequest request = some endpoint → events = extraction ++ later →
    (Caller.fromRequestParts request).Trace extraction (.pure (.ok caller)) →
    endpoint.operation settings request caller = .ok operation → operation.Clear caller events
  succeeds : handledAs request = "graphql" → ∀ event ∈ events, Succeeds event
  unabandoned : ∀ extraction later caller document fields,
    handledAs request = "graphql" → events = extraction ++ later →
    (Caller.fromRequestParts request).Trace extraction (.pure (.ok caller)) →
    Framework.graphQlBody settings.maxBodyBytes request = .ok document →
    GraphQlEngine.prepare GraphQl.maxDepth GraphQl.maxComplexity document = .ok (.query fields) →
    GraphQl.Unabandoned caller fields events

omit [Framework] in
theorem GraphQl.Unabandoned.mono {caller : Caller} {fields : List (String × GraphQl.QueryField)}
    {events later : History} (unabandoned : GraphQl.Unabandoned caller fields later)
    (within : events ⊆ later) : GraphQl.Unabandoned caller fields events := by
  rcases unabandoned with never | clear | unsent
  · exact .inl never
  · exact .inr (.inl fun field member operation is => (clear field member operation is).mono within)
  · exact .inr (.inr fun slot sent reply member => unsent slot sent reply (within member))

theorem Concluded.surplus {settings : RouterSettings} {turns : List Nat} {request : HttpRequest}
    {events : History} (concluded : Concluded settings turns request events)
    (inStep : InStep settings request events) : total VoucherProxy.surplus events = 0 := by
  cases concluded with
  | anonymous anonymous => exact anonymous.surplus
  | refused extracted => exact (extraction_of_trace extracted).surplus
  | rejected extracted => exact (extraction_of_trace extracted).surplus
  | plain extracted _ =>
      rw [total_append, (extraction_of_trace extracted).surplus]
      rfl
  | @document extraction executed caller document response extracted handles reads executes
      started now =>
      have within : executed ⊆
          extraction ++ documented caller document started now executed response := by
        intro event member
        simp [documented, member]
      have inner : total VoucherProxy.surplus executed = 0 := by
        apply (GraphQl.executed_of_trace executes).surplus
        · exact fun event member => inStep.succeeds handles event (within member)
        · intro fields prepares
          exact (inStep.unabandoned _ _ caller document fields handles rfl extracted reads
            prepares).mono within
      rw [total_append, (extraction_of_trace extracted).surplus, documented, total_append,
        total_append, inner]
      rfl
  | handled asks extracted takes handles =>
      have clear := inStep.clear _ _ _ _ _ asks rfl extracted takes
      rw [total_append, (extraction_of_trace extracted).surplus,
        (handled_of_trace handles).surplus_of_clear (clear.mono (List.subset_append_right _ _))]
      rfl

/-- In every run of completed requests that all keep in step, the counter is the
number of calls. -/
theorem Step.upstreamCalls_eq {settings : RouterSettings} {cfg : Config} {path : Option String}
    {state : AppState} (started : AppState.withPath cfg path = .ok state) {steps : List Step}
    (completed : Step.Completed settings state steps)
    (inStep : ∀ index schedule request,
      (Step.requests steps)[index]? = some (schedule, request) →
      InStep settings request (Step.history settings state steps index)) :
    (Step.run settings state steps).state.metrics.upstreamCalls =
      UInt64.ofNat (Pool.logged attempts (Step.run settings state steps).log) := by
  have even : Pool.logged VoucherProxy.surplus (Step.run settings state steps).log = 0 := by
    rw [Step.logged_eq_sum]
    apply Finset.sum_eq_zero
    intro index member
    rcases Step.arrived_of_mem_range member with ⟨schedule, request, arrived⟩
    exact (completed.concluded arrived).surplus (inStep index schedule request arrived)
  rw [logged_surplus, sub_eq_zero, Nat.cast_inj] at even
  rw [← even]
  exact (Step.tallied settings started steps).upstreamCalls

end

section

open Sample

/-- A listing that is let through to its call. -/
def listing : HttpRequest :=
  request "GET" "/proxy/network/integration/v1/sites/main/hotspot/vouchers" receptionKey []

def listedSteps : List Step := .arrive [] listing :: List.replicate 14 (.advance 0 outside)

abbrev listedEvents : History := Step.history settings state listedSteps 0

theorem listed_completed : Step.Completed settings state listedSteps :=
  Step.completed_of_single rfl (by decide +kernel)

/-- Both tokens may list the vouchers of the site. -/
theorem listed_inStep : InStep settings listing listedEvents where
  clear := by
    intro endpoint extraction later caller operation asks same extracted takes
    have isListing : Endpoint.ofRequest listing = some (.listing "main") := by decide +kernel
    rw [isListing, Option.some.injEq] at asks
    subst asks
    rcases Except.ok.inj takes with rfl
    refine ⟨?_, ?_, _, rfl, ?_⟩
    · have first : listedEvents[0]?.bind known? = some [reception, lobby] := by decide +kernel
      have entitled : ∀ token ∈ [reception, lobby], token.hasScope .vouchersRead = true ∧
          token.allowsSite "main" = true := by
        decide
      cases extraction_of_trace extracted with
      | @admitted guard steps _ extracting known =>
          rw [same] at first
          rcases Option.some.inj first with tokens
          rw [tokens] at known
          apply Caller.permits_eq_ok.mpr
          refine ⟨(entitled _ known).1, ?_⟩
          rintro site ⟨⟩
          exact (entitled _ known).2
    · have granted : ∀ charge ∈ charges listedEvents, charge.2.2 = true := by decide +kernel
      intro slot refused
      cases granted _ (mem_charges.mpr refused)
    · exact fun upstream => ⟨_, rfl⟩
  succeeds handles := absurd handles (by decide +kernel)
  unabandoned _ _ _ _ _ handles := absurd handles (by decide +kernel)

theorem Step.upstreamCalls_eq_listed :
    (Step.run settings state listedSteps).state.metrics.upstreamCalls =
      UInt64.ofNat (Pool.logged attempts (Step.run settings state listedSteps).log) := by
  apply Step.upstreamCalls_eq started listed_completed
  intro index schedule request arrived
  cases index with
  | zero =>
      cases arrived
      exact listed_inStep
  | succ index => cases arrived

/-- A revocation by a token that may not revoke. -/
def refusedSteps : List Step :=
  .arrive [] (request "DELETE" "/proxy/network/integration/v1/sites/main/hotspot/vouchers/v1"
    lobbyKey []) :: List.replicate 14 (.advance 0 outside)

/-- The refusal is counted as a call, and none was made. -/
theorem refused_is_measured :
    Step.Completed settings state refusedSteps ∧
    Pool.logged attempts (Step.run settings state refusedSteps).log = 0 ∧
    (Step.run settings state refusedSteps).state.metrics.upstreamCalls ≠
      UInt64.ofNat (Pool.logged attempts (Step.run settings state refusedSteps).log) :=
  ⟨Step.completed_of_single rfl (by decide +kernel), by decide +kernel, by decide +kernel⟩

end

end VoucherProxy
