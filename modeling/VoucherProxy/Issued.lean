import VoucherProxy.Counting
import VoucherProxy.Demands
import VoucherProxy.Surfaces

namespace VoucherProxy

/-! The vouchers recorded as issued under a name are those of the creates that its
callers made and the controller answered with success. -/

section

variable [Crates]

/-! ## What a create issues -/

def sale (sent : UpstreamRequest) (reply : Reply) : Nat :=
  if reply.interpret.isOk then (sent.demand?.bind Demand.count?).elim 0 UInt32.toNat else 0

/-- The vouchers of a create that was answered with success. -/
def sells : Event Effect Answer → Nat
  | ⟨.send _ sent, reply⟩ => sale sent reply
  | _ => 0

theorem total_sells (events : History) :
    total sells events =
      ((exchanges events).map fun exchange => sale exchange.1 exchange.2).sum := by
  induction events with
  | nil => rfl
  | cons event events induction =>
      rw [total_cons, induction]
      rcases event with ⟨effect, answer⟩
      cases effect with
      | send slot sent => rfl
      | _ => exact Nat.zero_add _

/-- What was issued under the name is what the caller sold, if the name is its own. -/
def Squares (name : String) (caller : Caller) (events : History) : Prop :=
  total (issues name) events = if name = caller.name then total sells events else 0

variable {name : String} {caller : Caller} {guard : Guard}

theorem Squares.nothing {events : History} (unissued : total (issues name) events = 0)
    (unsold : total sells events = 0) : Squares name caller events := by
  rw [Squares, unissued, unsold, ite_self]

theorem Squares.append {early late : History} (first : Squares name caller early)
    (second : Squares name caller late) : Squares name caller (early ++ late) := by
  rw [Squares, total_append, total_append, first, second]
  split <;> rfl

theorem unsold_of_exchanges {events : History} (unsent : exchanges events = []) :
    total sells events = 0 := by
  rw [total_sells, unsent]
  rfl

section

variable {α : Type} {operation : Operation α}

theorem issues_finishing (started now : Nat) (outcome : Outcome α) :
    total (issues name) (finishing caller operation started now outcome) =
      if outcome.result.isOk ∧ name = caller.name then outcome.count.elim 0 UInt32.toNat else 0 := by
  rcases outcome with ⟨result, upstream, count⟩
  cases result with
  | error why => rfl
  | ok value =>
      cases count with
      | none => simp [finishing, issues, Except.isOk, Except.toBool]
      | some count => simp [finishing, issues, Except.isOk, Except.toBool]

/-- An operation is recorded for the count it sent, and only if it succeeded. -/
theorem Handled.squares {events : History} {result : Except ProxyError α}
    (handled : Handled operation caller events result) (demands : operation.Demands) :
    Squares name caller events := by
  cases handled with
  | @intro events outcome guard ran started now =>
      have issued : total (issues name) (⟨.instant, started⟩ :: ⟨.live, guard⟩ ::
          (events ++ finishing caller operation started now outcome)) =
            if outcome.result.isOk ∧ name = caller.name then outcome.count.elim 0 UInt32.toNat
            else 0 := by
        rw [total_cons, total_cons, total_append, ran.feedless.unissued, issues_finishing,
          Nat.zero_add]
        exact (Nat.zero_add _).trans (Nat.zero_add _)
      rw [Squares, issued, total_sells, exchanges_whole]
      rcases ran.exchanged with ⟨unsent, why, failed⟩ |
        ⟨plan, sent, reply, exchanged, one, ended, counted⟩
      · rw [unsent, failed]
        simp [Except.isOk, Except.toBool]
      · rcases exchanged.formed with ⟨guard, formed⟩
        have count := (demands plan guard.value.upstream sent exchanged.planned formed).2
        rw [one, ended, counted, count]
        cases read : reply.interpret with
        | error why => simp [sale, read, Except.map, Except.isOk, Except.toBool]
        | ok body => simp [sale, read, Except.map, Except.isOk, Except.toBool]

end

/-! ## Documents -/

namespace GraphQl

open Program

theorem Ran.squares {operation : Operation FieldValue} {events : History}
    {result : Except GqlError FieldValue} (ran : Ran operation caller guard events result)
    (demands : operation.Demands) : Squares name caller events := by
  have barred : ∀ {events result}, Admitting operation caller guard events result →
      Squares name caller events := by
    intro events result admitting
    exact .nothing (admitting.feedless.unissued name) (unsold_of_exchanges admitting.silent)
  have timed : ∀ reading : Nat, Squares name caller [⟨.instant, reading⟩] := by
    intro reading
    exact .nothing rfl rfl
  cases ran with
  | barred why => exact barred why
  | unplanned admitted _ => exact barred admitted
  | @failed events call plan why admitted planned calling up =>
      refine (barred admitted).append ((timed up).append ?_)
      apply Squares.nothing (calling.feedless.unissued name)
      cases calling with
      | unformed _ => rfl
      | sent _ reads => simp [sells, sale, reads, Except.isOk, Except.toBool]
  | @called events call plan body admitted planned calling up now =>
      refine (barred admitted).append ((timed up).append ?_)
      cases calling with
      | @sent sent reply _ formed reads =>
          have count := (demands plan guard.value.upstream sent planned formed).2
          rw [count]
          cases counted : sent.demand?.bind Demand.count? with
          | none => exact .nothing rfl (by simp [sells, sale, counted])
          | some count =>
              simp [Squares, issues, sells, sale, counted, reads, Except.isOk, Except.toBool]

theorem Resolved.squares {operation? : Option (Operation FieldValue)} {events : History}
    {result : FieldResult} (resolved : Resolved caller operation? events result)
    (demands : ∀ operation, operation? = some operation → operation.Demands) :
    Squares name caller events := by
  cases resolved with
  | plain => exact .nothing rfl rfl
  | @ended key operation events result ended =>
      have demands := demands operation rfl
      rcases ended with ⟨ran⟩
      have loaded : ∀ guard : Guard, Squares name caller [⟨.live, guard⟩] := by
        intro guard
        exact .nothing rfl rfl
      exact (loaded _).append (ran.squares demands)

/-- A query issues nothing and creates nothing. -/
theorem squares_of_querying {events : History} (honoured : querying.Honoured events) :
    Squares name caller events := by
  apply Squares.nothing
  · apply total_eq_zero
    rintro ⟨effect, answer⟩ member
    cases effect with
    | recordVouchersCreated token count =>
        rcases honoured.permitted member with ⟨before, forbidden⟩
        exact forbidden.elim
    | _ => rfl
  · apply total_eq_zero
    rintro ⟨effect, answer⟩ member
    cases effect with
    | send slot sent =>
        rcases honoured.permitted member with ⟨before, isGet⟩
        have isGet : sent.method = .get := isGet
        simp [sells, sale, UpstreamRequest.demand?, isGet]
    | _ => rfl

variable [GraphQlEngine]

theorem Executed.squares {turns : List Nat} {document : GraphQlRequest} {events : History}
    {response : GraphQlResponse} (executed : Executed turns caller document events response) :
    Squares name caller events := by
  cases executed with
  | unprepared fails => exact .nothing rfl rfl
  | query prepares interleaved => exact squares_of_querying (querying_of_trace interleaved)
  | mutation prepares sequenced =>
      apply sequenced.holds
      · exact .nothing rfl rfl
      · exact fun _ _ first second => first.append second
      · intro program member own result ended
        rcases List.mem_map.mp member with ⟨field, -, rfl⟩
        exact (mutationField_of_trace ended).squares fun _ is => field.2.operation_demands is

end GraphQl

end

/-! ## Whole runs -/

section

variable [Crates]

theorem Extraction.unissued {request : HttpRequest} {events : History}
    {result : Except ProxyError Caller} (extraction : Extraction request events result)
    (name : String) : total (issues name) events = 0 := by
  cases extraction with
  | admitted extracting _ => rw [total_cons, extracting.feedless.unissued]; rfl
  | limited => rfl
  | refused extracting _ => rw [total_cons, total_append, extracting.feedless.unissued]; rfl

theorem Extraction.squares {request : HttpRequest} {events : History}
    {result : Except ProxyError Caller} (extraction : Extraction request events result)
    (name : String) (caller : Caller) : Squares name caller events :=
  .nothing (extraction.unissued name) (unsold_of_exchanges extraction.silent.2)

variable [Framework] [GraphQlEngine]

/-- Over one request, what was issued under a name is what its caller sold, if the
caller goes by that name. -/
theorem Concluded.issues {settings : RouterSettings} {turns : List Nat} {request : HttpRequest}
    {events : History} (concluded : Concluded settings turns request events) (name : String) :
    total (issues name) events =
      if (bearer? request events).map Caller.name = some name then total sells events else 0 := by
  have owned : ∀ {extraction later : History} {caller : Caller},
      (Caller.fromRequestParts request).Trace extraction (.pure (.ok caller)) →
      Squares name caller later → total (VoucherProxy.issues name) (extraction ++ later) =
        if (bearer? request (extraction ++ later)).map Caller.name = some name then
          total sells (extraction ++ later) else 0 := by
    intro extraction later caller extracted squares
    have whole := ((extraction_of_trace extracted).squares name caller).append squares
    apply whole.trans
    apply if_congr _ rfl rfl
    rw [bearer?_of_extracted extracted, Option.map_some, Option.some.injEq, eq_comm]
  cases concluded with
  | anonymous anonymous =>
      rw [anonymous.feedless.unissued, unsold_of_exchanges anonymous.unsent, ite_self]
  | refused extracted =>
      have extraction := extraction_of_trace extracted
      rw [extraction.unissued, unsold_of_exchanges extraction.silent.2, ite_self]
  | rejected extracted =>
      have whole := owned extracted (.nothing (total_nil _) (total_nil _))
      rw [List.append_nil] at whole
      exact whole
  | plain extracted _ => exact owned extracted (.nothing rfl rfl)
  | @document extraction executed caller document response extracted handles reads executes
      started now =>
      apply owned extracted
      have executed : Squares name caller executed := (GraphQl.executed_of_trace executes).squares
      exact (Squares.append (.nothing rfl rfl) executed).append (.nothing rfl rfl)
  | handled asks extracted takes handles =>
      exact owned extracted ((handled_of_trace handles).squares (Endpoint.operation_demands takes))

/-- In every run of completed requests, the counter of a name is the number of
vouchers in the successful creates of its callers. -/
theorem Step.vouchersCreated_eq {settings : RouterSettings} {cfg : Config} {path : Option String}
    {state : AppState} (started : AppState.withPath cfg path = .ok state) {steps : List Step}
    (completed : Step.Completed settings state steps) (name : String) :
    ((Step.run settings state steps).state.metrics.vouchersCreated.lookup name).getD 0 =
      UInt64.ofNat (∑ index ∈ Finset.range (Step.requests steps).length,
        if (Step.bearer? settings state steps index).map Caller.name = some name then
          total sells (Step.history settings state steps index) else 0) := by
  rw [(Step.tallied settings started steps).vouchersCreated name, Step.logged_eq_sum]
  congr 1
  apply Finset.sum_congr rfl
  intro index member
  rcases Step.arrived_of_mem_range member with ⟨schedule, request, arrived⟩
  rw [(completed.concluded arrived).issues name, Step.bearer?, arrived, Option.bind_some]

end

section

open Sample

/-- A framework that reads every body as a create for one guest. -/
local instance reading : Framework where
  pathParam segment := .ok segment
  oversized _ _ := none
  jsonBody _ _ := .ok (.object guestMembers)
  graphQlBody _ _ := .error ⟨.badRequest, "Invalid request"⟩

def bookedSteps : List Step :=
  .arrive [] (request "POST" "/proxy/network/integration/v1/sites/main/hotspot/vouchers"
    receptionKey []) :: List.replicate 15 (.advance 0 outside)

/-- One voucher was issued. -/
theorem Step.vouchersCreated_eq_booked :
    (Step.run settings state bookedSteps).state.metrics.vouchersCreated = [("reception", 1)] ∧
    ((Step.run settings state bookedSteps).state.metrics.vouchersCreated.lookup "reception").getD 0 =
      UInt64.ofNat (∑ index ∈ Finset.range (Step.requests bookedSteps).length,
        if (Step.bearer? settings state bookedSteps index).map Caller.name = some "reception" then
          total sells (Step.history settings state bookedSteps index) else 0) :=
  ⟨by decide +kernel, Step.vouchersCreated_eq started
    (Step.completed_of_single rfl (by decide +kernel)) "reception"⟩

end

end VoucherProxy
