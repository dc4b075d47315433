import VoucherProxy.Acting

namespace VoucherProxy

/-! Every exit of an operation on either surface, with the events that lead to it. -/

variable [Crates]

theorem nonempty_answer (effect : Effect) : Nonempty (Answer effect) := by
  have live : Live :=
    { auth := ⟨[], ∅⟩
      upstream := ⟨⟨.webPki, 0, 0, false⟩, "", ⟨""⟩⟩
      limits := {}
      rate := ⟨[], none, 0⟩
      tokenCount := 0 }
  cases effect with
  | live => exact ⟨⟨0, live⟩⟩
  | checkIp slot ip => exact ⟨true⟩
  | cacheGet slot key => exact ⟨none⟩
  | check slot token => exact ⟨true⟩
  | send slot sent => exact ⟨.answered .ok none⟩
  | nowUtc => exact ⟨0⟩
  | instant => exact ⟨(0 : Nat)⟩
  | _ => exact ⟨()⟩

section

variable {α : Type} (operation : Operation α) (caller : Caller) (guard : Guard)

/-! ## Up to the call -/

/-- How the checks before the call end. -/
inductive Admitting : History → Except ProxyError Unit → Prop
  | refused {why : ProxyError} (refused : caller.permits operation = .error why) :
      Admitting [] (.error why)
  | limited (permitted : caller.permits operation = .ok ()) :
      Admitting [⟨.check guard.slot caller.token, false⟩,
        ⟨.audit (.rejected operation.action "rate_limited" 429), ()⟩] (.error .rateLimited)
  | admitted (permitted : caller.permits operation = .ok ()) :
      Admitting [⟨.check guard.slot caller.token, true⟩] (.ok ())

/-- How the call itself ends. -/
inductive Calling (plan : Plan) : History → Except ProxyError Json → Prop
  | unformed {why : ProxyError} (unformed : plan.request guard.value.upstream = .error why) :
      Calling plan [] (.error why)
  | sent {sent : UpstreamRequest} {reply : Reply} {read : Except ProxyError Json}
      (formed : plan.request guard.value.upstream = .ok sent)
      (reads : reply.interpret = read) :
      Calling plan [⟨.send guard.slot sent, reply⟩] read

variable {operation caller guard}

open Program

theorem admitting_of_trace {events : History} {result : Except ProxyError Unit}
    (trace : (caller.admission guard operation).Trace events (.pure result)) :
    Admitting operation caller guard events result := by
  unfold Caller.admission at trace
  cases permitted : caller.permits operation with
  | error why =>
      rw [permitted] at trace
      rcases trace.of_pure with ⟨rfl, rfl⟩
      exact .refused permitted
  | ok done =>
      rw [permitted] at trace
      rcases Trace.of_request trace with ⟨granted, later, rfl, verdict⟩
      cases granted with
      | true =>
          rcases Trace.of_pure verdict with ⟨rfl, rfl⟩
          exact .admitted permitted
      | false =>
          rcases Trace.of_request verdict with ⟨_, later, rfl, logged⟩
          rcases Trace.of_pure logged with ⟨rfl, rfl⟩
          exact .limited permitted

theorem calling_of_trace {plan : Plan} {events : History} {read : Except ProxyError Json}
    (trace : (guard.send (plan.request guard.value.upstream)).Trace events (.pure read)) :
    Calling guard plan events read := by
  unfold Guard.send at trace
  cases formed : plan.request guard.value.upstream with
  | error why =>
      rw [formed] at trace
      rcases trace.of_pure with ⟨rfl, rfl⟩
      exact .unformed formed
  | ok sent =>
      rw [formed] at trace
      rcases Trace.of_request trace with ⟨reply, later, rfl, answered⟩
      rcases Trace.of_pure answered with ⟨rfl, rfl⟩
      exact .sent formed rfl

/-! ## REST -/

/-- How an operation ends on the `Live` it loaded. -/
inductive Ran (operation : Operation α) (caller : Caller) (guard : Guard) :
    History → Outcome α → Prop
  | barred {events : History} {why : ProxyError}
      (barred : Admitting operation caller guard events (.error why)) :
      Ran operation caller guard events ⟨.error why, 0, none⟩
  | unplanned {events : History} {why : ProxyError}
      (admitted : Admitting operation caller guard events (.ok ()))
      (unplanned : operation.plan = .error why) :
      Ran operation caller guard events ⟨.error why, 0, none⟩
  | called {events call : History} {plan : Plan} {read : Except ProxyError Json}
      (admitted : Admitting operation caller guard events (.ok ()))
      (planned : operation.plan = .ok plan) (calling : Calling guard plan call read)
      (up now : Nat) :
      Ran operation caller guard
        (events ++ ⟨.instant, up⟩ :: (call ++ [⟨.instant, now⟩]))
        ⟨read.map operation.view, now - up, plan.count⟩

theorem ran_of_trace {events : History} {outcome : Outcome α}
    (trace : (operation.run caller guard).Trace events (.pure outcome)) :
    Ran operation caller guard events outcome := by
  rcases Trace.of_bind trace with ⟨early, result, late, rfl, admitting, tail⟩
  have admitting := admitting_of_trace admitting
  cases result with
  | error why =>
      rcases Trace.of_pure tail with ⟨rfl, rfl⟩
      simpa using Ran.barred admitting
  | ok done =>
      simp only at tail
      cases planned : operation.plan with
      | error why =>
          rw [planned] at tail
          rcases Trace.of_pure tail with ⟨rfl, rfl⟩
          simpa using Ran.unplanned admitting planned
      | ok plan =>
          rw [planned] at tail
          rcases Trace.of_request tail with ⟨up, later, rfl, call⟩
          rcases Trace.of_bind call with ⟨sending, read, rest, rfl, calling, timed⟩
          rcases Trace.of_request timed with ⟨now, later, rfl, ended⟩
          rcases Trace.of_pure ended with ⟨rfl, rfl⟩
          exact .called admitting planned (calling_of_trace calling) up now

/-- What `finish` adds: a count, the upstream counters, the vouchers issued, and
last the audit line. -/
def finishing (caller : Caller) (operation : Operation α) (started now : Nat)
    (outcome : Outcome α) : History :=
  let tag := resultTag outcome.result
  [⟨.recordRequest caller.name operation.action tag.2, ()⟩,
    ⟨.recordUpstream (UInt64.ofNat (millis outcome.upstream)), ()⟩] ++
  (match outcome.result, outcome.count with
    | .ok _, some count => [⟨.recordVouchersCreated caller.name count, ()⟩]
    | _, _ => []) ++
  [⟨.instant, now⟩,
    ⟨.audit (.request caller.name operation.action (operation.site.getD "-")
      (operation.target.getD "-") (outcome.count.getD 0) tag.1 tag.2 (millis (now - started))), ()⟩]

theorem finishing_of_trace {started : Nat} {outcome : Outcome α} {events : History}
    {result : Except ProxyError α}
    (trace : (finish caller operation started outcome).Trace events (.pure result)) :
    ∃ now, events = finishing caller operation started now outcome ∧ result = outcome.result := by
  rcases outcome with ⟨ended, upstream, count⟩
  rcases Trace.of_request trace with ⟨_, counted, rfl, tail⟩
  rcases Trace.of_request tail with ⟨_, measured, rfl, rest⟩
  have closing : ∀ {later : History} {value : Except ProxyError α},
      Trace (do
        let now ← Call.instant
        let record : AuditRecord :=
          { token := caller.name
            action := operation.action
            site := operation.site
            target := operation.target
            count := count
            status := (resultTag ended).1
            outcome := (resultTag ended).2
            elapsed := now - started }
        Call.audit record.line
        return ended) later (.pure value) →
      ∃ now, later = [⟨.instant, now⟩,
        ⟨.audit (.request caller.name operation.action (operation.site.getD "-")
          (operation.target.getD "-") (count.getD 0) (resultTag ended).1 (resultTag ended).2
          (millis (now - started))), ()⟩] ∧ value = ended := by
    intro later value closing
    rcases Trace.of_request closing with ⟨now, line, rfl, written⟩
    rcases Trace.of_request written with ⟨_, nothing, rfl, returned⟩
    rcases Trace.of_pure returned with ⟨rfl, rfl⟩
    exact ⟨now, rfl, rfl⟩
  cases ended with
  | error why =>
      rcases closing rest with ⟨now, rfl, rfl⟩
      exact ⟨now, rfl, rfl⟩
  | ok value =>
      cases count with
      | none =>
          rcases closing rest with ⟨now, rfl, rfl⟩
          exact ⟨now, rfl, rfl⟩
      | some count =>
          rcases Trace.of_request rest with ⟨_, issued, rfl, last⟩
          rcases closing last with ⟨now, rfl, rfl⟩
          exact ⟨now, rfl, rfl⟩

/-- How a whole operation ends. -/
inductive Handled (operation : Operation α) (caller : Caller) :
    History → Except ProxyError α → Prop
  | intro {events : History} {outcome : Outcome α} {guard : Guard}
      (ran : Ran operation caller guard events outcome) (started now : Nat) :
      Handled operation caller
        (⟨.instant, started⟩ :: ⟨.live, guard⟩ ::
          (events ++ finishing caller operation started now outcome)) outcome.result

theorem handled_of_trace {events : History} {result : Except ProxyError α}
    (trace : (operation.handle caller).Trace events (.pure result)) :
    Handled operation caller events result := by
  rcases Trace.of_request trace with ⟨started, later, rfl, tail⟩
  rcases Trace.of_request tail with ⟨guard, later, rfl, whole⟩
  rcases Trace.of_bind whole with ⟨early, outcome, late, rfl, ran, ended⟩
  rcases finishing_of_trace ended with ⟨now, rfl, rfl⟩
  exact .intro (ran_of_trace ran) started now

/-- A handler that was dropped did the first steps of one that was not. -/
theorem exists_handled {events : History} {rest : Call (Except ProxyError α)}
    (trace : (operation.handle caller).Trace events rest) :
    ∃ later result, rest.Trace later (.pure result) ∧
      Handled operation caller (events ++ later) result := by
  rcases exists_finished nonempty_answer rest with ⟨later, result, finished⟩
  exact ⟨later, result, finished, handled_of_trace (trace.append finished)⟩

/-! ## What was sent -/

/-- The requests that were sent to the controller, each with the reply. -/
def exchanges (events : History) : List (UpstreamRequest × Reply) :=
  events.filterMap fun
    | ⟨.send _ sent, reply⟩ => some (sent, reply)
    | _ => none

theorem exchanges_append (early late : History) :
    exchanges (early ++ late) = exchanges early ++ exchanges late :=
  List.filterMap_append

theorem mem_exchanges {events : History} {slot : Nat} {sent : UpstreamRequest} {reply : Reply}
    (sends : (⟨.send slot sent, reply⟩ : Event Effect Answer) ∈ events) :
    (sent, reply) ∈ exchanges events :=
  List.mem_filterMap.mpr ⟨_, sends, rfl⟩

theorem Admitting.silent {events : History} {result : Except ProxyError Unit}
    (admitting : Admitting operation caller guard events result) :
    exchanges events = [] := by
  cases admitting <;> rfl

theorem Admitting.permits {events : History}
    (admitted : Admitting operation caller guard events (.ok ())) :
    caller.permits operation = .ok () := by
  cases admitted with
  | admitted permitted => exact permitted

theorem exchanges_finishing (started now : Nat) (outcome : Outcome α) :
    exchanges (finishing caller operation started now outcome) = [] := by
  rcases outcome with ⟨result, upstream, count⟩
  cases result with
  | error why => rfl
  | ok value => cases count <;> rfl

theorem exchanges_whole (guard : Guard) (events : History) (started now : Nat)
    (outcome : Outcome α) :
    exchanges (⟨.instant, started⟩ :: ⟨.live, guard⟩ ::
      (events ++ finishing caller operation started now outcome)) = exchanges events := by
  change exchanges (events ++ _) = _
  rw [exchanges_append, exchanges_finishing, List.append_nil]

/-- One request of an operation: formed by its plan, with its rights, and answered. -/
structure Exchanged (operation : Operation α) (caller : Caller) (plan : Plan)
    (sent : UpstreamRequest) : Prop where
  permitted : caller.permits operation = .ok ()
  planned : operation.plan = .ok plan
  formed : ∃ guard : Guard, plan.request guard.value.upstream = .ok sent

/-- An operation that sent nothing failed; one that did sent one request and ends
the way the reply reads. -/
theorem Ran.exchanged {events : History} {outcome : Outcome α}
    (ran : Ran operation caller guard events outcome) :
    (exchanges events = [] ∧ ∃ why, outcome.result = .error why) ∨
      ∃ plan sent reply, Exchanged operation caller plan sent ∧
        exchanges events = [(sent, reply)] ∧
        outcome.result = reply.interpret.map operation.view ∧ outcome.count = plan.count := by
  cases ran with
  | barred barred => exact .inl ⟨barred.silent, _, rfl⟩
  | unplanned admitted _ => exact .inl ⟨admitted.silent, _, rfl⟩
  | @called events call plan read admitted planned calling up now =>
      have only : exchanges
          (events ++ ⟨.instant, up⟩ :: (call ++ [⟨.instant, now⟩])) =
            exchanges call := by
        rw [exchanges_append, admitted.silent]
        change exchanges (call ++ _) = _
        rw [exchanges_append]
        exact List.append_nil _
      cases calling with
      | unformed _ => exact .inl ⟨only, _, rfl⟩
      | @sent sent reply read formed reads =>
          subst reads
          exact .inr ⟨plan, sent, reply, ⟨admitted.permits, planned, guard, formed⟩, only,
            rfl, rfl⟩

theorem Handled.exchanged {events : History} {result : Except ProxyError α}
    (handled : Handled operation caller events result) :
    (exchanges events = [] ∧ ∃ why, result = .error why) ∨
      ∃ plan sent reply, Exchanged operation caller plan sent ∧
        exchanges events = [(sent, reply)] ∧
        result = reply.interpret.map operation.view := by
  cases handled with
  | @intro events outcome guard ran started now =>
      rw [exchanges_whole]
      rcases ran.exchanged with nothing | ⟨plan, sent, reply, exchanged, one, ended, -⟩
      · exact .inl nothing
      · exact .inr ⟨plan, sent, reply, exchanged, one, ended⟩

/-! ## What was charged -/

/-- The attempts to spend quota: the slot and the token charged, and the verdict. -/
def charges (events : History) : List (Nat × TokenConfig × Bool) :=
  events.filterMap fun
    | ⟨.check slot token, granted⟩ => some (slot, token, granted)
    | _ => none

theorem charges_append (early late : History) :
    charges (early ++ late) = charges early ++ charges late :=
  List.filterMap_append

theorem mem_charges {events : History} {slot : Nat} {token : TokenConfig} {granted : Bool} :
    (slot, token, granted) ∈ charges events ↔
      (⟨.check slot token, granted⟩ : Event Effect Answer) ∈ events := by
  constructor
  · intro charged
    rcases List.mem_filterMap.mp charged with ⟨⟨effect, answer⟩, member, selected⟩
    cases effect with
    | check own other =>
        simp only [Option.some.injEq, Prod.mk.injEq] at selected
        rcases selected with ⟨rfl, rfl, rfl⟩
        exact member
    | _ => simp at selected
  · exact fun member => List.mem_filterMap.mpr ⟨_, member, rfl⟩

theorem charges_finishing (started now : Nat) (outcome : Outcome α) :
    charges (finishing caller operation started now outcome) = [] := by
  rcases outcome with ⟨result, upstream, count⟩
  cases result with
  | error why => rfl
  | ok value => cases count <;> rfl

theorem Calling.uncharged {plan : Plan} {events : History} {read : Except ProxyError Json}
    (calling : Calling guard plan events read) : charges events = [] := by
  cases calling <;> rfl

/-- A call charges nothing beyond what was charged before it. -/
theorem Calling.charges_called {plan : Plan} {call : History} {read : Except ProxyError Json}
    (calling : Calling guard plan call read) (events : History) (up now : Nat) :
    charges (events ++ ⟨.instant, up⟩ :: (call ++ [⟨.instant, now⟩])) = charges events := by
  rw [charges_append]
  change charges events ++ charges (call ++ _) = _
  rw [charges_append, calling.uncharged]
  exact List.append_nil _

/-- What the checks before a call charge. -/
inductive Charged (operation : Operation α) (caller : Caller) (slot : Nat) :
    List (Nat × TokenConfig × Bool) → Except ProxyError α → Prop
  | free {why : ProxyError} (refused : caller.permits operation = .error why) :
      Charged operation caller slot [] (.error why)
  | exceeded (permitted : caller.permits operation = .ok ()) :
      Charged operation caller slot [(slot, caller.token, false)] (.error .rateLimited)
  | spent {result : Except ProxyError α} (permitted : caller.permits operation = .ok ()) :
      Charged operation caller slot [(slot, caller.token, true)] result

theorem Admitting.charged_error {events : History} {why : ProxyError}
    (barred : Admitting operation caller guard events (.error why)) :
    Charged operation caller guard.slot (charges events) (.error why) := by
  cases barred with
  | refused refused => exact .free refused
  | limited permitted => exact .exceeded permitted

theorem Admitting.charges_ok {events : History}
    (admitted : Admitting operation caller guard events (.ok ())) :
    charges events = [(guard.slot, caller.token, true)] := by
  cases admitted
  rfl

theorem Ran.charged {events : History} {outcome : Outcome α}
    (ran : Ran operation caller guard events outcome) :
    Charged operation caller guard.slot (charges events) outcome.result := by
  cases ran with
  | barred barred => exact barred.charged_error
  | unplanned admitted _ =>
      rw [admitted.charges_ok]
      exact .spent admitted.permits
  | @called events call plan read admitted planned calling up now =>
      rw [calling.charges_called, admitted.charges_ok]
      exact .spent admitted.permits

theorem charges_whole (guard : Guard) (events : History) (started now : Nat)
    (outcome : Outcome α) :
    charges (⟨.instant, started⟩ :: ⟨.live, guard⟩ ::
      (events ++ finishing caller operation started now outcome)) = charges events := by
  change charges (events ++ _) = _
  rw [charges_append, charges_finishing, List.append_nil]

theorem Handled.charged {events : History} {result : Except ProxyError α}
    (handled : Handled operation caller events result) :
    ∃ slot, Charged operation caller slot (charges events) result := by
  cases handled with
  | @intro events outcome guard ran started now =>
      rw [charges_whole]
      exact ⟨guard.slot, ran.charged⟩

/-! ## What was recorded -/

/-- The lines on the audit target. -/
def audits (events : History) : List AuditLine :=
  events.filterMap fun
    | ⟨.audit line, _⟩ => some line
    | _ => none

/-- The increments of the request counters: token, action and outcome. -/
def counts (events : History) : List (String × String × String) :=
  events.filterMap fun
    | ⟨.recordRequest token action outcome, _⟩ => some (token, action, outcome)
    | _ => none

theorem audits_append (early late : History) :
    audits (early ++ late) = audits early ++ audits late :=
  List.filterMap_append

theorem counts_append (early late : History) :
    counts (early ++ late) = counts early ++ counts late :=
  List.filterMap_append

/-- The line that `finish` writes. -/
def finishLine (caller : Caller) (operation : Operation α) (elapsed : Nat)
    (outcome : Outcome α) : AuditLine :=
  let tag := resultTag outcome.result
  .request caller.name operation.action (operation.site.getD "-") (operation.target.getD "-")
    (outcome.count.getD 0) tag.1 tag.2 (millis elapsed)

/-- A refused charge leaves a line of its own. -/
def overQuota (action : String) (charges : List (Nat × TokenConfig × Bool)) : List AuditLine :=
  (charges.filter fun charge => !charge.2.2).map fun _ => .rejected action "rate_limited" 429

theorem Calling.unrecorded {plan : Plan} {events : History} {read : Except ProxyError Json}
    (calling : Calling guard plan events read) : audits events = [] ∧ counts events = [] := by
  cases calling <;> exact ⟨rfl, rfl⟩

theorem Admitting.recorded {events : History} {result : Except ProxyError Unit}
    (admitting : Admitting operation caller guard events result) :
    audits events = overQuota operation.action (charges events) ∧ counts events = [] := by
  cases admitting <;> exact ⟨rfl, rfl⟩

/-- Before `finish`, an operation leaves no more than the line of a refused charge. -/
theorem Ran.recorded {events : History} {outcome : Outcome α}
    (ran : Ran operation caller guard events outcome) :
    audits events = overQuota operation.action (charges events) ∧ counts events = [] := by
  cases ran with
  | barred barred => exact barred.recorded
  | unplanned admitted _ => exact admitted.recorded
  | @called events call plan read admitted planned calling up now =>
      rcases admitted.recorded with ⟨lines, counted⟩
      rcases calling.unrecorded with ⟨callLines, callCounted⟩
      refine ⟨?_, ?_⟩
      · rw [calling.charges_called, audits_append, lines]
        change _ ++ audits (call ++ _) = _
        rw [audits_append, callLines]
        exact List.append_nil _
      · rw [counts_append, counted]
        change [] ++ counts (call ++ _) = _
        rw [counts_append, callCounted]
        rfl

theorem recorded_finishing (started now : Nat) (outcome : Outcome α) :
    audits (finishing caller operation started now outcome) =
        [finishLine caller operation (now - started) outcome] ∧
      counts (finishing caller operation started now outcome) =
        [(caller.name, operation.action, (resultTag outcome.result).2)] := by
  rcases outcome with ⟨result, upstream, count⟩
  cases result with
  | error why => exact ⟨rfl, rfl⟩
  | ok value => cases count <;> exact ⟨rfl, rfl⟩

/-- Every exit runs through `finish`: one line and one count. -/
theorem recorded_whole {guard : Guard} {events : History} {outcome : Outcome α}
    (ran : Ran operation caller guard events outcome) (started now : Nat) :
    audits (⟨.instant, started⟩ :: ⟨.live, guard⟩ ::
        (events ++ finishing caller operation started now outcome)) =
      overQuota operation.action (charges events) ++
        [finishLine caller operation (now - started) outcome] ∧
    counts (⟨.instant, started⟩ :: ⟨.live, guard⟩ ::
        (events ++ finishing caller operation started now outcome)) =
      [(caller.name, operation.action, (resultTag outcome.result).2)] := by
  rcases ran.recorded with ⟨lines, counted⟩
  refine ⟨?_, ?_⟩
  · change audits (events ++ _) = _
    rw [audits_append, lines, (recorded_finishing started now outcome).1]
  · change counts (events ++ _) = _
    rw [counts_append, counted, (recorded_finishing started now outcome).2]
    rfl

theorem Handled.recorded {events : History} {result : Except ProxyError α}
    (handled : Handled operation caller events result) :
    ∃ count elapsed,
      audits events = overQuota operation.action (charges events) ++
        [.request caller.name operation.action (operation.site.getD "-")
          (operation.target.getD "-") count (resultTag result).1 (resultTag result).2 elapsed] ∧
      counts events = [(caller.name, operation.action, (resultTag result).2)] := by
  cases handled with
  | @intro events outcome guard ran started now =>
      rw [charges_whole]
      exact ⟨_, _, recorded_whole ran started now⟩

/-- Whoever sent a call was charged for it. -/
theorem Handled.charged_of_exchanges {events : History} {result : Except ProxyError α}
    (handled : Handled operation caller events result) (sends : exchanges events ≠ []) :
    ∃ slot, charges events = [(slot, caller.token, true)] := by
  cases handled with
  | @intro events outcome guard ran started now =>
      rw [charges_whole]
      rw [exchanges_whole] at sends
      cases ran with
      | barred barred => exact absurd barred.silent sends
      | unplanned admitted _ => exact absurd admitted.silent sends
      | called admitted _ calling up now =>
          rw [calling.charges_called]
          exact ⟨guard.slot, admitted.charges_ok⟩

/-- The line is written last. -/
theorem Handled.ends_audited {events : History} {result : Except ProxyError α}
    (handled : Handled operation caller events result) :
    ∃ front line, events = front ++ [⟨.audit line, ()⟩] := by
  cases handled with
  | @intro events outcome guard ran started now =>
      have closing : ∃ front line,
          finishing caller operation started now outcome = front ++ [⟨.audit line, ()⟩] :=
        ⟨_, _, (List.append_assoc _ [(⟨.instant, now⟩ : Event Effect Answer)] [_]).symm⟩
      rcases closing with ⟨front, line, same⟩
      exact ⟨⟨.instant, started⟩ :: ⟨.live, guard⟩ :: (events ++ front), line, by simp [same]⟩

end

/-! ## GraphQL -/

namespace GraphQl

open Program

/-- How a resolver ends on the `Live` it loaded. -/
inductive Ran (operation : Operation FieldValue) (caller : Caller) (guard : Guard) :
    History → Except GqlError FieldValue → Prop
  | barred {events : History} {why : ProxyError}
      (barred : Admitting operation caller guard events (.error why)) :
      Ran operation caller guard events (.error (toGql why))
  | unplanned {events : History} {why : ProxyError}
      (admitted : Admitting operation caller guard events (.ok ()))
      (unplanned : operation.plan = .error why) :
      Ran operation caller guard events (.error (toGql why))
  | failed {events call : History} {plan : Plan} {why : ProxyError}
      (admitted : Admitting operation caller guard events (.ok ()))
      (planned : operation.plan = .ok plan) (calling : Calling guard plan call (.error why))
      (up : Nat) :
      Ran operation caller guard (events ++ ⟨.instant, up⟩ :: call) (.error (toGql why))
  | called {events call : History} {plan : Plan} {body : Json}
      (admitted : Admitting operation caller guard events (.ok ()))
      (planned : operation.plan = .ok plan) (calling : Calling guard plan call (.ok body))
      (up now : Nat) :
      Ran operation caller guard
        (events ++ ⟨.instant, up⟩ :: (call ++ [⟨.instant, now⟩,
          ⟨.recordUpstream (UInt64.ofNat (millis (now - up))), ()⟩] ++
          (plan.count.map fun count => ⟨.recordVouchersCreated caller.name count, ()⟩).toList))
        (.ok (operation.view body))

variable {operation : Operation FieldValue} {caller : Caller} {guard : Guard}

theorem ran_of_trace {events : History} {result : Except GqlError FieldValue}
    (trace : (run operation caller guard).Trace events (.pure result)) :
    Ran operation caller guard events result := by
  rcases Trace.of_bind trace with ⟨early, verdict, late, rfl, admitting, tail⟩
  have admitting := admitting_of_trace admitting
  cases verdict with
  | error why =>
      rcases Trace.of_pure tail with ⟨rfl, rfl⟩
      simpa using Ran.barred admitting
  | ok done =>
      simp only at tail
      cases planned : operation.plan with
      | error why =>
          rw [planned] at tail
          rcases Trace.of_pure tail with ⟨rfl, rfl⟩
          simpa using Ran.unplanned admitting planned
      | ok plan =>
          rw [planned] at tail
          rcases Trace.of_request tail with ⟨up, later, rfl, call⟩
          rcases Trace.of_bind call with ⟨sending, read, rest, rfl, calling, answered⟩
          have calling := calling_of_trace calling
          cases read with
          | error why =>
              rcases Trace.of_pure answered with ⟨rfl, rfl⟩
              simpa using Ran.failed admitting planned calling up
          | ok body =>
              rcases Trace.of_request answered with ⟨now, later, rfl, timed⟩
              rcases Trace.of_request timed with ⟨_, issued, rfl, measured⟩
              have called := Ran.called admitting planned calling up now
              cases counted : plan.count with
              | none =>
                  rw [counted] at measured called
                  rcases Trace.of_pure measured with ⟨rfl, rfl⟩
                  simpa using called
              | some count =>
                  rw [counted] at measured called
                  rcases Trace.of_request measured with ⟨_, last, rfl, returned⟩
                  rcases Trace.of_pure returned with ⟨rfl, rfl⟩
                  simpa using called

theorem Ran.exchanged {events : History} {result : Except GqlError FieldValue}
    (ran : Ran operation caller guard events result) :
    (exchanges events = [] ∧ ∃ why, result = .error (toGql why)) ∨
      ∃ plan sent reply, Exchanged operation caller plan sent ∧
        exchanges events = [(sent, reply)] ∧
        result = (reply.interpret.map operation.view).mapError toGql := by
  cases ran with
  | barred barred => exact .inl ⟨barred.silent, _, rfl⟩
  | unplanned admitted _ => exact .inl ⟨admitted.silent, _, rfl⟩
  | @failed events call plan why admitted planned calling up =>
      have only : exchanges (events ++ ⟨.instant, up⟩ :: call) =
          exchanges call := by
        rw [exchanges_append, admitted.silent]
        rfl
      cases calling with
      | unformed _ => exact .inl ⟨only, why, rfl⟩
      | @sent sent reply _ formed reads =>
          refine .inr ⟨plan, sent, reply, ⟨admitted.permits, planned, guard, formed⟩, only, ?_⟩
          rw [reads]
          rfl
  | @called events call plan body admitted planned calling up now =>
      cases calling with
      | @sent sent reply _ formed reads =>
          refine .inr ⟨plan, sent, reply, ⟨admitted.permits, planned, guard, formed⟩, ?_, ?_⟩
          · rw [exchanges_append, admitted.silent]
            cases plan.count <;> rfl
          · rw [reads]
            rfl

/-- How a whole resolver ends. -/
inductive Ended (operation : Operation FieldValue) (caller : Caller) :
    History → Except GqlError FieldValue → Prop
  | intro {events : History} {result : Except GqlError FieldValue} {guard : Guard}
      (ran : Ran operation caller guard events result) :
      Ended operation caller (⟨.live, guard⟩ :: events) result

theorem ended_of_trace {events : History} {result : Except GqlError FieldValue}
    (trace : (resolve caller operation).Trace events (.pure result)) :
    Ended operation caller events result := by
  rcases Trace.of_request trace with ⟨guard, later, rfl, tail⟩
  exact .intro (ran_of_trace tail)

/-- A resolver that sent nothing failed; one that did sent one request and ends
the way the reply reads. -/
theorem Ended.exchanged {events : History} {result : Except GqlError FieldValue}
    (ended : Ended operation caller events result) :
    (exchanges events = [] ∧ ∃ why, result = .error (toGql why)) ∨
      ∃ plan sent reply, Exchanged operation caller plan sent ∧
        exchanges events = [(sent, reply)] ∧
        result = (reply.interpret.map operation.view).mapError toGql := by
  rcases ended with ⟨ran⟩
  exact ran.exchanged

end GraphQl

end VoucherProxy
