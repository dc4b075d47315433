import VoucherProxy.Charging
import VoucherProxy.Counting

namespace VoucherProxy

/-! Whose quota pays for the calls to the controller: from a point at which a name
has no charge in hand, its callers make no more calls than it is granted charges. -/

variable [Crates]

/-- A charge that is granted to a name. -/
def grants (name : String) : Event Effect Answer → Nat
  | ⟨.check _ token, granted⟩ => if token.name = name then granted.toNat else 0
  | _ => 0

/-! ## One request -/

/-- No one is charged before extraction is over. -/
theorem uncharged_of_trace {request : HttpRequest} {events : History}
    {rest : Call (Except ProxyError Caller)}
    (trace : (Caller.fromRequestParts request).Trace events rest) : charges events = [] := by
  rcases Program.exists_finished nonempty_answer rest with ⟨later, result, finished⟩
  have silent := (extraction_of_trace (trace.append finished)).silent.1
  rw [charges_append] at silent
  exact (List.append_eq_nil_iff.mp silent).1

/-- Whatever a request is charged for, it is charged to the token of its caller. -/
theorem Guarded.charged {request : HttpRequest} {program rest : Call Response}
    {events : History} (guarded : Guarded request program) (trace : program.Trace events rest)
    {slot : Nat} {token : TokenConfig} {granted : Bool}
    (member : (⟨.check slot token, granted⟩ : Event Effect Answer) ∈ events) :
    ∃ caller, bearer? request events = some caller ∧ token = caller.token := by
  rcases guarded with keeps | ⟨handler, rfl, refused, keeps⟩
  · rcases List.append_of_mem member with ⟨before, after, place⟩
    rcases (keeps.along trace).2 before _ after place with ⟨line, impossible⟩
    cases impossible
  have uncharged : ∀ {extraction : History} {middle : Call (Except ProxyError Caller)},
      (Caller.fromRequestParts request).Trace extraction middle →
      (⟨.check slot token, granted⟩ : Event Effect Answer) ∉ extraction := by
    intro extraction middle extracts present
    rw [← mem_charges, uncharged_of_trace extracts] at present
    cases present
  rcases Program.trace_bind_iff.mp trace with
    ⟨middle, first, -⟩ | ⟨extraction, result, later, rfl, extracts, second⟩
  · exact absurd member (uncharged first)
  have late := (List.mem_append.mp member).resolve_left (uncharged extracts)
  cases result with
  | error why =>
      rcases refused why with ⟨response, same⟩
      rw [same] at second
      rw [(Program.trace_pure_iff.mp second).1] at late
      cases late
  | ok caller =>
      rcases List.append_of_mem late with ⟨before, after, place⟩
      have permitted := ((keeps caller).along second).2 before _ after place
      exact ⟨caller, bearer?_of_extracted extracts later, permitted.1⟩

theorem total_congr {M : Type} [AddCommMonoid M] {weight other : Event Effect Answer → M}
    {events : History} (same : ∀ event ∈ events, weight event = other event) :
    total weight events = total other events := by
  rw [total, total, List.map_congr_left same]

theorem total_costs (events : History) :
    total (fun event => (charging.costs event.effect).toNat) events = total attempts events := by
  apply total_congr
  rintro ⟨effect, answer⟩ -
  cases effect <;> rfl

theorem bearer?_append {request : HttpRequest} {early : History} {caller : Caller}
    (borne : bearer? request early = some caller) (later : History) :
    bearer? request (early ++ later) = some caller := by
  unfold bearer? at borne
  split at borne
  next carries =>
    rcases carries.choose_spec with ⟨extraction, rest, same, extracted⟩
    rw [Option.some.inj borne] at extracted
    rw [same, List.append_assoc]
    exact bearer?_of_extracted extracted _
  next => cases borne

section

variable {request : HttpRequest} {program rest stopped : Call Response} {early later : History}

/-- A request earns for its caller. -/
theorem Guarded.total_earns (guarded : Guarded request program)
    (trace : program.Trace (early ++ later) rest) {caller : Caller}
    (borne : bearer? request (early ++ later) = some caller) :
    total (fun event => (charging.earns event.effect event.answer).toNat) later =
      total (grants caller.name) later := by
  apply total_congr
  rintro ⟨effect, answer⟩ member
  cases effect with
  | check slot token =>
      rcases guarded.charged trace (List.mem_append_right _ member) with ⟨other, same, own⟩
      rw [borne] at same
      cases same
      rw [own]
      exact (if_pos rfl).symm
  | _ => rfl

/-- Without a caller a request has neither earned nor sent anything. -/
theorem Guarded.idle (guarded : Guarded request program) (pays : program.Pays charging 0)
    (trace : program.Trace early stopped) (unborne : bearer? request early = none) :
    total attempts early = 0 ∧ stopped.Pays charging 0 := by
  have earns : total (fun event => (charging.earns event.effect event.answer).toNat) early = 0 := by
    apply total_eq_zero
    rintro ⟨effect, answer⟩ member
    cases effect with
    | check slot token =>
        rcases guarded.charged trace member with ⟨caller, borne, -⟩
        rw [unborne] at borne
        cases borne
    | _ => rfl
  have spent := pays.total_le trace
  have left := pays.along trace
  rw [earns, total_costs] at spent left
  have none : total attempts early = 0 := by omega
  rw [none] at left
  exact ⟨none, left⟩

/-- From a point at which it has no charge in hand, a request sends no more calls
than its caller is granted charges. -/
theorem Guarded.attempts_le (guarded : Guarded request program) (pays : program.Pays charging 0)
    (before : program.Trace early stopped) (trace : program.Trace (early ++ later) rest)
    {name : String}
    (settled : (bearer? request early).map Caller.name = some name → stopped.Pays charging 0)
    (named : (bearer? request (early ++ later)).map Caller.name = some name) :
    total attempts (early ++ later) ≤
      (if (bearer? request early).map Caller.name = some name then total attempts early else 0) +
        total (grants name) later := by
  rcases Option.map_eq_some_iff.mp named with ⟨caller, borne, rfl⟩
  have earned := guarded.total_earns trace borne
  have grows : stopped.Pays charging 0 → total attempts later ≤ total (grants caller.name) later := by
    intro solvent
    have paid := solvent.total_le (before.later trace)
    rwa [total_costs, earned, Nat.zero_add] at paid
  rw [total_append]
  cases unborne : bearer? request early with
  | none =>
      rcases guarded.idle pays before unborne with ⟨none, solvent⟩
      have bound := grows solvent
      omega
  | some other =>
      have same := bearer?_append unborne later
      rw [borne] at same
      cases same
      rw [unborne] at settled
      have bound := grows (settled rfl)
      have own : (some caller).map Caller.name = some caller.name := rfl
      rw [if_pos own]
      omega

end

/-! ## Whole runs -/

variable [Framework] [GraphQlEngine]

namespace Step

/-- The calls to the controller made on behalf of a name in the course of a run. -/
noncomputable def calls (settings : RouterSettings) (state : AppState) (steps : List Step)
    (name : String) : Nat :=
  ∑ index ∈ Finset.range (requests steps).length,
    if (bearer? settings state steps index).map Caller.name = some name then
      total attempts (history settings state steps index) else 0

/-- No request of the name stands between a charge that was granted and the call
it pays for. -/
def Settled (settings : RouterSettings) (state : AppState) (steps : List Step)
    (name : String) : Prop :=
  ∀ index thread, (run settings state steps).threads[index]? = some thread →
    (bearer? settings state steps index).map Caller.name = some name →
    thread.rest.Pays charging 0

section

variable {settings : RouterSettings} {state : AppState} {early middle : List Step}

omit [Crates] [Framework] [GraphQlEngine] in
theorem requests_append (early middle : List Step) :
    requests (early ++ middle) = requests early ++ requests middle :=
  List.filterMap_append ..

theorem history_of_log {later : Log}
    (whole : (run settings state (early ++ middle)).log = (run settings state early).log ++ later)
    (index : Nat) : history settings state (early ++ middle) index =
      history settings state early index ++ Pool.eventsOf index later := by
  rw [history, whole, Pool.eventsOf_append]

theorem history_eq_nil {index : Nat} (beyond : (requests early).length ≤ index) :
    history settings state early index = [] := by
  rw [← length_threads settings state early] at beyond
  exact (Pool.run_follows state (early.map (turn settings))).2 index beyond

/-- A request is charged to the name of its caller. -/
theorem named_of_charged {index slot : Nat} {token : TokenConfig} {granted : Bool}
    (within : index < (requests early).length)
    (member : (⟨.check slot token, granted⟩ : Event Effect Answer) ∈
      history settings state early index) :
    (bearer? settings state early index).map Caller.name = some token.name := by
  rcases arrived_of_mem_range (Finset.mem_range.mpr within) with ⟨schedule, request, arrived⟩
  rcases events_trace settings state arrived with ⟨rest, trace⟩
  have guarded : Guarded request (Routes.serve settings schedule request) := Guarded.serve ..
  rcases guarded.charged trace member with ⟨caller, borne, rfl⟩
  rw [bearer?, arrived, Option.bind_some, borne]
  rfl

/-- One request, from a point at which the name is settled. -/
theorem attempts_le {name : String} (settled : Settled settings state early name) {later : Log}
    (whole : (run settings state (early ++ middle)).log = (run settings state early).log ++ later)
    {index : Nat} (within : index < (requests (early ++ middle)).length) :
    (if (bearer? settings state (early ++ middle) index).map Caller.name = some name then
        total attempts (history settings state (early ++ middle) index) else 0) ≤
      (if (bearer? settings state early index).map Caller.name = some name then
          total attempts (history settings state early index) else 0) +
        total (grants name) (Pool.eventsOf index later) := by
  rcases arrived_of_mem_range (Finset.mem_range.mpr within) with ⟨schedule, request, arrived⟩
  have bearer : bearer? settings state (early ++ middle) index =
      VoucherProxy.bearer? request (history settings state (early ++ middle) index) := by
    rw [bearer?, arrived]
    rfl
  split
  next named =>
    rw [bearer, history_of_log whole] at named
    rcases events_trace settings state arrived with ⟨rest, trace⟩
    rw [history_of_log whole] at trace ⊢
    have guarded : Guarded request (Routes.serve settings schedule request) := Guarded.serve ..
    have pays := Charging.serve_pays settings schedule request
    by_cases old : index < (requests early).length
    · have same : (requests early)[index]? = some (schedule, request) := by
        rwa [requests_append, List.getElem?_append_left old] at arrived
      have borne : bearer? settings state early index =
          VoucherProxy.bearer? request (history settings state early index) := by
        rw [bearer?, same]
        rfl
      rcases thread_of_request settings state same with ⟨stopped, found⟩
      have before := (Pool.run_follows state (early.map (turn settings))).1 index _ found
      have unspent := settled index _ found
      rw [borne] at unspent ⊢
      exact guarded.attempts_le pays before trace unspent named
    · have none : history settings state early index = [] := history_eq_nil (Nat.le_of_not_lt old)
      rw [none] at trace named ⊢
      have bound := guarded.attempts_le pays (.nil _) trace (fun _ => pays) named
      simpa using bound
  next => exact Nat.zero_le _

/-- From a point at which the name is settled, no more calls are made on its
behalf than it is granted charges. -/
theorem calls_le_logged {name : String} (settled : Settled settings state early name) {later : Log}
    (whole : (run settings state (early ++ middle)).log = (run settings state early).log ++ later) :
    calls settings state (early ++ middle) name ≤
      calls settings state early name + Pool.logged (grants name) later := by
  have charged : Pool.logged (grants name) later =
      ∑ index ∈ Finset.range (requests (early ++ middle)).length,
        total (grants name) (Pool.eventsOf index later) := by
    apply Pool.logged_eq_sum
    intro index beyond
    have none : history settings state (early ++ middle) index = [] := history_eq_nil beyond
    rw [history_of_log whole] at none
    exact (List.append_eq_nil_iff.mp none).2
  have before : calls settings state early name =
      ∑ index ∈ Finset.range (requests (early ++ middle)).length,
        if (bearer? settings state early index).map Caller.name = some name then
          total attempts (history settings state early index) else 0 := by
    apply Finset.sum_subset
    · apply Finset.range_subset_range.mpr
      rw [requests_append, List.length_append]
      exact Nat.le_add_right _ _
    · intro index _ beyond
      rw [Finset.mem_range, not_lt] at beyond
      have none : bearer? settings state early index = none := by
        rw [bearer?, List.getElem?_eq_none beyond]
        rfl
      rw [none]
      exact if_neg (by simp)
  rw [before, charged, ← Finset.sum_add_distrib]
  apply Finset.sum_le_sum
  intro index member
  exact attempts_le settled whole (Finset.mem_range.mp member)

end

end Step

end VoucherProxy
