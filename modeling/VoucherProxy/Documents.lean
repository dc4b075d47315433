import VoucherProxy.Completion
import VoucherProxy.Foundation.Totals

namespace VoucherProxy

/-! What the execution of a document does, field by field. -/

variable [Crates]

namespace GraphQl

open Program

/-- The operation a field stands for; the engine and `info` make no call. -/
def QueryField.operation? (caller : Caller) : QueryField → Option (Operation FieldValue)
  | .introspection _ => none
  | .info => none
  | .sites => some (GraphQl.sites caller)
  | .vouchers siteId => some (GraphQl.vouchers siteId)

def MutationField.operation? (caller : Caller) : MutationField → Option (Operation FieldValue)
  | .introspection _ => none
  | .createVouchers siteId input => some (GraphQl.createVouchers caller siteId input.input)
  | .revokeVoucher siteId voucherId => some (GraphQl.revokeVoucher siteId voucherId)

/-- How a field ends: at once with a value, or with its operation. -/
inductive Resolved (caller : Caller) : Option (Operation FieldValue) → History → FieldResult → Prop
  | plain (key : String) (value : FieldValue) : Resolved caller none [] (key, .ok value)
  | ended (key : String) {operation : Operation FieldValue} {events : History}
      {result : Except GqlError FieldValue} (ended : Ended operation caller events result) :
      Resolved caller (some operation) events (key, result)

variable {caller : Caller}

theorem named_of_trace {key : String} {resolver : Call (Except GqlError FieldValue)}
    {events : History} {result : FieldResult}
    (trace : (named key resolver).Trace events (.pure result)) :
    ∃ value, result = (key, value) ∧ resolver.Trace events (.pure value) := by
  rcases Trace.of_bind trace with ⟨early, value, late, rfl, resolves, last⟩
  rcases Trace.of_pure last with ⟨rfl, rfl⟩
  rw [List.append_nil]
  exact ⟨value, rfl, resolves⟩

theorem queryField_of_trace {field : String × QueryField} {events : History}
    {result : FieldResult}
    (trace : (named field.1 (field.2.resolver caller)).Trace events (.pure result)) :
    Resolved caller (field.2.operation? caller) events result := by
  rcases named_of_trace trace with ⟨value, rfl, resolves⟩
  rcases field with ⟨key, field⟩
  cases field with
  | introspection json =>
      rcases Trace.of_pure resolves with ⟨rfl, rfl⟩
      exact .plain key _
  | info =>
      rcases Trace.of_pure resolves with ⟨rfl, rfl⟩
      exact .plain key _
  | sites => exact .ended key (ended_of_trace resolves)
  | vouchers siteId => exact .ended key (ended_of_trace resolves)

theorem mutationField_of_trace {field : String × MutationField} {events : History}
    {result : FieldResult}
    (trace : (named field.1 (field.2.resolver caller)).Trace events (.pure result)) :
    Resolved caller (field.2.operation? caller) events result := by
  rcases named_of_trace trace with ⟨value, rfl, resolves⟩
  rcases field with ⟨key, field⟩
  cases field with
  | introspection json =>
      rcases Trace.of_pure resolves with ⟨rfl, rfl⟩
      exact .plain key _
  | createVouchers siteId input => exact .ended key (ended_of_trace resolves)
  | revokeVoucher siteId voucherId => exact .ended key (ended_of_trace resolves)

/-! ## Queries only read -/

/-- A query sends nothing but reads, issues nothing, measures what it sent, and leaves
no record but the line of a refusal. -/
def querying : Contract Effect Answer where
  permits history
    | .send _ sent => sent.method = .get
    | .audit line => ∃ action reason status, line = .rejected action reason status
    | .recordRequest _ _ _ => False
    | .recordUpstream _ => ∃ slot sent reply,
        (⟨.send slot sent, reply⟩ : Event Effect Answer) ∈ history
    | .recordVouchersCreated _ _ => False
    | _ => True
  permits_mono := by
    intro history later effect within permitted
    cases effect with
    | send slot sent => exact permitted
    | audit line => exact permitted
    | recordRequest token action outcome => exact permitted
    | recordUpstream elapsed =>
        rcases permitted with ⟨slot, sent, reply, member⟩
        exact ⟨slot, sent, reply, within member⟩
    | recordVouchersCreated token count => exact permitted
    | _ => trivial

/-- An operation that creates nothing and forms no other request than a read. -/
def Reads (operation : Operation FieldValue) : Prop :=
  ∃ request, operation.plan = .ok (.call request) ∧
    ∀ upstream sent, request upstream = .ok sent → sent.method = .get

theorem admit_keeps_querying {history : History} {guard : Guard}
    {operation : Operation FieldValue} :
    (caller.admission guard operation).Keeps querying history := by
  unfold Caller.admission
  split
  · trivial
  · apply Obeys.request_bind trivial
    intro granted
    cases granted with
    | true => trivial
    | false =>
        refine Obeys.request_bind ?_ fun _ => trivial
        exact ⟨_, _, _, rfl⟩

/-- An answer that was read was sent for. -/
theorem send_obeys_querying {history : History} {guard : Guard}
    {prepared : Except ProxyError UpstreamRequest}
    (gets : ∀ sent, prepared = .ok sent → sent.method = .get) :
    (guard.send prepared).Obeys querying (fun later read => (∃ body, read = .ok body) →
      ∃ slot sent reply, (⟨.send slot sent, reply⟩ : Event Effect Answer) ∈ later) history := by
  unfold Guard.send
  cases prepared with
  | error why =>
      rintro ⟨body, impossible⟩
      cases impossible
  | ok sent =>
      apply Obeys.request_bind (gets sent rfl)
      intro reply _
      exact ⟨guard.slot, sent, reply, List.mem_append_right _ (List.mem_singleton_self _)⟩

theorem resolve_keeps_querying {history : History} {operation : Operation FieldValue}
    (reads : Reads operation) : (resolve caller operation).Keeps querying history := by
  rcases reads with ⟨request, planned, gets⟩
  apply Obeys.request_bind trivial
  intro guard
  apply admit_keeps_querying.bind
  intro _ result _ _
  cases result with
  | error why => trivial
  | ok admitted =>
      rw [planned]
      apply Obeys.request_bind trivial
      intro up
      apply (send_obeys_querying fun sent => gets guard.value.upstream sent).bind
      intro later read _ sends
      cases read with
      | error why => trivial
      | ok body =>
          apply Obeys.request_bind trivial
          intro now
          apply Obeys.request_bind
          · rcases sends ⟨body, rfl⟩ with ⟨slot, sent, reply, member⟩
            exact ⟨slot, sent, reply, List.mem_append_left _ member⟩
          · exact fun _ => trivial

theorem sites_reads : Reads (GraphQl.sites caller) := by
  refine ⟨_, rfl, ?_⟩
  intro upstream sent formed
  rcases Except.ok.inj formed with rfl
  rfl

theorem vouchers_reads {siteId : String} : Reads (GraphQl.vouchers siteId) := by
  refine ⟨_, rfl, ?_⟩
  intro upstream sent formed
  rcases bind_eq_ok.mp formed with ⟨site, -, made⟩
  rcases Except.ok.inj made with rfl
  rfl

/-! ## Records of a document -/

/-- Nothing is counted, and no line is written but those of refusals. -/
def Unrecorded (events : History) : Prop :=
  counts events = [] ∧ ∀ line ∈ audits events, ∃ action reason status,
    line = .rejected action reason status

theorem unrecorded_nil : Unrecorded [] := ⟨rfl, by simp [audits]⟩

theorem Unrecorded.append {early late : History} (first : Unrecorded early)
    (second : Unrecorded late) : Unrecorded (early ++ late) := by
  refine ⟨?_, ?_⟩
  · rw [counts_append, first.1, second.1]
    rfl
  · intro line member
    rw [audits_append] at member
    exact (List.mem_append.mp member).elim (first.2 line) (second.2 line)

/-- One step that is neither counted nor written down. -/
theorem unrecorded_step {event : Event Effect Answer} (uncounted : counts [event] = [])
    (unwritten : audits [event] = []) : Unrecorded [event] := by
  refine ⟨uncounted, ?_⟩
  rw [unwritten]
  simp

theorem Ran.unrecorded {operation : Operation FieldValue} {guard : Guard} {events : History}
    {result : Except GqlError FieldValue} (ran : Ran operation caller guard events result) :
    Unrecorded events := by
  have admitting : ∀ {events result}, Admitting operation caller guard events result →
      Unrecorded events := by
    intro events result admitting
    cases admitting with
    | refused _ => exact unrecorded_nil
    | limited _ => exact ⟨rfl, by simp [audits]⟩
    | admitted _ => exact unrecorded_step rfl rfl
  have calling : ∀ {plan call read}, Calling guard plan call read → Unrecorded call := by
    intro plan call read calling
    cases calling with
    | unformed _ => exact unrecorded_nil
    | sent _ _ => exact unrecorded_step rfl rfl
  cases ran with
  | barred barred => exact admitting barred
  | unplanned admitted _ => exact admitting admitted
  | failed admitted planned called up =>
      exact (admitting admitted).append ((unrecorded_step rfl rfl).append (calling called))
  | @called events call plan body admitted planned called up now =>
      refine (admitting admitted).append ((unrecorded_step rfl rfl).append ?_)
      refine ((calling called).append ((unrecorded_step rfl rfl).append ?_)).append ?_
      · exact unrecorded_step rfl rfl
      · cases plan.count with
        | none => exact unrecorded_nil
        | some count => exact unrecorded_step rfl rfl

theorem Resolved.unrecorded {operation? : Option (Operation FieldValue)} {events : History}
    {result : FieldResult} (resolved : Resolved caller operation? events result) :
    Unrecorded events := by
  cases resolved with
  | plain => exact unrecorded_nil
  | ended key ended =>
      rcases ended with ⟨ran⟩
      exact (unrecorded_step rfl rfl).append ran.unrecorded

theorem unrecorded_of_querying {events : History} (honoured : querying.Honoured events) :
    Unrecorded events := by
  refine ⟨?_, ?_⟩
  · apply List.filterMap_eq_nil_iff.mpr
    rintro ⟨effect, answer⟩ member
    cases effect with
    | recordRequest token action outcome =>
        rcases honoured.permitted member with ⟨before, forbidden⟩
        exact forbidden.elim
    | _ => rfl
  · intro line written
    rcases List.mem_filterMap.mp written with ⟨⟨effect, answer⟩, member, selected⟩
    cases effect with
    | audit own =>
        rcases Option.some.inj selected with rfl
        rcases honoured.permitted member with ⟨before, rejects⟩
        exact rejects
    | _ => simp at selected

/-! ## Whole documents -/

variable [GraphQlEngine]

/-- The programs of the fields of a query. -/
abbrev queryPrograms (caller : Caller) (fields : List (String × QueryField)) :
    List (Call FieldResult) :=
  fields.map fun field => named field.1 (field.2.resolver caller)

abbrev mutationPrograms (caller : Caller) (fields : List (String × MutationField)) :
    List (Call FieldResult) :=
  fields.map fun field => named field.1 (field.2.resolver caller)

/-- How the execution of a document goes: not at all, its fields side by side, or
one after the other. -/
inductive Executed (turns : List Nat) (caller : Caller) (document : GraphQlRequest) :
    History → GraphQlResponse → Prop
  | unprepared {messages : List String}
      (fails : GraphQlEngine.prepare maxDepth maxComplexity document = .error messages) :
      Executed turns caller document [] ⟨none, messages.map fun message => ⟨message, none⟩⟩
  | query {fields : List (String × QueryField)} {events : History} {response : GraphQlResponse}
      (prepares : GraphQlEngine.prepare maxDepth maxComplexity document = .ok (.query fields))
      (interleaved : (executeQuery turns caller fields).Trace events (.pure response)) :
      Executed turns caller document events response
  | mutation {fields : List (String × MutationField)} {events : History}
      {results : List FieldResult}
      (prepares : GraphQlEngine.prepare maxDepth maxComplexity document = .ok (.mutation fields))
      (sequenced : Sequenced stops (mutationPrograms caller fields) events results) :
      Executed turns caller document events (assemble results)

theorem executed_of_trace {turns : List Nat} {document : GraphQlRequest} {events : History}
    {response : GraphQlResponse}
    (trace : (execute turns caller document).Trace events (.pure response)) :
    Executed turns caller document events response := by
  unfold execute at trace
  cases prepares : GraphQlEngine.prepare maxDepth maxComplexity document with
  | error messages =>
      rw [prepares] at trace
      rcases Trace.of_pure trace with ⟨rfl, rfl⟩
      exact .unprepared prepares
  | ok prepared =>
      rw [prepares] at trace
      cases prepared with
      | query fields => exact .query prepares trace
      | mutation fields =>
          rcases Trace.of_bind trace with ⟨early, results, late, rfl, sequenced, last⟩
          rcases Trace.of_pure last with ⟨rfl, rfl⟩
          rw [List.append_nil]
          exact .mutation prepares (sequenced_of_trace sequenced)

/-- Programs that a query never abandons come to the sum of their balances. -/
theorem executeQuery_balanced {M : Type} [AddCommGroup M] {weight : Event Effect Answer → M}
    {good : Event Effect Answer → Prop} {turns : List Nat} {fields : List (String × QueryField)}
    {balances : List M}
    (balanced : List.Forall₂ (Balances weight good stops) balances (queryPrograms caller fields))
    {events : History} {response : GraphQlResponse}
    (trace : (executeQuery turns caller fields).Trace events (.pure response))
    (goods : ∀ event ∈ events, good event) : total weight events = balances.sum := by
  apply interleave_balanced _ balanced trace goods
  intro balances programs later value balanced finished fine
  unfold settle at finished
  have running : halted programs = false := by
    rw [← Bool.not_eq_true]
    intro halts
    rcases List.any_eq_true.mp halts with ⟨program, member, stopped⟩
    cases program with
    | perform effect next => cases stopped
    | pure value =>
        rcases List.mem_iff_getElem?.mp member with ⟨index, found⟩
        rcases forall₂_set balanced found with ⟨balance, others, own, -⟩
        rw [value?, Option.any_some, (own [] value (.nil _) (by simp)).1] at stopped
        cases stopped
  rw [running] at finished
  rcases Trace.of_bind finished with ⟨early, results, late, rfl, sequenced, last⟩
  rcases Trace.of_pure last with ⟨rfl, -⟩
  rw [List.append_nil] at fine ⊢
  exact (sequenced_of_trace sequenced).balanced balanced fine

theorem executeQuery_keeps {turns : List Nat} {fields : List (String × QueryField)}
    {history : History} : (executeQuery turns caller fields).Keeps querying history := by
  apply Keeps.interleave
  · intro later programs _ keep
    unfold settle
    split
    · trivial
    · exact (Keeps.sequence _ keep).bind fun _ _ _ _ => trivial
  · intro program member
    rcases List.mem_map.mp member with ⟨⟨key, field⟩, _, rfl⟩
    have keeps : (field.resolver caller).Keeps querying history := by
      cases field with
      | introspection value => trivial
      | info => trivial
      | sites => exact resolve_keeps_querying sites_reads
      | vouchers siteId => exact resolve_keeps_querying vouchers_reads
    exact keeps.bind fun _ _ _ _ => trivial

theorem querying_of_trace {turns : List Nat} {fields : List (String × QueryField)}
    {events : History} {rest : Call GraphQlResponse}
    (trace : (executeQuery turns caller fields).Trace events rest) : querying.Honoured events := by
  have keeps : (executeQuery turns caller fields).Keeps querying [] := executeQuery_keeps
  exact (keeps.along trace).2

/-- The execution of a document leaves its records to the handler. -/
theorem Executed.unrecorded {turns : List Nat} {document : GraphQlRequest} {events : History}
    {response : GraphQlResponse} (executed : Executed turns caller document events response) :
    Unrecorded events := by
  cases executed with
  | unprepared fails => exact unrecorded_nil
  | query prepares interleaved => exact unrecorded_of_querying (querying_of_trace interleaved)
  | mutation prepares sequenced =>
      apply sequenced.holds
      · exact unrecorded_nil
      · exact fun _ _ first second => first.append second
      · intro program member own result ended
        rcases List.mem_map.mp member with ⟨field, -, rfl⟩
        exact (mutationField_of_trace ended).unrecorded

end GraphQl

end VoucherProxy
