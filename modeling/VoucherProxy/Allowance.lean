import VoucherProxy.Foundation.Budget
import VoucherProxy.Sample

namespace VoucherProxy

/-! What one request can cost the proxy: how many steps it takes at most, and how
often it can turn to the controller, to the limiters and to the log. -/

section

variable [Crates]

/-- The effects, apart from what they are about. -/
inductive EffectKind
  | live
  | checkIp
  | cacheGet
  | cacheInsert
  | check
  | send
  | nowUtc
  | instant
  | audit
  | recordRequest
  | recordUpstream
  | recordVouchersCreated
  deriving DecidableEq

def Effect.kind : Effect → EffectKind
  | .live => .live
  | .checkIp _ _ => .checkIp
  | .cacheGet _ _ => .cacheGet
  | .cacheInsert _ _ _ => .cacheInsert
  | .check _ _ => .check
  | .send _ _ => .send
  | .nowUtc => .nowUtc
  | .instant => .instant
  | .audit _ => .audit
  | .recordRequest _ _ _ => .recordRequest
  | .recordUpstream _ => .recordUpstream
  | .recordVouchersCreated _ _ => .recordVouchersCreated

/-! ## How many operations a request runs -/

namespace GraphQl

def QueryField.operations : QueryField → Nat
  | .introspection _ => 0
  | .info => 0
  | .sites => 1
  | .vouchers _ => 1

def MutationField.operations : MutationField → Nat
  | .introspection _ => 0
  | .createVouchers _ _ => 1
  | .revokeVoucher _ _ => 1

namespace Document

def fields : Document → Nat
  | .query fields => fields.length
  | .mutation fields => fields.length

def operations : Document → Nat
  | .query fields => (fields.map fun field => field.2.operations).sum
  | .mutation fields => (fields.map fun field => field.2.operations).sum

end Document

end GraphQl

section

variable [Framework] [GraphQlEngine]

def GraphQl.operations (request : GraphQlRequest) : Nat :=
  match GraphQlEngine.prepare maxDepth maxComplexity request with
  | .error _ => 0
  | .ok document => document.operations

/-- The operations behind a request: one on each of the four REST routes, and as many
as its document has fields for on the GraphQL route. -/
def Routes.operations (settings : RouterSettings) (request : HttpRequest) : Nat :=
  match Route.ofPath request.path with
  | some .graphql =>
      match Framework.graphQlBody settings.maxBodyBytes request with
      | .error _ => 0
      | .ok body => GraphQl.operations body
  | some .sites => 1
  | some (.vouchers _) => 1
  | some (.voucher _ _) => 1
  | _ => 0

end

/-! ## The allowance -/

namespace Allowance

open Program

/-- Within this many effects of each kind. -/
abbrev Costs {α : Type} (bound : Multiset EffectKind) (program : Call α) : Prop :=
  program.Within (kindOf Effect.kind) bound

/-- To resolve a caller. -/
def entry : Multiset EffectKind := {.live, .checkIp, .cacheGet, .cacheInsert, .nowUtc}

/-- To run an operation on either surface. -/
def operation : Multiset EffectKind :=
  {.live, .check, .audit, .instant, .send, .instant, .recordUpstream, .recordVouchersCreated}

/-- To leave a record. -/
def record : Multiset EffectKind := {.instant, .recordRequest, .instant, .audit}

def ofOperations (operations : Nat) : Multiset EffectKind :=
  entry + (operations • operation + record)

omit [Crates] in
theorem card_ofOperations (operations : Nat) :
    (ofOperations operations).card = 9 + 8 * operations := by
  have parts : entry.card = 5 ∧ operation.card = 8 ∧ record.card = 4 := by decide
  simp only [ofOperations, Multiset.card_add, Multiset.card_nsmul, parts]
  omega

section Operations

variable {α : Type} (operation : Operation α) (caller : Caller) (guard : Guard)

theorem admission_costs : Costs {.check, .audit} (caller.admission guard operation) := by
  unfold Caller.admission
  split
  · trivial
  · apply Within.perform
    intro granted
    cases granted with
    | true => trivial
    | false =>
        apply Within.perform
        intro _
        trivial

theorem send_costs (prepared : Except ProxyError UpstreamRequest) :
    Costs {.send} (guard.send prepared) := by
  cases prepared with
  | error why => trivial
  | ok request =>
      apply Within.perform
      intro _
      trivial

theorem finish_costs (started : Nat) (outcome : Outcome α) :
    Costs {.recordRequest, .recordUpstream, .recordVouchersCreated, .instant, .audit}
      (finish caller operation started outcome) := by
  have ending : Costs {.instant, .audit} (do
      let now ← Call.instant
      let record : AuditRecord :=
        { token := caller.name
          action := operation.action
          site := operation.site
          target := operation.target
          count := outcome.count
          status := (resultTag outcome.result).1
          outcome := (resultTag outcome.result).2
          elapsed := now - started }
      Call.audit record.line
      return outcome.result) := by
    apply Within.perform
    intro _
    apply Within.perform
    intro _
    trivial
  apply Within.perform
  intro _
  apply Within.perform
  intro _
  split
  · apply Within.perform
    exact fun _ => ending
  · exact ending.mono (Multiset.le_cons_self _ _)

theorem run_costs :
    Costs {.check, .audit, .instant, .send, .instant} (operation.run caller guard) := by
  have parts : ({.check, .audit} + (.instant ::ₘ ({.send} + {.instant})) :
      Multiset EffectKind) ≤ {.check, .audit, .instant, .send, .instant} := by decide
  apply Within.mono _ parts
  apply (admission_costs operation caller guard).bind
  intro result
  cases result with
  | error why => trivial
  | ok done =>
      cases operation.plan with
      | error why => trivial
      | ok plan =>
          apply Within.perform
          intro _
          apply (send_costs guard _).bind
          intro _
          apply Within.perform
          intro _
          trivial

/-- A REST operation, with its record. -/
theorem respond_costs (operation : Operation Json) :
    Costs (1 • Allowance.operation + record) (Routes.respond caller operation) := by
  have parts : (.instant ::ₘ .live ::ₘ ({.check, .audit, .instant, .send, .instant} +
      {.recordRequest, .recordUpstream, .recordVouchersCreated, .instant, .audit}) :
        Multiset EffectKind) ≤ 1 • Allowance.operation + record := by decide
  apply Within.map
  apply Within.mono _ parts
  apply Within.perform
  intro started
  apply Within.perform
  intro guard
  exact (run_costs operation caller guard).bind fun outcome =>
    finish_costs operation caller started outcome

/-- A resolver. -/
theorem resolve_costs (operation : Operation FieldValue) :
    Costs Allowance.operation (GraphQl.resolve caller operation) := by
  have parts : (.live ::ₘ ({.check, .audit} + (.instant ::ₘ ({.send} +
      {.instant, .recordUpstream, .recordVouchersCreated}))) : Multiset EffectKind) ≤
        Allowance.operation := by decide
  apply Within.mono _ parts
  apply Within.perform
  intro guard
  apply (admission_costs operation caller guard).bind
  intro result
  cases result with
  | error why => trivial
  | ok done =>
      cases operation.plan with
      | error why => trivial
      | ok plan =>
          apply Within.perform
          intro _
          apply (send_costs guard _).bind
          intro body
          cases body with
          | error why => trivial
          | ok json =>
              apply Within.perform
              intro _
              apply Within.perform
              intro _
              cases plan.count with
              | none => trivial
              | some count =>
                  apply Within.perform
                  intro _
                  trivial

end Operations

/-! ### Documents -/

omit [Crates] in
theorem sum_nsmul_operation {γ : Type} (own : γ → Nat) (fields : List γ) :
    (fields.map fun field => own field • operation).sum = (fields.map own).sum • operation := by
  induction fields with
  | nil => rfl
  | cons field fields induction =>
      rw [List.map_cons, List.sum_cons, induction, ← add_nsmul, List.map_cons, List.sum_cons]

theorem queryField_costs (caller : Caller) (field : String × GraphQl.QueryField) :
    Costs (field.2.operations • operation)
      (GraphQl.named field.1 (field.2.resolver caller)) := by
  apply Within.map
  rcases field with ⟨key, field⟩
  cases field with
  | introspection value => trivial
  | info => trivial
  | sites => exact (resolve_costs caller _).mono (one_nsmul _).ge
  | vouchers siteId => exact (resolve_costs caller _).mono (one_nsmul _).ge

theorem mutationField_costs (caller : Caller) (field : String × GraphQl.MutationField) :
    Costs (field.2.operations • operation)
      (GraphQl.named field.1 (field.2.resolver caller)) := by
  apply Within.map
  rcases field with ⟨key, field⟩
  cases field with
  | introspection value => trivial
  | createVouchers siteId input => exact (resolve_costs caller _).mono (one_nsmul _).ge
  | revokeVoucher siteId voucherId => exact (resolve_costs caller _).mono (one_nsmul _).ge

section

variable [GraphQlEngine]

/-- However the fields are interleaved. -/
theorem execute_costs (turns : List Nat) (caller : Caller) (request : GraphQlRequest) :
    Costs (GraphQl.operations request • operation) (GraphQl.execute turns caller request) := by
  unfold GraphQl.execute GraphQl.operations
  cases GraphQlEngine.prepare GraphQl.maxDepth GraphQl.maxComplexity request with
  | error messages => trivial
  | ok document =>
      cases document with
      | query fields =>
          simp only [GraphQl.Document.operations]
          rw [← sum_nsmul_operation]
          apply Shares.interleave
          · intro bounds programs shares
            unfold GraphQl.settle
            split
            · trivial
            · exact (shares.sequence _).map
          · exact Shares.of_map (queryField_costs caller) fields
      | mutation fields =>
          simp only [GraphQl.Document.operations]
          rw [← sum_nsmul_operation]
          apply Within.map
          exact (Shares.of_map (mutationField_costs caller) fields).sequence _

theorem graphqlHandler_costs (turns : List Nat) (caller : Caller) (request : GraphQlRequest) :
    Costs (GraphQl.operations request • operation + record)
      (Routes.graphqlHandler turns caller request) := by
  have parts : (.instant ::ₘ (GraphQl.operations request • operation +
      {.recordRequest, .instant, .audit}) : Multiset EffectKind) =
        GraphQl.operations request • operation + record := by
    rw [← Multiset.add_cons]
    rfl
  rw [← parts]
  apply Within.perform
  intro _
  apply (execute_costs turns caller request).bind
  intro _
  apply Within.perform
  intro _
  apply Within.perform
  intro _
  apply Within.perform
  intro _
  trivial

end

/-! ### Extraction -/

theorem admitPeer_costs (request : HttpRequest) (guard : Guard) :
    Costs {.checkIp} (Caller.admitPeer request guard) := by
  unfold Caller.admitPeer
  split
  · trivial
  · apply Within.perform
    intro _
    trivial

theorem authenticate_costs (guard : Guard) (presented : String) :
    Costs {.cacheGet, .cacheInsert} (guard.authenticate presented) := by
  unfold Guard.authenticate
  split
  · trivial
  · apply Within.perform
    intro answer
    cases answer with
    | some position => trivial
    | none =>
        cases Authenticator.scan guard.value.auth.tokens presented with
        | none => trivial
        | some position =>
            apply Within.perform
            intro _
            trivial

section Extraction

variable {request : HttpRequest} {bound : Multiset EffectKind}
  {handler : Except ProxyError Caller → Call Response}

/-- A refused request has no handler to run, so the room for the record of one is there
for that of the other. -/
theorem refuse_costs (room : {.audit, .recordRequest} ≤ bound)
    (ends : ∀ why, ∃ response, handler (.error why) = .pure response)
    (token reason : String) (error : ProxyError) :
    Costs bound (Caller.refuse request token reason error >>= handler) := by
  apply Within.mono _ room
  apply Within.perform
  intro _
  apply Within.perform
  intro _
  rcases ends error with ⟨response, ended⟩
  rw [ended]
  trivial

theorem unlessExpired_costs (room : {.audit, .recordRequest} ≤ bound)
    (ends : ∀ why, ∃ response, handler (.error why) = .pure response)
    (handled : ∀ caller, Costs bound (handler (.ok caller))) (guard : Guard)
    (token : TokenConfig) :
    Costs ({.nowUtc} + bound) (Caller.unlessExpired request guard token >>= handler) := by
  unfold Caller.unlessExpired
  split
  · exact (handled _).mono le_add_self
  · rw [bind_assoc_eq]
    apply Within.perform
    intro now
    split
    · exact refuse_costs room ends _ _ _
    · exact handled _

theorem fromRequestParts_costs (room : {.audit, .recordRequest} ≤ bound)
    (ends : ∀ why, ∃ response, handler (.error why) = .pure response)
    (handled : ∀ caller, Costs bound (handler (.ok caller))) :
    Costs (entry + bound) (Caller.fromRequestParts request >>= handler) := by
  have parts : entry = {.live} + ({.checkIp} + ({.cacheGet, .cacheInsert} + {.nowUtc})) := by
    decide
  rw [parts, add_assoc, add_assoc, add_assoc]
  apply Within.perform
  intro guard
  change Costs _ (Caller.fromLive request guard >>= handler)
  unfold Caller.fromLive
  rw [bind_assoc_eq]
  apply (admitPeer_costs request guard).bind
  intro verdict
  cases verdict with
  | false =>
      apply Within.mono (refuse_costs room ends _ _ _)
      rw [← add_assoc]
      exact le_add_self
  | true =>
      simp only [if_true]
      split
      · apply Within.mono (refuse_costs room ends _ _ _)
        rw [← add_assoc]
        exact le_add_self
      · next presented _ =>
          rw [bind_assoc_eq]
          apply (authenticate_costs guard presented).bind
          intro found
          cases found with
          | none => exact (refuse_costs room ends _ _ _).mono le_add_self
          | some token => exact unlessExpired_costs room ends handled guard token

end Extraction

theorem withCaller_costs {request : HttpRequest} {bound : Multiset EffectKind}
    {handler : Caller → Call Response} (room : {.audit, .recordRequest} ≤ bound)
    (handled : ∀ caller, Costs bound (handler caller)) :
    Costs (entry + bound) (Routes.withCaller request handler) :=
  fromRequestParts_costs room (fun _ => ⟨_, rfl⟩) handled

/-! ### Routes -/

theorem withExtracted_costs {α : Type} {bound : Multiset EffectKind}
    {extracted : Except Rejection α} {handler : α → Call Response}
    (handled : ∀ value, extracted = .ok value → Costs bound (handler value)) :
    Costs bound (Routes.withExtracted extracted handler) := by
  cases extracted with
  | error rejection => trivial
  | ok value => exact handled value rfl

omit [Crates] in
theorem audit_le_ofOperations (operations : Nat) : {.audit} ≤ ofOperations operations := by
  have inRecord : ({.audit} : Multiset EffectKind) ≤ record := by decide
  exact (inRecord.trans le_add_self).trans le_add_self

omit [Crates] in
theorem refusal_le (operations : Nat) :
    {.audit, .recordRequest} ≤ operations • operation + record := by
  have inRecord : ({.audit, .recordRequest} : Multiset EffectKind) ≤ record := by decide
  exact inRecord.trans le_add_self

theorem notAllowed_costs (request : HttpRequest) (operations : Nat) :
    Costs (ofOperations operations) (Routes.notAllowed request) := by
  apply Within.mono _ (audit_le_ofOperations operations)
  apply Within.perform
  intro _
  trivial

theorem getting_costs {request : HttpRequest} {handler : Call Response} {operations : Nat}
    (handled : Costs (ofOperations operations) handler) :
    Costs (ofOperations operations) (Routes.getting request handler) := by
  unfold Routes.getting
  split
  · exact handled
  · exact notAllowed_costs request operations

variable [Framework] [GraphQlEngine]

theorem dispatch_costs (settings : RouterSettings) (turns : List Nat) (request : HttpRequest) :
    Costs (ofOperations (Routes.operations settings request))
      (Routes.dispatch settings turns request) := by
  have recorded : ∀ (action : String) (response : Caller → Response) (caller : Caller),
      Costs (0 • operation + record) (do
        Call.recordRequest caller.name action "ok"
        return response caller : Call Response) := by
    intro action response caller
    have room : ({.recordRequest} : Multiset EffectKind) ≤ 0 • operation + record := by decide
    apply Within.mono _ room
    apply Within.perform
    intro _
    trivial
  unfold Routes.dispatch Routes.operations
  cases Route.ofPath request.path with
  | none => exact notAllowed_costs request 0
  | some route =>
      cases route with
      | healthz => exact getting_costs trivial
      | info =>
          exact getting_costs (withCaller_costs (refusal_le 0) (recorded "info" fun caller =>
            ⟨.ok, .json (Routes.infoBody caller)⟩))
      | graphqlSdl =>
          exact getting_costs (withCaller_costs (refusal_le 0)
            (recorded "graphql:schema" fun _ => ⟨.ok, .text GraphQlEngine.sdl⟩))
      | graphql =>
          by_cases posted : request.method = "POST"
          · simp only [posted, if_true]
            apply withCaller_costs (refusal_le _)
            intro caller
            apply withExtracted_costs
            intro body extracted
            rw [extracted]
            exact graphqlHandler_costs turns caller body
          · simp only [posted, if_false]
            by_cases playground : settings.graphqlPlayground
            · simp only [playground, if_true]
              exact getting_costs trivial
            · simp only [playground]
              exact notAllowed_costs request _
      | sites =>
          exact getting_costs (withCaller_costs (refusal_le 1) fun caller =>
            respond_costs caller _)
      | vouchers site =>
          simp only
          split
          · apply withCaller_costs (refusal_le 1)
            intro caller
            apply withExtracted_costs
            intro site _
            apply withExtracted_costs
            intro body _
            exact respond_costs caller _
          · apply getting_costs
            apply withCaller_costs (refusal_le 1)
            intro caller
            apply withExtracted_costs
            intro site _
            exact respond_costs caller _
      | voucher site voucher =>
          simp only
          split
          · apply withCaller_costs (refusal_le 1)
            intro caller
            apply withExtracted_costs
            intro site _
            apply withExtracted_costs
            intro voucher _
            exact respond_costs caller _
          · exact notAllowed_costs request 1

/-- Every request is within the allowance of the operations behind it. -/
theorem serve_costs (settings : RouterSettings) (turns : List Nat) (request : HttpRequest) :
    Costs (ofOperations (Routes.operations settings request))
      (Routes.serve settings turns request) := by
  apply Within.map
  unfold Routes.limited
  split
  · trivial
  · exact dispatch_costs settings turns request

end Allowance

/-! ## Whole runs -/

namespace Step

variable [Framework] [GraphQlEngine]

/-- How often one request is given a step. -/
def advances (index : Nat) (steps : List Step) : Nat :=
  steps.countP fun
    | .advance own _ => own = index
    | _ => false

theorem turnsOf_map (settings : RouterSettings) (index : Nat) (steps : List Step) :
    Pool.turnsOf index (steps.map (turn settings)) = advances index steps := by
  rw [Pool.turnsOf, List.countP_map]
  apply List.countP_congr
  intro step _
  cases step <;> exact Iff.rfl

/-- A request that is given its steps is answered, whatever the other requests, the
reloads and the controller do meanwhile. -/
theorem answered_of_advances (settings : RouterSettings) (state : AppState)
    (early late : List Step) (schedule : List Nat) (request : HttpRequest)
    (enough : 9 + 8 * Routes.operations settings request ≤
      advances (requests early).length late) :
    ∃ response, answer? settings state (early ++ .arrive schedule request :: late)
      (requests early).length = some response := by
  let arrival : System := Pool.turn server (run settings state early)
    (turn settings (.arrive schedule request))
  have split : run settings state (early ++ .arrive schedule request :: late) =
      Pool.run server arrival (late.map (turn settings)) := by
    rw [run, List.map_append, Pool.run_append, List.map_cons, Pool.run_cons]
    rfl
  have count : (run settings state early).threads.length = (requests early).length := by
    have started := congrArg List.length
      (Pool.run_started server (Pool.start state) (early.map (turn settings)))
    rw [filterMap_spawned?, List.length_append, List.length_map, List.length_map,
      List.length_map] at started
    exact started.trans (Nat.zero_add _)
  have present : arrival.threads[(requests early).length]? = some
      ⟨Routes.serve settings schedule request, Routes.serve settings schedule request⟩ := by
    rw [← count]
    exact List.getElem?_concat_length
  have idle : Pool.eventsOf (requests early).length arrival.log = [] :=
    (Pool.run_follows state (early.map (turn settings))).2 _ count.le
  have arrived : (requests (early ++ .arrive schedule request :: late))[(requests early).length]? =
      some (schedule, request) := by
    simp [requests]
  rcases events_trace settings state arrived with ⟨left, trace⟩
  rcases Pool.run_moved server present (late.map (turn settings)) with ⟨rest, found, moved⟩
  rw [← split] at found moved
  have finished : ∃ value, rest = .pure value := by
    rcases moved with finished | counted
    · exact finished
    · rw [idle, turnsOf_map] at counted
      have follows := (Pool.run_follows state
        ((early ++ .arrive schedule request :: late).map (turn settings))).1 _ _ found
      have bound := Allowance.card_ofOperations (Routes.operations settings request)
      apply (Allowance.serve_costs settings schedule request).returned follows
      · exact fun effect => ⟨(state.exec effect ⟨0, 0, .answered .ok none⟩).1⟩
      · rw [bound]
        change _ ≤ (Pool.eventsOf (requests early).length
          (run settings state (early ++ .arrive schedule request :: late)).log).length
        rw [counted, List.length_nil]
        omega
  rcases finished with ⟨response, rfl⟩
  exact ⟨response, by rw [answer?, found]; rfl⟩

end Step

end

open Sample in
/-- Two fields under aliases: the document is answered within 25 steps. -/
theorem Step.answered_of_advances_aliased :
    ∃ response, Step.answer? settings state
      ([] ++ .arrive [1, 0] (request "POST" "/graphql" receptionKey aliasedBody) ::
        List.replicate 25 (.advance 0 outside)) 0 = some response :=
  Step.answered_of_advances settings state [] (List.replicate 25 (.advance 0 outside)) [1, 0]
    (request "POST" "/graphql" receptionKey aliasedBody) (by decide +kernel)

end VoucherProxy
