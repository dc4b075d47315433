import VoucherProxy.Acting
import VoucherProxy.Foundation.Likeness

namespace VoucherProxy

/-! What a request sees of the `Live` it holds: the tokens, the ceilings, and a client
that forms requests for it. What these requests carry, and what the caches and limiters
of the `Live` hold, is not its business: requests that look the same to the handlers do
the same with any two that look the same to them. -/

variable [Crates]

/-- The differences that may go unseen. -/
structure Appearance where
  /-- The token lists that are ever in force. -/
  tokens : ParsedTokens → Prop
  digest : Digest → Digest → Prop
  upstream : Upstream → Upstream → Prop
  sent : UpstreamRequest → UpstreamRequest → Prop
  prepare : ∀ {left right}, upstream left right → ∀ method path body,
    sent (left.prepare method path body) (right.prepare method path body)

namespace Appearance

variable (appearance : Appearance)

structure Guards (left right : Guard) : Prop where
  slot : left.slot = right.slot
  known : appearance.tokens left.value.auth.tokens
  tokens : left.value.auth.tokens = right.value.auth.tokens
  limits : left.value.limits = right.value.limits
  upstream : appearance.upstream left.value.upstream right.value.upstream

def effect : Effect → Effect → Prop
  | .cacheGet slot key, .cacheGet other otherKey =>
      slot = other ∧ appearance.digest key otherKey
  | .cacheInsert slot key position, .cacheInsert other otherKey otherPosition =>
      slot = other ∧ appearance.digest key otherKey ∧ position = otherPosition
  | .send slot request, .send other otherRequest =>
      slot = other ∧ appearance.sent request otherRequest
  | left, right => left = right

def answer : (left right : Effect) → Answer left → Answer right → Prop
  | .live, .live, left, right => appearance.Guards left right
  | _, _, left, right => HEq left right

def likeness : Likeness Effect Answer := ⟨appearance.effect, appearance.answer⟩

/-- The programs do the same and return the same, for all that is to be seen. -/
abbrev Same {α : Type} (program other : Call α) : Prop :=
  program.Matches appearance.likeness (· = ·) other

/-- The effects that do not touch on the differences. -/
def plain : Effect → Bool
  | .live | .cacheGet _ _ | .cacheInsert _ _ _ | .send _ _ => false
  | _ => true

variable {appearance}

theorem answer_eq {left right : Effect} {answer : Answer left} {other : Answer right}
    (notLoad : plain left = true) (same : appearance.answer left right answer other) :
    HEq answer other := by
  cases left <;> cases right <;> first | exact same | cases notLoad

theorem perform {α : Type} {effect : Effect} {rest otherRest : Answer effect → Call α}
    (isPlain : plain effect = true)
    (next : ∀ answer, appearance.Same (rest answer) (otherRest answer)) :
    appearance.Same (Program.request effect >>= rest) (Program.request effect >>= otherRest) := by
  apply Program.Matches.request_bind
  · cases effect <;> first | rfl | cases isPlain
  · intro answer otherAnswer same
    rcases eq_of_heq (answer_eq isPlain same)
    exact next answer

theorem load {α : Type} {rest otherRest : Guard → Call α}
    (next : ∀ guard other, appearance.Guards guard other →
      appearance.Same (rest guard) (otherRest other)) :
    appearance.Same (Call.live >>= rest) (Call.live >>= otherRest) :=
  Program.Matches.request_bind rfl next

theorem same_bind {α β : Type} {program other : Call α} {rest otherRest : α → Call β}
    (first : appearance.Same program other)
    (second : ∀ value, appearance.Same (rest value) (otherRest value)) :
    appearance.Same (program >>= rest) (other >>= otherRest) :=
  first.bind fun left right same => by
    rcases same
    exact second left

/-! ## Operations -/

section Operations

variable {α : Type} {guard other : Guard}

/-- A plan forms likewise requests, or refuses for the same reason. -/
theorem sanctioned_request {operation : Operation α} {caller : Caller} {plan : Plan}
    (sanctioned : operation.Sanctioned caller) (planned : operation.plan = .ok plan)
    {upstream twin : Upstream} (alike : appearance.upstream upstream twin) :
    (∃ why, plan.request upstream = .error why ∧ plan.request twin = .error why) ∨
      ∃ request otherRequest, plan.request upstream = .ok request ∧
        plan.request twin = .ok otherRequest ∧ appearance.sent request otherRequest := by
  rcases sanctioned plan planned with ⟨call, -, -, -, formed⟩
  rw [formed, formed]
  by_cases ids : ∀ id ∈ call.ids, IsId id
  · right
    exact ⟨_, _, UpstreamCall.prepare_eq_ok.mpr ⟨ids, rfl⟩,
      UpstreamCall.prepare_eq_ok.mpr ⟨ids, rfl⟩, appearance.prepare alike _ _ _⟩
  · left
    cases call with
    | listSites => exact absurd (by simp [UpstreamCall.ids]) ids
    | listVouchers site =>
        rcases validateId_cases site "site id" with ⟨id, -⟩ | ⟨-, message, refuses⟩
        · exact absurd (by simp [UpstreamCall.ids, id]) ids
        · exact ⟨.badRequest message, by simp [UpstreamCall.prepare, Upstream.listVouchers,
            refuses, Bind.bind, Except.bind]⟩
    | createVouchers site request =>
        rcases validateId_cases site "site id" with ⟨id, -⟩ | ⟨-, message, refuses⟩
        · exact absurd (by simp [UpstreamCall.ids, id]) ids
        · exact ⟨.badRequest message, by simp [UpstreamCall.prepare, Upstream.createVouchers,
            refuses, Bind.bind, Except.bind]⟩
    | deleteVoucher site voucher =>
        rcases validateId_cases site "site id" with ⟨id, accepts⟩ | ⟨-, message, refuses⟩
        · rcases validateId_cases voucher "voucher id" with ⟨own, -⟩ | ⟨-, message, refuses⟩
          · exact absurd (by simp [UpstreamCall.ids, id, own]) ids
          · exact ⟨.badRequest message, by simp [UpstreamCall.prepare, Upstream.deleteVoucher,
              accepts, refuses, Bind.bind, Except.bind]⟩
        · exact ⟨.badRequest message, by simp [UpstreamCall.prepare, Upstream.deleteVoucher,
            refuses, Bind.bind, Except.bind]⟩

theorem send_same {operation : Operation α} {caller : Caller} {plan : Plan}
    (sanctioned : operation.Sanctioned caller) (planned : operation.plan = .ok plan)
    (guards : appearance.Guards guard other) :
    appearance.Same (guard.send (plan.request guard.value.upstream))
      (other.send (plan.request other.value.upstream)) := by
  rcases sanctioned_request sanctioned planned guards.upstream with
    ⟨why, refused, otherRefused⟩ | ⟨request, otherRequest, formed, otherFormed, alike⟩
  · rw [refused, otherRefused]
    exact rfl
  · rw [formed, otherFormed]
    apply Program.Matches.request_bind
    · exact ⟨guards.slot, alike⟩
    · intro reply otherReply same
      rcases eq_of_heq same
      exact rfl

theorem admission_same (caller : Caller) (operation : Operation α)
    (guards : appearance.Guards guard other) :
    appearance.Same (caller.admission guard operation) (caller.admission other operation) := by
  unfold Caller.admission
  cases caller.permits operation with
  | error why => exact rfl
  | ok done =>
      rcases guard with ⟨slot, value⟩
      rcases other with ⟨otherSlot, otherValue⟩
      rcases (guards.slot : slot = otherSlot) with rfl
      apply perform rfl
      intro granted
      cases granted with
      | true => exact rfl
      | false =>
          apply perform rfl
          intro _
          exact rfl

theorem run_same {operation : Operation α} {caller : Caller}
    (sanctioned : operation.Sanctioned caller) (guards : appearance.Guards guard other) :
    appearance.Same (operation.run caller guard) (operation.run caller other) := by
  apply same_bind (admission_same caller operation guards)
  intro result
  cases result with
  | error why => exact rfl
  | ok done =>
      cases planned : operation.plan with
      | error why => exact rfl
      | ok plan =>
          apply perform rfl
          intro _
          apply same_bind (send_same sanctioned planned guards)
          intro _
          apply perform rfl
          intro _
          exact rfl

theorem finish_same (caller : Caller) (operation : Operation α) (started : Nat)
    (outcome : Outcome α) :
    appearance.Same (finish caller operation started outcome)
      (finish caller operation started outcome) := by
  apply perform rfl
  intro _
  apply perform rfl
  intro _
  split
  · apply perform rfl
    intro _
    apply perform rfl
    intro _
    apply perform rfl
    exact fun _ => rfl
  · apply perform rfl
    intro _
    apply perform rfl
    exact fun _ => rfl

theorem respond_same {caller : Caller} {operation : Operation Json}
    (sanctioned : operation.Sanctioned caller) :
    appearance.Same (Routes.respond caller operation) (Routes.respond caller operation) := by
  have handled : appearance.Same (operation.handle caller) (operation.handle caller) := by
    apply perform rfl
    intro started
    apply load
    intro guard other guards
    apply same_bind (run_same sanctioned guards)
    exact finish_same caller operation started
  apply same_bind handled
  intro _
  exact rfl

theorem resolve_same {caller : Caller} {operation : Operation FieldValue}
    (sanctioned : operation.Sanctioned caller) :
    appearance.Same (GraphQl.resolve caller operation) (GraphQl.resolve caller operation) := by
  apply load
  intro guard other guards
  apply same_bind (admission_same caller operation guards)
  intro result
  cases result with
  | error why => exact rfl
  | ok done =>
      cases planned : operation.plan with
      | error why => exact rfl
      | ok plan =>
          apply perform rfl
          intro _
          apply same_bind (send_same sanctioned planned guards)
          intro body
          cases body with
          | error why => exact rfl
          | ok json =>
              apply perform rfl
              intro _
              apply perform rfl
              intro _
              cases plan.count with
              | none => exact rfl
              | some count =>
                  apply perform rfl
                  exact fun _ => rfl

end Operations

/-! ## Documents -/

theorem named_same {key : String} {resolver other : Call (Except GqlError FieldValue)}
    (same : appearance.Same resolver other) :
    appearance.Same (GraphQl.named key resolver) (GraphQl.named key other) := by
  apply same_bind same
  intro _
  exact rfl

theorem queryField_same (caller : Caller) (field : GraphQl.QueryField) :
    appearance.Same (field.resolver caller) (field.resolver caller) := by
  cases field with
  | introspection value => exact rfl
  | info => exact rfl
  | sites => exact resolve_same (Acting.sites_sanctioned caller)
  | vouchers siteId => exact resolve_same (Acting.vouchers_sanctioned caller siteId)

theorem mutationField_same (caller : Caller) (field : GraphQl.MutationField) :
    appearance.Same (field.resolver caller) (field.resolver caller) := by
  cases field with
  | introspection value => exact rfl
  | createVouchers siteId input =>
      exact resolve_same (Acting.gqlCreateVouchers_sanctioned caller siteId input.input)
  | revokeVoucher siteId voucherId =>
      exact resolve_same (Acting.revokeVoucher_sanctioned caller siteId voucherId)

/-- Field by field. -/
theorem fields_same {γ : Type} {resolver : γ → Call GraphQl.FieldResult}
    (same : ∀ field, appearance.Same (resolver field) (resolver field)) (fields : List γ) :
    List.Forall₂ appearance.Same (fields.map resolver) (fields.map resolver) :=
  List.forall₂_map_left_iff.mpr (List.forall₂_map_right_iff.mpr
    (List.forall₂_same.mpr fun field _ => same field))

section

variable [GraphQlEngine]

theorem sequence_same {programs others : List (Call GraphQl.FieldResult)}
    (all : List.Forall₂ appearance.Same programs others) :
    appearance.Same
      (Program.sequence GraphQl.stops programs >>= fun results =>
        .pure (GraphQl.assemble results))
      (Program.sequence GraphQl.stops others >>= fun results =>
        .pure (GraphQl.assemble results)) := by
  apply (Program.Matches.sequence _ all).bind
  · intro left right same
    rw [List.forall₂_eq_eq_eq] at same
    rw [same]
    exact rfl
  · intro left right same
    rw [same]

omit [GraphQlEngine] in
theorem value?_same {α : Type} {program other : Call α}
    (same : appearance.Same program other) : program.value? = other.value? := by
  rcases same.value? with ⟨none, otherNone⟩ | ⟨left, right, some, otherSome, rfl⟩
  · rw [none, otherNone]
  · rw [some, otherSome]

theorem halted_same {programs others : List (Call GraphQl.FieldResult)}
    (all : List.Forall₂ appearance.Same programs others) :
    GraphQl.halted programs = GraphQl.halted others := by
  unfold GraphQl.halted
  induction all with
  | nil => rfl
  | cons first _ induction => rw [List.any_cons, List.any_cons, induction, value?_same first]

omit [GraphQlEngine] in
theorem values_same {programs others : List (Call GraphQl.FieldResult)}
    (all : List.Forall₂ appearance.Same programs others) :
    programs.filterMap Program.value? = others.filterMap Program.value? := by
  induction all with
  | nil => rfl
  | cons first _ induction => rw [List.filterMap_cons, List.filterMap_cons, induction,
      value?_same first]

theorem settle_same {programs others : List (Call GraphQl.FieldResult)}
    (all : List.Forall₂ appearance.Same programs others) :
    appearance.Same (GraphQl.settle programs) (GraphQl.settle others) := by
  unfold GraphQl.settle
  rw [halted_same all]
  split
  · rw [values_same all]
    exact rfl
  · exact sequence_same all

theorem execute_same (turns : List Nat) (caller : Caller) (request : GraphQlRequest) :
    appearance.Same (GraphQl.execute turns caller request)
      (GraphQl.execute turns caller request) := by
  unfold GraphQl.execute
  split
  · exact rfl
  · apply Program.Matches.interleave
    · exact fun _ _ all => halted_same all
    · exact fun _ _ all => settle_same all
    · exact fields_same (fun field => named_same (queryField_same caller field.2)) _
  · exact sequence_same
      (fields_same (fun field => named_same (mutationField_same caller field.2)) _)

theorem graphqlHandler_same (turns : List Nat) (caller : Caller) (request : GraphQlRequest) :
    appearance.Same (Routes.graphqlHandler turns caller request)
      (Routes.graphqlHandler turns caller request) := by
  apply perform rfl
  intro _
  apply same_bind (execute_same turns caller request)
  intro _
  apply perform rfl
  intro _
  apply perform rfl
  intro _
  apply perform rfl
  intro _
  exact rfl

end

theorem withExtracted_same {α : Type} (extracted : Except Rejection α)
    {handler : α → Call Response}
    (same : ∀ value, appearance.Same (handler value) (handler value)) :
    appearance.Same (Routes.withExtracted extracted handler)
      (Routes.withExtracted extracted handler) := by
  cases extracted with
  | error rejection => exact rfl
  | ok value => exact same value

/-! ## Extraction -/

section

variable [Framework]

/-- Requests that differ in the token they present, and not as far as any token list
in force or any reader of their bodies can tell. -/
structure Counterparts (appearance : Appearance) (request other : HttpRequest) : Prop where
  method : request.method = other.method
  path : request.path = other.path
  peer : request.peer = other.peer
  header : (tokenFromHeaders request.headers = none ∧ tokenFromHeaders other.headers = none) ∨
    ∃ text otherText, tokenFromHeaders request.headers = some text ∧
      tokenFromHeaders other.headers = some otherText ∧ text.isEmpty = otherText.isEmpty ∧
      appearance.digest (Credentials.sha256 text) (Credentials.sha256 otherText) ∧
      ∀ tokens, appearance.tokens tokens →
        Authenticator.scan tokens text = Authenticator.scan tokens otherText
  oversized : ∀ limit, Framework.oversized limit request = Framework.oversized limit other
  jsonBody : ∀ limit, Framework.jsonBody limit request = Framework.jsonBody limit other
  graphQlBody : ∀ limit, Framework.graphQlBody limit request = Framework.graphQlBody limit other

/-- A request is its own counterpart when nothing may differ about what it presents. -/
theorem Counterparts.refl (same : ∀ digest, appearance.digest digest digest)
    (request : HttpRequest) : Counterparts appearance request request where
  method := rfl
  path := rfl
  peer := rfl
  header := by
    cases header : tokenFromHeaders request.headers with
    | none => exact .inl ⟨rfl, rfl⟩
    | some text => exact .inr ⟨text, text, rfl, rfl, rfl, same _, fun _ _ => rfl⟩
  oversized _ := rfl
  jsonBody _ := rfl
  graphQlBody _ := rfl

variable {request other : HttpRequest} {guard twin : Guard}

theorem refuse_same (counterparts : Counterparts appearance request other)
    (token reason : String) (error : ProxyError) :
    appearance.Same (Caller.refuse request token reason error)
      (Caller.refuse other token reason error) := by
  unfold Caller.refuse matchedRoute
  rw [counterparts.path]
  apply perform rfl
  intro _
  apply perform rfl
  intro _
  exact rfl

omit [Framework] in
theorem authenticate_same {text otherText : String} (guards : appearance.Guards guard twin)
    (empty : text.isEmpty = otherText.isEmpty)
    (digest : appearance.digest (Credentials.sha256 text) (Credentials.sha256 otherText))
    (scans : ∀ tokens, appearance.tokens tokens →
      Authenticator.scan tokens text = Authenticator.scan tokens otherText) :
    appearance.Same (guard.authenticate text) (twin.authenticate otherText) := by
  unfold Guard.authenticate
  dsimp only
  rw [← empty, ← guards.tokens, ← scans _ guards.known]
  split
  · exact rfl
  · apply Program.Matches.request_bind
    · exact ⟨guards.slot, digest⟩
    · intro found otherFound same
      rcases eq_of_heq (same : HEq found otherFound)
      cases found with
      | some position => exact rfl
      | none =>
          cases Authenticator.scan guard.value.auth.tokens text with
          | none => exact rfl
          | some position =>
              apply Program.Matches.request_bind
              · exact ⟨guards.slot, digest, rfl⟩
              · intro _ _ _
                exact rfl

theorem unlessExpired_same (counterparts : Counterparts appearance request other)
    (guards : appearance.Guards guard twin) (token : TokenConfig) :
    appearance.Same (Caller.unlessExpired request guard token)
      (Caller.unlessExpired other twin token) := by
  unfold Caller.unlessExpired
  rw [← guards.limits]
  split
  · exact rfl
  · apply perform rfl
    intro now
    split
    · exact refuse_same counterparts _ _ _
    · exact rfl

theorem admitPeer_same (counterparts : Counterparts appearance request other)
    (guards : appearance.Guards guard twin) :
    appearance.Same (Caller.admitPeer request guard) (Caller.admitPeer other twin) := by
  rcases guard with ⟨slot, value⟩
  rcases twin with ⟨otherSlot, otherValue⟩
  rcases (guards.slot : slot = otherSlot) with rfl
  unfold Caller.admitPeer
  rw [← counterparts.peer]
  cases request.peer with
  | none => exact rfl
  | some ip =>
      apply perform rfl
      intro _
      exact rfl

theorem fromRequestParts_same (counterparts : Counterparts appearance request other) :
    appearance.Same (Caller.fromRequestParts request) (Caller.fromRequestParts other) := by
  apply load
  intro guard twin guards
  unfold Caller.fromLive
  apply same_bind (admitPeer_same counterparts guards)
  intro admitted
  cases admitted with
  | false => exact refuse_same counterparts _ _ _
  | true =>
      simp only [if_true]
      rcases counterparts.header with ⟨none, otherNone⟩ |
        ⟨text, otherText, some, otherSome, empty, digest, scans⟩
      · rw [none, otherNone]
        exact refuse_same counterparts _ _ _
      · rw [some, otherSome]
        apply same_bind (authenticate_same guards empty digest scans)
        intro found
        cases found with
        | none => exact refuse_same counterparts _ _ _
        | some token => exact unlessExpired_same counterparts guards token

/-! ## Routes -/

theorem withCaller_same (counterparts : Counterparts appearance request other)
    {handler : Caller → Call Response}
    (same : ∀ caller, appearance.Same (handler caller) (handler caller)) :
    appearance.Same (Routes.withCaller request handler) (Routes.withCaller other handler) := by
  apply same_bind (fromRequestParts_same counterparts)
  intro result
  cases result with
  | error why => exact rfl
  | ok caller => exact same caller

theorem notAllowed_same (counterparts : Counterparts appearance request other) :
    appearance.Same (Routes.notAllowed request) (Routes.notAllowed other) := by
  unfold Routes.notAllowed
  rw [counterparts.path, counterparts.method]
  apply perform rfl
  intro _
  exact rfl

theorem getting_same (counterparts : Counterparts appearance request other)
    {handler otherHandler : Call Response} (same : appearance.Same handler otherHandler) :
    appearance.Same (Routes.getting request handler) (Routes.getting other otherHandler) := by
  unfold Routes.getting
  rw [counterparts.method]
  split
  · exact same
  · exact notAllowed_same counterparts

variable [GraphQlEngine]

theorem dispatch_same (counterparts : Counterparts appearance request other)
    (settings : RouterSettings) (turns : List Nat) :
    appearance.Same (Routes.dispatch settings turns request)
      (Routes.dispatch settings turns other) := by
  have recorded : ∀ (action : String) (response : Caller → Response) (caller : Caller),
      appearance.Same (do
        Call.recordRequest caller.name action "ok"
        return response caller : Call Response) (do
        Call.recordRequest caller.name action "ok"
        return response caller) := by
    intro action response caller
    apply perform rfl
    intro _
    exact rfl
  unfold Routes.dispatch
  rw [counterparts.path, counterparts.method, counterparts.jsonBody, counterparts.graphQlBody]
  cases Route.ofPath other.path with
  | none => exact notAllowed_same counterparts
  | some route =>
      cases route with
      | healthz => exact getting_same counterparts rfl
      | info =>
          exact getting_same counterparts (withCaller_same counterparts
            (recorded "info" fun caller => ⟨.ok, .json (Routes.infoBody caller)⟩))
      | graphqlSdl =>
          exact getting_same counterparts (withCaller_same counterparts
            (recorded "graphql:schema" fun _ => ⟨.ok, .text GraphQlEngine.sdl⟩))
      | graphql =>
          simp only
          split
          · exact withCaller_same counterparts fun caller => withExtracted_same _ fun body =>
              graphqlHandler_same turns caller body
          · split
            · exact getting_same counterparts rfl
            · exact notAllowed_same counterparts
      | sites =>
          exact getting_same counterparts (withCaller_same counterparts fun caller =>
            respond_same (Acting.listSites_sanctioned caller))
      | vouchers site =>
          simp only
          split
          · exact withCaller_same counterparts fun caller => withExtracted_same _ fun site =>
              withExtracted_same _ fun body =>
                respond_same (Acting.createVouchers_sanctioned caller site body)
          · exact getting_same counterparts (withCaller_same counterparts fun caller =>
              withExtracted_same _ fun site =>
                respond_same (Acting.listVouchers_sanctioned caller site))
      | voucher site voucher =>
          simp only
          split
          · exact withCaller_same counterparts fun caller => withExtracted_same _ fun site =>
              withExtracted_same _ fun voucher =>
                respond_same (Acting.deleteVoucher_sanctioned caller site voucher)
          · exact notAllowed_same counterparts

/-- Counterparts are served the same. -/
theorem serve_same (counterparts : Counterparts appearance request other)
    (settings : RouterSettings) (turns : List Nat) :
    appearance.Same (Routes.serve settings turns request)
      (Routes.serve settings turns other) := by
  have limited : appearance.Same (Routes.limited settings turns request)
      (Routes.limited settings turns other) := by
    unfold Routes.limited
    rw [counterparts.oversized]
    split
    · exact rfl
    · exact dispatch_same counterparts settings turns
  unfold Routes.serve
  apply same_bind limited
  intro response
  rw [counterparts.method]
  exact rfl

end

end Appearance

end VoucherProxy
