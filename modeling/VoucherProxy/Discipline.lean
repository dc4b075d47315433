import VoucherProxy.Acting

namespace VoucherProxy

/-! What a request may do after what it has done so far: a contract that every
request keeps, from the extraction of its caller to its last operation. -/

variable [Crates]

/-- How an entry was found for a presented string: by a scan, or at the position
that the cache named. -/
def Found (history : History) (guard : Guard) (presented : String)
    (found : Option TokenConfig) : Prop :=
  found = Authenticator.recognise guard.value.auth.tokens presented ∨
    ∃ position, (⟨.cacheGet guard.slot (Credentials.sha256 presented), some position⟩ :
        Event Effect Answer) ∈ history ∧
      found = Authenticator.entry guard.value.auth.tokens position

/-- The checks behind a caller: the address was admitted, the presented string
belongs to the caller's token, and the token had not lapsed. -/
structure Extracted (request : HttpRequest) (history : History) (guard : Guard)
    (caller : Caller) : Prop where
  loaded : Loaded history guard
  admitted : ∀ ip, request.peer = some ip →
    (⟨.checkIp guard.slot ip, true⟩ : Event Effect Answer) ∈ history
  recognised : ∃ presented, tokenFromHeaders request.headers = some presented ∧
    Found history guard presented (some caller.token)
  unexpired : ∀ expiry, caller.token.expiresAt = some expiry →
    ∃ now : OffsetDateTime, (⟨.nowUtc, now⟩ : Event Effect Answer) ∈ history ∧ now < expiry
  ceilings : caller = Caller.ofToken caller.token guard.value.limits

/-- How extraction ends, and why. -/
inductive Resolved (request : HttpRequest) (history : History) (guard : Guard) :
    Except ProxyError Caller → Prop
  | limited {ip : IpAddr} : request.peer = some ip →
      (⟨.checkIp guard.slot ip, false⟩ : Event Effect Answer) ∈ history →
      Resolved request history guard (.error .rateLimited)
  | anonymous : tokenFromHeaders request.headers = none →
      Resolved request history guard (.error .unauthorized)
  | unknown {presented : String} : tokenFromHeaders request.headers = some presented →
      Found history guard presented none → Resolved request history guard (.error .unauthorized)
  | expired {presented : String} {token : TokenConfig} {expiry now : OffsetDateTime} :
      tokenFromHeaders request.headers = some presented →
      Found history guard presented (some token) → token.expiresAt = some expiry →
      (⟨.nowUtc, now⟩ : Event Effect Answer) ∈ history → expiry ≤ now →
      Resolved request history guard
        (.error (.tokenExpired ((TimeFormat.rfc3339 expiry).getD "an earlier date")))
  | extracted {caller : Caller} : Extracted request history guard caller →
      Resolved request history guard (.ok caller)

/-- The checks behind a request to the controller: its caller was extracted, and
has the rights and the charge for it. -/
def Mediated (request : HttpRequest) (history : History) (slot : Nat)
    (sent : UpstreamRequest) : Prop :=
  ∃ extraction caller call, Extracted request history extraction caller ∧
    Acts caller history slot call sent

namespace Discipline

/-- A cache entry may only be made for a presented string that was just found. -/
def Insertable (presented : Set String) (history : History) (slot : Nat) (key : Digest)
    (position : Nat) : Prop :=
  ∃ guard text, Loaded history guard ∧ guard.slot = slot ∧ text ∈ presented ∧
    text.isEmpty = false ∧ Credentials.sha256 text = key ∧
    Authenticator.scan guard.value.auth.tokens text = some position

def permits (presented : Set String) (request : HttpRequest) (history : History) :
    Effect → Prop
  | .checkIp slot _ => ∃ guard, Loaded history guard ∧ guard.slot = slot
  | .cacheGet slot _ => ∃ guard, Loaded history guard ∧ guard.slot = slot
  | .cacheInsert slot key position => Insertable presented history slot key position
  | .check slot token => (∃ guard, Loaded history guard ∧ guard.slot = slot) ∧
      ∃ extraction caller, Extracted request history extraction caller ∧ caller.token = token
  | .send slot sent => Mediated request history slot sent
  | _ => True

end Discipline

theorem Found.mono {history later : History} {guard : Guard} {presented : String}
    {found : Option TokenConfig} (within : history ⊆ later)
    (held : Found history guard presented found) : Found later guard presented found := by
  rcases held with scanned | ⟨position, cached, entry⟩
  · exact .inl scanned
  · exact .inr ⟨position, within cached, entry⟩

theorem Extracted.mono {request : HttpRequest} {history later : History} {guard : Guard}
    {caller : Caller} (within : history ⊆ later)
    (extracted : Extracted request history guard caller) :
    Extracted request later guard caller where
  loaded := within extracted.loaded
  admitted ip peer := within (extracted.admitted ip peer)
  recognised := by
    rcases extracted.recognised with ⟨presented, header, found⟩
    exact ⟨presented, header, found.mono within⟩
  unexpired expiry expires := by
    rcases extracted.unexpired expiry expires with ⟨now, member, before⟩
    exact ⟨now, within member, before⟩
  ceilings := extracted.ceilings

theorem Mediated.mono {request : HttpRequest} {history later : History} {slot : Nat}
    {sent : UpstreamRequest} (within : history ⊆ later)
    (mediated : Mediated request history slot sent) : Mediated request later slot sent := by
  rcases mediated with ⟨extraction, caller, call, extracted, acts⟩
  exact ⟨extraction, caller, call, extracted.mono within, acts.mono within⟩

def discipline (presented : Set String) (request : HttpRequest) : Contract Effect Answer where
  permits := Discipline.permits presented request
  permits_mono := by
    intro history later effect within permitted
    cases effect with
    | checkIp slot ip =>
        rcases permitted with ⟨guard, loaded, same⟩
        exact ⟨guard, within loaded, same⟩
    | cacheGet slot key =>
        rcases permitted with ⟨guard, loaded, same⟩
        exact ⟨guard, within loaded, same⟩
    | cacheInsert slot key position =>
        rcases permitted with ⟨guard, text, loaded, rest⟩
        exact ⟨guard, text, within loaded, rest⟩
    | check slot token =>
        rcases permitted with ⟨⟨guard, loaded, same⟩, extraction, caller, extracted, rest⟩
        exact ⟨⟨guard, within loaded, same⟩, extraction, caller, extracted.mono within, rest⟩
    | send slot sent => exact Mediated.mono within permitted
    | _ => trivial

/-! ## Extraction -/

namespace Discipline

open Program

variable {presented : Set String} {request : HttpRequest} {history : History}

theorem refuse_obeys {result : History → Except ProxyError Caller → Prop}
    (token reason : String) (error : ProxyError)
    (refused : ∀ later, history ⊆ later → result later (.error error)) :
    (Caller.refuse request token reason error).Obeys (discipline presented request) result
      history := by
  apply Obeys.request_bind trivial
  intro _
  apply Obeys.request_bind trivial
  intro _
  exact refused _ (List.Subset.trans (List.subset_append_left _ _) (List.subset_append_left _ _))

theorem admitPeer_obeys {guard : Guard} (loaded : Loaded history guard) :
    (Caller.admitPeer request guard).Obeys (discipline presented request)
      (fun later admitted =>
        (admitted = true → ∀ ip, request.peer = some ip →
          (⟨.checkIp guard.slot ip, true⟩ : Event Effect Answer) ∈ later) ∧
        (admitted = false → ∃ ip, request.peer = some ip ∧
          (⟨.checkIp guard.slot ip, false⟩ : Event Effect Answer) ∈ later)) history := by
  unfold Caller.admitPeer
  split
  · next absent =>
      refine ⟨?_, fun refused => by cases refused⟩
      intro _ ip peer
      rw [absent] at peer
      cases peer
  · next ip present =>
      apply Obeys.request_bind
      · exact ⟨guard, loaded, rfl⟩
      · intro verdict
        refine ⟨?_, ?_⟩
        · intro admitted other peer
          rw [present, Option.some.injEq] at peer
          subst admitted peer
          exact List.mem_append_right _ (List.mem_singleton_self _)
        · intro refused
          subst refused
          exact ⟨ip, present, List.mem_append_right _ (List.mem_singleton_self _)⟩

/-- Through the cache or not, an entry is found for the presented string, under
any contract that lets its lookup and its insertion happen. -/
theorem authenticate_obeys {contract : Contract Effect Answer} {guard : Guard} {text : String}
    (lookup : contract.permits history (.cacheGet guard.slot (Credentials.sha256 text)))
    (insertion : ∀ later position, history ⊆ later → text.isEmpty = false →
      Authenticator.scan guard.value.auth.tokens text = some position →
      contract.permits later (.cacheInsert guard.slot (Credentials.sha256 text) position)) :
    (guard.authenticate text).Obeys contract
      (fun later found => Found later guard text found) history := by
  unfold Guard.authenticate
  split
  · next empty =>
      exact .inl (by simp [Authenticator.recognise, empty])
  · next nonempty =>
      have nonempty : text.isEmpty = false := by simpa using nonempty
      have entry := Authenticator.scan_bind_entry guard.value.auth.tokens nonempty
      apply Obeys.request_bind lookup
      intro answer
      cases answer with
      | some position =>
          exact .inr ⟨position, List.mem_append_right _ (List.mem_singleton_self _), rfl⟩
      | none =>
          cases scanned : Authenticator.scan guard.value.auth.tokens text with
          | none =>
              rw [scanned] at entry
              exact .inl entry
          | some position =>
              rw [scanned] at entry
              apply Obeys.request_bind
              · exact insertion _ position (List.subset_append_left _ _) nonempty scanned
              · exact fun _ => .inl entry

/-- A lookup and an insertion through a `Live` that was loaded. -/
theorem authenticate_disciplined {guard : Guard} (loaded : Loaded history guard) {text : String}
    (member : text ∈ presented) :
    (guard.authenticate text).Obeys (discipline presented request)
      (fun later found => Found later guard text found) history :=
  authenticate_obeys ⟨guard, loaded, rfl⟩ fun _ _ within nonempty scanned =>
    ⟨guard, text, within loaded, rfl, member, nonempty, rfl, scanned⟩

theorem unlessExpired_obeys {guard : Guard} {token : TokenConfig}
    (loaded : Loaded history guard)
    (admitted : ∀ ip, request.peer = some ip →
      (⟨.checkIp guard.slot ip, true⟩ : Event Effect Answer) ∈ history)
    {text : String} (header : tokenFromHeaders request.headers = some text)
    (found : Found history guard text (some token)) :
    (Caller.unlessExpired request guard token).Obeys (discipline presented request)
      (fun later result => Resolved request later guard result) history := by
  unfold Caller.unlessExpired
  split
  · next never =>
      apply Resolved.extracted
      refine ⟨loaded, admitted, ⟨text, header, found⟩, ?_, rfl⟩
      simp [Caller.ofToken, never]
  · next expiry expires =>
      apply Obeys.request_bind trivial
      intro now
      have recorded : (⟨.nowUtc, now⟩ : Event Effect Answer) ∈ history ++ [⟨.nowUtc, now⟩] :=
        List.mem_append_right _ (List.mem_singleton_self _)
      have found := found.mono (List.subset_append_left history [⟨.nowUtc, now⟩])
      split
      · next lapsed =>
          apply refuse_obeys
          intro later within
          apply Resolved.expired header (found.mono within) expires (within recorded)
          simpa [TokenConfig.isExpiredAt, expires] using lapsed
      · next alive =>
          apply Resolved.extracted
          refine ⟨List.mem_append_left _ loaded,
            fun ip peer => List.mem_append_left _ (admitted ip peer), ⟨text, header, found⟩, ?_, rfl⟩
          intro other same
          simp only [Caller.ofToken, expires, Option.some.injEq] at same
          subst same
          refine ⟨now, recorded, ?_⟩
          simpa [TokenConfig.isExpiredAt, expires] using alive

/-- Extraction ends for one of the known reasons. -/
theorem fromLive_obeys {guard : Guard} (loaded : Loaded history guard)
    (member : ∀ text, tokenFromHeaders request.headers = some text → text ∈ presented) :
    (Caller.fromLive request guard).Obeys (discipline presented request)
      (fun later result => Resolved request later guard result) history := by
  apply (admitPeer_obeys loaded).bind
  intro later verdict within admitted
  cases verdict with
  | false =>
      rcases admitted.2 rfl with ⟨ip, peer, refused⟩
      exact refuse_obeys _ _ _ fun latest within' => .limited peer (within' refused)
  | true =>
      simp only [if_true]
      split
      · next missing => exact refuse_obeys _ _ _ fun _ _ => .anonymous missing
      · next text header =>
          apply (authenticate_disciplined (within loaded) (member text header)).bind
          intro latest answer within' found
          cases answer with
          | none => exact refuse_obeys _ _ _ fun _ last => .unknown header (found.mono last)
          | some token =>
              exact unlessExpired_obeys (within' (within loaded))
                (fun ip peer => within' (admitted.1 rfl ip peer)) header found

end Discipline

/-! ## Every request is guarded -/

/-- What a request may do without a caller: leave a line. -/
def anonymous : Contract Effect Answer where
  permits _ effect := ∃ line, effect = .audit line
  permits_mono _ permitted := permitted

/-- Either no caller is ever extracted, or one is extracted first and everything
after keeps within its rights. -/
def Guarded (request : HttpRequest) (program : Call Response) : Prop :=
  program.Keeps anonymous [] ∨
    ∃ handler, program = Caller.fromRequestParts request >>= handler ∧
      (∀ why, ∃ response, handler (.error why) = .pure response) ∧
      ∀ caller, (handler (.ok caller)).Keeps (acting caller) []

namespace Guarded

open Program

variable {request : HttpRequest}

theorem pure (response : Response) : Guarded request (.pure response) := .inl trivial

theorem notAllowed : Guarded request (Routes.notAllowed request) :=
  .inl (Obeys.request_bind ⟨_, rfl⟩ fun _ => trivial)

theorem getting {handler : Call Response} (guarded : Guarded request handler) :
    Guarded request (Routes.getting request handler) := by
  unfold Routes.getting
  split
  · exact guarded
  · exact notAllowed

theorem withCaller {handler : Caller → Call Response}
    (keeps : ∀ caller, (handler caller).Keeps (acting caller) []) :
    Guarded request (Routes.withCaller request handler) :=
  .inr ⟨_, rfl, fun _ => ⟨_, rfl⟩, keeps⟩

theorem map {program : Call Response} (guarded : Guarded request program)
    (change : Response → Response) :
    Guarded request (program >>= fun response => .pure (change response)) := by
  rcases guarded with keeps | ⟨handler, rfl, refused, keeps⟩
  · exact .inl (keeps.bind fun _ _ _ _ => trivial)
  · refine .inr ⟨fun result => handler result >>= fun response => .pure (change response), ?_, ?_, ?_⟩
    · exact bind_assoc_eq _ _ _
    · intro why
      rcases refused why with ⟨response, same⟩
      exact ⟨change response, by simp [same]⟩
    · exact fun caller => (keeps caller).bind fun _ _ _ _ => trivial

variable [GraphQlEngine] [Framework]

/-- Every route, every method, and everything that matches no route. -/
theorem dispatch (settings : RouterSettings) (turns : List Nat) :
    Guarded request (Routes.dispatch settings turns request) := by
  have recorded : ∀ (action : String) (response : Caller → Response) (caller : Caller), (do
      Call.recordRequest caller.name action "ok"
      return response caller : Call Response).Keeps (acting caller) [] := by
    intro _ _ _
    exact Obeys.request_bind trivial fun _ => trivial
  unfold Routes.dispatch
  split
  · exact notAllowed
  · exact getting (.pure _)
  · exact getting (withCaller (recorded "info" fun caller =>
      ⟨.ok, .json (Routes.infoBody caller)⟩))
  · exact getting (withCaller (recorded "graphql:schema" fun _ =>
      ⟨.ok, .text GraphQlEngine.sdl⟩))
  · split
    · exact withCaller fun caller => Acting.withExtracted_keeps fun document =>
        Acting.graphqlHandler_keeps turns document
    · split
      · exact getting (.pure _)
      · exact notAllowed
  · exact getting (withCaller fun caller =>
      Acting.respond_keeps (Acting.listSites_sanctioned caller))
  · split
    · exact withCaller fun caller => Acting.withExtracted_keeps fun site =>
        Acting.withExtracted_keeps fun body =>
          Acting.respond_keeps (Acting.createVouchers_sanctioned caller site body)
    · exact getting (withCaller fun caller => Acting.withExtracted_keeps fun site =>
        Acting.respond_keeps (Acting.listVouchers_sanctioned caller site))
  · split
    · exact withCaller fun caller => Acting.withExtracted_keeps fun site =>
        Acting.withExtracted_keeps fun voucher =>
          Acting.respond_keeps (Acting.deleteVoucher_sanctioned caller site voucher)
    · exact notAllowed

/-- Every request is guarded. -/
theorem serve (settings : RouterSettings) (turns : List Nat) :
    Guarded request (Routes.serve settings turns request) := by
  have limited : Guarded request (Routes.limited settings turns request) := by
    unfold Routes.limited
    split
    · exact .pure _
    · exact dispatch settings turns
  exact limited.map fun response =>
    if request.method = "HEAD" then { response with content := .empty } else response

end Guarded

/-! ## Every request keeps the discipline -/

namespace Discipline

open Program

variable {presented : Set String} {request : HttpRequest} {history : History}

/-- With a caller that was extracted, keeping within its rights is disciplined. -/
theorem of_acting {α : Type} {program : Call α} {caller : Caller} {extraction : Guard}
    (keeps : program.Keeps (acting caller) [])
    (extracted : Extracted request history extraction caller) :
    program.Keeps (discipline presented request) history := by
  apply (keeps.mono (List.nil_subset history)).relax
  intro later effect within permitted
  cases effect with
  | checkIp slot ip => exact permitted.elim
  | cacheGet slot key => exact permitted.elim
  | cacheInsert slot key position => exact permitted.elim
  | check slot token =>
      rcases permitted with ⟨rfl, loaded⟩
      exact ⟨loaded, extraction, caller, extracted.mono within, rfl⟩
  | send slot sent =>
      rcases permitted with ⟨call, acts⟩
      exact ⟨extraction, caller, call, extracted.mono within, acts⟩
  | _ => trivial

theorem of_guarded {program : Call Response} (guarded : Guarded request program)
    (member : ∀ text, tokenFromHeaders request.headers = some text → text ∈ presented) :
    program.Keeps (discipline presented request) [] := by
  rcases guarded with keeps | ⟨handler, rfl, refused, keeps⟩
  · apply keeps.relax
    rintro later effect - ⟨line, rfl⟩
    trivial
  · apply Obeys.request_bind trivial
    intro guard
    apply (fromLive_obeys (List.mem_append_right _ (List.mem_singleton_self _)) member).bind
    intro later result _ resolved
    cases resolved with
    | extracted extracted => exact of_acting (keeps _) extracted
    | _ =>
        rcases refused _ with ⟨response, same⟩
        rw [same]
        trivial

end Discipline

end VoucherProxy
