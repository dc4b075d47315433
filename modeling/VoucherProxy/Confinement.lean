import VoucherProxy.Exits
import VoucherProxy.Sample
import VoucherProxy.Snapshots

namespace VoucherProxy

/-! Nothing reaches the controller but the four calls: ids that clients choose are
whole path segments of a URL below the configured base. -/

/-! ## Targets -/

/-- What a call is about: the operation, the site and the voucher. -/
inductive Target
  | sites
  | vouchers (site : String)
  | creation (site : String)
  | revocation (site voucher : String)
  deriving DecidableEq, Repr

namespace Target

def method : Target → Method
  | .sites => .get
  | .vouchers _ => .get
  | .creation _ => .post
  | .revocation _ _ => .delete

/-- The segments of the URL below the base. -/
def segments : Target → List String
  | .sites => ["", "sites"]
  | .vouchers site => ["", "sites", site, "hotspot", "vouchers?limit=1000"]
  | .creation site => ["", "sites", site, "hotspot", "vouchers"]
  | .revocation site voucher => ["", "sites", site, "hotspot", "vouchers", voucher]

def ids : Target → List String
  | .sites => []
  | .vouchers site => [site]
  | .creation site => [site]
  | .revocation site voucher => [site, voucher]

/-- The target of a request, read from its method and its URL. -/
def recover (base : String) (method : Method) (url : String) : Option Target :=
  match method, (Text.stripStart url base).map fun path => Text.split path '/' with
  | .get, some ["", "sites"] => some .sites
  | .get, some ["", "sites", site, "hotspot", "vouchers?limit=1000"] => some (.vouchers site)
  | .post, some ["", "sites", site, "hotspot", "vouchers"] => some (.creation site)
  | .delete, some ["", "sites", site, "hotspot", "vouchers", voucher] =>
      some (.revocation site voucher)
  | _, _ => none

end Target

theorem IsId.clean {id : String} (isId : IsId id) {c : Char} (special : isIdCharacter c = false) :
    c ∉ id.toList := by
  intro member
  rw [isId.characters c member] at special
  cases special

/-- An id is no dot segment. -/
theorem IsId.not_dots {id : String} (isId : IsId id) : id ≠ "." ∧ id ≠ ".." := by
  have dot : isIdCharacter '.' = false := by decide
  refine ⟨?_, ?_⟩
  · rintro rfl
    exact isId.clean dot (by decide)
  · rintro rfl
    exact isId.clean dot (by decide)

namespace UpstreamCall

def target : UpstreamCall → Target
  | .listSites => .sites
  | .listVouchers site => .vouchers site
  | .createVouchers site _ => .creation site
  | .deleteVoucher site voucher => .revocation site voucher

theorem ids_target (call : UpstreamCall) : call.target.ids = call.ids := by
  cases call <;> rfl

theorem method_target (call : UpstreamCall) : call.target.method = call.method := by
  cases call <;> rfl

/-- The path of a call is its segments, each after a slash. -/
theorem toList_path (call : UpstreamCall) :
    call.path.toList = ['/'].intercalate (call.target.segments.map String.toList) := by
  cases call with
  | listSites => decide
  | listVouchers site =>
      have limit : toString Upstream.voucherPageLimit = "1000" := by decide
      have spelled : (listVouchers site).path =
          "/sites/" ++ site ++ "/hotspot/vouchers?limit=1000" := by
        simp only [path, limit, String.append_assoc]
        rfl
      rw [spelled]
      simp [target, Target.segments, List.intercalate]
  | createVouchers site request =>
      change ("/sites/" ++ site ++ "/hotspot/vouchers").toList = _
      simp [target, Target.segments, List.intercalate]
  | deleteVoucher site voucher =>
      change ("/sites/" ++ site ++ "/hotspot/vouchers/" ++ voucher).toList = _
      simp [target, Target.segments, List.intercalate]

/-- A segment is an id or one of a few words. -/
theorem mem_segments {call : UpstreamCall} {piece : String}
    (member : piece ∈ call.target.segments) :
    piece ∈ call.ids ∨ piece ∈ ["", "sites", "hotspot", "vouchers", "vouchers?limit=1000"] := by
  cases call <;>
    simp only [target, Target.segments, ids, List.mem_cons, List.not_mem_nil, or_false] at * <;>
    tauto

/-- No id brings a segment of its own. -/
theorem clean_segments {call : UpstreamCall} (valid : ∀ id ∈ call.ids, IsId id) :
    ∀ piece ∈ call.target.segments, '/' ∉ piece.toList := by
  intro piece member
  rcases mem_segments member with isId | word
  · exact (valid piece isId).clean (by decide)
  · have clean : ∀ word ∈ ["", "sites", "hotspot", "vouchers", "vouchers?limit=1000"],
        '/' ∉ word.toList := by
      decide
    exact clean piece word

/-- With ids in it, the path has these segments and no others. -/
theorem split_path {call : UpstreamCall} (valid : ∀ id ∈ call.ids, IsId id) :
    Text.split call.path '/' = call.target.segments := by
  apply Text.split_of_intercalate call.toList_path (clean_segments valid)
  cases call <;> simp [target, Target.segments]

/-- What a request is about can be read from its method and its URL. -/
theorem recover_prepare {upstream : Upstream} {call : UpstreamCall} {sent : UpstreamRequest}
    (prepared : call.prepare upstream = .ok sent) :
    Target.recover upstream.base sent.method sent.url = some call.target := by
  rcases prepare_eq_ok.mp prepared with ⟨valid, rfl⟩
  have path : (Text.stripStart (upstream.base ++ call.path) upstream.base).map
      (fun path => Text.split path '/') = some call.target.segments := by
    rw [Text.stripStart_append, Option.map_some, split_path valid]
  simp only [Upstream.prepare, Target.recover, path]
  cases call <;> rfl

/-- Any other id is refused. -/
theorem prepare_of_not_id (call : UpstreamCall) (upstream : Upstream) {id : String}
    (member : id ∈ call.ids) (notId : ¬IsId id) :
    ∃ message, call.prepare upstream = .error (.badRequest message) := by
  cases call with
  | listSites => cases member
  | listVouchers site =>
      rcases List.mem_singleton.mp member with rfl
      rcases validateId_cases id "site id" with ⟨isId, -⟩ | ⟨-, message, refuses⟩
      · exact absurd isId notId
      · exact ⟨message, by simp [prepare, Upstream.listVouchers, refuses, Bind.bind, Except.bind]⟩
  | createVouchers site request =>
      rcases List.mem_singleton.mp member with rfl
      rcases validateId_cases id "site id" with ⟨isId, -⟩ | ⟨-, message, refuses⟩
      · exact absurd isId notId
      · exact ⟨message, by
          simp [prepare, Upstream.createVouchers, refuses, Bind.bind, Except.bind]⟩
  | deleteVoucher site voucher =>
      rcases validateId_cases site "site id" with ⟨isSite, accepts⟩ | ⟨-, message, refuses⟩
      · rcases validateId_cases voucher "voucher id" with
          ⟨isVoucher, -⟩ | ⟨-, message, refuses⟩
        · have isId : IsId id := by
            rcases List.mem_cons.mp member with rfl | other
            · exact isSite
            · rwa [List.mem_singleton.mp other]
          exact absurd isId notId
        · exact ⟨message, by
            simp [prepare, Upstream.deleteVoucher, accepts, refuses, Bind.bind, Except.bind]⟩
      · exact ⟨message, by
          simp [prepare, Upstream.deleteVoucher, refuses, Bind.bind, Except.bind]⟩

end UpstreamCall

/-! ## The scheme -/

/-- Unless the host is plaintext, the normalised one names https. -/
theorem startsWith_normalizeHost {controller : ControllerConfig}
    (encrypted : controller.isPlaintext = false) :
    Text.startsWith (normalizeHost controller.host) "https://" = true := by
  simp only [normalizeHost]
  split
  · next schemed =>
      rcases Bool.or_eq_true_iff.mp schemed with plain | secure
      · have lower : ("http://".toList.map Char.toLower) = "http://".toList := by decide
        have written := Text.startsWith_toAsciiLowercase lower
          (Text.startsWith_of_trimEndMatches plain)
        rw [ControllerConfig.isPlaintext, written] at encrypted
        cases encrypted
      · exact secure
  · exact Text.startsWith_append _ _

section

variable [Crates]

theorem Upstream.base_of_new {cfg : ControllerConfig} {timeout : Nat} {upstream : Upstream}
    (created : Upstream.new cfg timeout = .ok upstream) :
    upstream.base = normalizeHost cfg.host ++ "/proxy/network/integration/v1" := by
  unfold Upstream.new at created
  rcases bind_eq_ok.mp created with ⟨verifier, -, rest⟩
  rcases bind_eq_ok.mp rest with ⟨⟨⟩, -, last⟩
  rcases Except.ok.inj last with rfl
  rfl

/-- Where the calls of an upstream client may go. -/
structure Confined (cfg : Config) (upstream : Upstream) : Prop where
  /-- A formed call has ids only, and its URL is the base and its segments. -/
  formed : ∀ (call : UpstreamCall) (sent : UpstreamRequest), call.prepare upstream = .ok sent →
    (∀ id ∈ call.ids, IsId id ∧ id ≠ "." ∧ id ≠ "..") ∧ sent.method = call.method ∧
    sent.url = normalizeHost cfg.controller.host ++ "/proxy/network/integration/v1" ++
      call.path ∧
    Text.split call.path '/' = call.target.segments
  /-- Every call with ids only is formed. -/
  accepted : ∀ call : UpstreamCall, (∀ id ∈ call.ids, IsId id) →
    ∃ sent, call.prepare upstream = .ok sent
  recovered : ∀ (call : UpstreamCall) (sent : UpstreamRequest),
    call.prepare upstream = .ok sent →
    Target.recover upstream.base sent.method sent.url = some call.target
  injective : ∀ (left right : UpstreamCall) (sent other : UpstreamRequest),
    left.prepare upstream = .ok sent → right.prepare upstream = .ok other →
    sent.method = other.method → sent.url = other.url → left.target = right.target
  refused : ∀ (call : UpstreamCall) (id : String), id ∈ call.ids → ¬IsId id →
    ∃ message, call.prepare upstream = .error (.badRequest message)
  encrypted : cfg.controller.tls.allowPlaintext = false →
    ∀ (call : UpstreamCall) (sent : UpstreamRequest), call.prepare upstream = .ok sent →
      Text.startsWith sent.url "https://" = true

/-- Unless the host is plaintext, every call goes to https. -/
theorem UpstreamCall.startsWith_of_prepare {cfg : ControllerConfig} {timeout : Nat}
    {upstream : Upstream} (created : Upstream.new cfg timeout = .ok upstream)
    (encrypted : cfg.isPlaintext = false) {call : UpstreamCall} {sent : UpstreamRequest}
    (prepared : call.prepare upstream = .ok sent) :
    Text.startsWith sent.url "https://" = true := by
  rcases UpstreamCall.prepare_eq_ok.mp prepared with ⟨-, rfl⟩
  have scheme := startsWith_normalizeHost encrypted
  rw [Text.startsWith_iff] at scheme ⊢
  change _ <+: (upstream.base ++ call.path).toList
  rw [Upstream.base_of_new created, String.append_assoc, String.toList_append]
  exact scheme.trans (List.prefix_append _ _)

theorem Config.Valid.confines {cfg : Config} (valid : cfg.Valid) {upstream : Upstream}
    (created : Upstream.new cfg.controller cfg.server.upstreamTimeout = .ok upstream) :
    Confined cfg upstream where
  formed := by
    intro call sent prepared
    rcases UpstreamCall.prepare_eq_ok.mp prepared with ⟨ids, rfl⟩
    refine ⟨fun id member => ⟨ids id member, (ids id member).not_dots⟩, rfl, ?_,
      UpstreamCall.split_path ids⟩
    rw [← Upstream.base_of_new created]
    rfl
  accepted := fun call ids => ⟨_, UpstreamCall.prepare_eq_ok.mpr ⟨ids, rfl⟩⟩
  recovered := fun call sent prepared => UpstreamCall.recover_prepare prepared
  injective := by
    intro left right sent other prepared preparedOther method url
    have found := UpstreamCall.recover_prepare prepared
    rw [method, url, UpstreamCall.recover_prepare preparedOther, Option.some.injEq] at found
    exact found.symm
  refused := fun call id member notId => call.prepare_of_not_id upstream member notId
  encrypted := by
    intro noPlaintext call sent prepared
    have notPlaintext : cfg.controller.isPlaintext = false := by
      rw [Bool.eq_false_iff]
      intro plaintext
      rw [valid.encrypted plaintext] at noPlaintext
      cases noPlaintext
    exact UpstreamCall.startsWith_of_prepare created notPlaintext prepared

/-- A handler whose call has an id that is none sends nothing, and once admitted
ends in a bad request. -/
theorem handled_of_not_id {α : Type} {operation : Operation α} {caller : Caller} {plan : Plan}
    {call : UpstreamCall} {id : String} (planned : operation.plan = .ok plan)
    (asCall : ∀ upstream, plan.request upstream = call.prepare upstream) (member : id ∈ call.ids)
    (notId : ¬IsId id) {events : History} {result : Except ProxyError α}
    (handled : Handled operation caller events result) :
    exchanges events = [] ∧ (∃ why, result = .error why) ∧
      ∀ slot, (⟨.check slot caller.token, true⟩ : Event Effect Answer) ∈ events →
        ∃ message, result = .error (.badRequest message) := by
  have unsent : exchanges events = [] ∧ ∃ why, result = .error why := by
    rcases handled.exchanged with nothing | ⟨other, sent, reply, exchanged, -⟩
    · exact nothing
    · rcases exchanged.formed with ⟨guard, formed⟩
      have same := exchanged.planned
      rw [planned, Except.ok.injEq] at same
      rcases call.prepare_of_not_id guard.value.upstream member notId with ⟨message, refused⟩
      rw [← same, asCall, refused] at formed
      cases formed
  refine ⟨unsent.1, unsent.2, fun slot granted => ?_⟩
  cases handled with
  | @intro events outcome guard ran started now =>
      have spent := mem_charges.mpr granted
      rw [charges_whole] at spent
      cases ran with
      | barred barred => cases barred <;> simp [charges] at spent
      | unplanned _ unplanned =>
          rw [planned] at unplanned
          cases unplanned
      | called _ other calling =>
          rw [planned, Except.ok.injEq] at other
          subst other
          rcases call.prepare_of_not_id guard.value.upstream member notId with
            ⟨message, refused⟩
          rw [← asCall] at refused
          cases calling with
          | unformed why =>
              rw [refused, Except.error.injEq] at why
              subst why
              exact ⟨message, rfl⟩
          | sent formed _ =>
              rw [refused] at formed
              cases formed

theorem GraphQl.ended_of_not_id {operation : Operation FieldValue} {caller : Caller}
    {plan : Plan} {call : UpstreamCall} {id : String} (planned : operation.plan = .ok plan)
    (asCall : ∀ upstream, plan.request upstream = call.prepare upstream) (member : id ∈ call.ids)
    (notId : ¬IsId id) {events : History} {result : Except GqlError FieldValue}
    (ended : GraphQl.Ended operation caller events result) :
    exchanges events = [] ∧ ∃ why, result = .error (toGql why) := by
  rcases ended.exchanged with nothing | ⟨other, sent, reply, exchanged, -⟩
  · exact nothing
  · rcases exchanged.formed with ⟨guard, formed⟩
    have same := exchanged.planned
    rw [planned, Except.ok.injEq] at same
    rcases call.prepare_of_not_id guard.value.upstream member notId with ⟨message, refused⟩
    rw [← same, asCall, refused] at formed
    cases formed

/-! ## Whole runs -/

/-- What is accepted while the proxy runs was loaded. -/
theorem Reload.load_of_accepted {path : Option String} {found : Reload} {cfg : Config}
    (accepted : found.accepted path = some cfg) :
    Config.load path found.file found.environment = .ok cfg := by
  unfold Reload.accepted at accepted
  cases path with
  | none => cases accepted
  | some path =>
      simp only at accepted
      split at accepted
      · cases accepted
      · next config loaded =>
          split at accepted
          · rw [← Option.some.inj accepted]
            exact loaded
          · cases accepted

/-- Whatever is in force is valid, if the first configuration is. -/
theorem valid_inForce (path : Option String) {cfg : Config} (valid : cfg.Valid) (log : Log) :
    (inForce path cfg log).Valid := by
  unfold inForce
  cases last : (acceptedIn path log).getLast? with
  | none => exact valid
  | some config =>
      rcases List.mem_filterMap.mp (List.mem_of_getLast? last) with ⟨found, -, accepted⟩
      exact (Config.load_eq_ok.mp (Reload.load_of_accepted accepted)).2.2

namespace Step

variable [Framework] [GraphQlEngine]

/-- Whatever a request sends was formed by a confined client of a valid
configuration. -/
theorem sent_confined (settings : RouterSettings) {cfg : Config} (valid : cfg.Valid)
    {path : Option String} {state : AppState} (started : AppState.withPath cfg path = .ok state)
    {steps : List Step} {index : Nat} {schedule : List Nat} {request : HttpRequest}
    (arrived : (requests steps)[index]? = some (schedule, request)) {slot : Nat}
    {sent : UpstreamRequest} {reply : Reply}
    (sends : (⟨.send slot sent, reply⟩ : Event Effect Answer) ∈
      history settings state steps index) :
    ∃ (config : Config) (upstream : Upstream) (call : UpstreamCall),
      (∃ log, config = inForce path cfg log) ∧ config.Valid ∧
      Upstream.new config.controller config.server.upstreamTimeout = .ok upstream ∧
      Confined config upstream ∧ call.prepare upstream = .ok sent := by
  rcases List.append_of_mem sends with ⟨before, after, split⟩
  have mediated : Mediated request before slot sent :=
    run_disciplined settings state arrived before _ after split
  rcases mediated with ⟨extraction, caller, call, -, acts⟩
  rcases acts.prepared with ⟨guard, loaded, -, prepared⟩
  have inHistory : Loaded (history settings state steps index) guard := by
    rw [Loaded, split]
    exact List.mem_append_left _ loaded
  rcases place_of_loaded inHistory with ⟨early, late, place⟩
  have snapshots := Snapshots.run started (steps.map (turn settings))
  rcases snapshots.loaded_built place with ⟨-, live, built, same⟩
  have created := (Live.build_eq_ok.mp built).2.1
  have inForceValid := valid_inForce path valid early
  rw [same.upstream] at prepared
  exact ⟨_, live.upstream, call, ⟨early, rfl⟩, inForceValid, created,
    inForceValid.confines created, prepared⟩

/-- Upstream confinement: of the configuration, of every run, and of every
handler that is given an id that is none. -/
theorem confined (settings : RouterSettings) {path file : Option String}
    {environment : Config.Environment} {cfg : Config}
    (loaded : Config.load path file environment = .ok cfg) {state : AppState}
    (started : AppState.withPath cfg path = .ok state) :
    (∃ upstream, Upstream.new cfg.controller cfg.server.upstreamTimeout = .ok upstream ∧
      Confined cfg upstream) ∧
    (∀ (steps : List Step) (index : Nat) (schedule : List Nat) (request : HttpRequest),
      (requests steps)[index]? = some (schedule, request) →
      ∀ (slot : Nat) (sent : UpstreamRequest) (reply : Reply),
        (⟨.send slot sent, reply⟩ : Event Effect Answer) ∈
          history settings state steps index →
        ∃ (config : Config) (upstream : Upstream) (call : UpstreamCall),
          (∃ log, config = inForce path cfg log) ∧ config.Valid ∧
          Upstream.new config.controller config.server.upstreamTimeout = .ok upstream ∧
          Confined config upstream ∧ call.prepare upstream = .ok sent) ∧
    (∀ (operation : Operation Json) (caller : Caller) (plan : Plan) (call : UpstreamCall)
      (id : String), operation.plan = .ok plan →
      (∀ upstream, plan.request upstream = call.prepare upstream) → id ∈ call.ids → ¬IsId id →
      ∀ events result, (operation.handle caller).Trace events (.pure result) →
        exchanges events = [] ∧ (∃ why, result = .error why) ∧
        ∀ slot, (⟨.check slot caller.token, true⟩ : Event Effect Answer) ∈ events →
          ∃ message, result = .error (.badRequest message)) ∧
    ∀ (operation : Operation FieldValue) (caller : Caller) (plan : Plan) (call : UpstreamCall)
      (id : String), operation.plan = .ok plan →
      (∀ upstream, plan.request upstream = call.prepare upstream) → id ∈ call.ids → ¬IsId id →
      ∀ events result, (GraphQl.resolve caller operation).Trace events (.pure result) →
        exchanges events = [] ∧ ∃ why, result = .error (toGql why) := by
  have valid := (Config.load_eq_ok.mp loaded).2.2
  refine ⟨?_, ?_, ?_, ?_⟩
  · rcases AppState.withPath_eq_ok started with ⟨live, built, -⟩
    have created := (Live.build_eq_ok.mp built).2.1
    exact ⟨live.upstream, created, valid.confines created⟩
  · exact fun steps index schedule request arrived slot sent reply sends =>
      sent_confined settings valid started arrived sends
  · exact fun operation caller plan call id planned asCall member notId events result trace =>
      handled_of_not_id planned asCall member notId (handled_of_trace trace)
  · exact fun operation caller plan call id planned asCall member notId events result trace =>
      GraphQl.ended_of_not_id planned asCall member notId (GraphQl.ended_of_trace trace)

end Step

end

open Sample in
/-- The first list that the controller is asked for goes where it may. -/
theorem Step.confined_fetched :
    ∃ upstream, Upstream.new cfg.controller cfg.server.upstreamTimeout = .ok upstream ∧
      Confined cfg upstream := by
  have loaded : Config.load (some "config.toml") (some cfgFile) [] = .ok cfg :=
    Config.load_eq_ok.mpr ⟨fun _ => rfl, if_pos rfl, Config.validate_eq_ok.mp rfl⟩
  exact (Step.confined settings loaded started).1

end VoucherProxy
