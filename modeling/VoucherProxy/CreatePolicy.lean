import VoucherProxy.Exits
import VoucherProxy.Surfaces

namespace VoucherProxy

/-! A create is forwarded in canonical form and within every ceiling: nothing is
clamped, dropped or smuggled. -/

namespace CreateVoucherRequest

theorem lookup_of_mem {members : List (String × Json)} (distinct : (members.map Prod.fst).Nodup)
    {key : String} {value : Json} (member : (key, value) ∈ members) :
    members.lookup key = some value := by
  induction members with
  | nil => cases member
  | cons head rest induction =>
      rcases head with ⟨present, held⟩
      rw [List.map_cons, List.nodup_cons] at distinct
      rw [lookup_cons_ite]
      rcases List.mem_cons.mp member with same | later
      · rcases Prod.mk.inj same with ⟨rfl, rfl⟩
        exact if_pos rfl
      · have different : key ≠ present := by
          rintro rfl
          exact distinct.1 (List.mem_map.mpr ⟨_, later, rfl⟩)
        rw [if_neg different]
        exact induction distinct.2 later

theorem mem_keys_of_lookup {members : List (String × Json)} {key : String} {value : Json}
    (found : members.lookup key = some value) : key ∈ members.map Prod.fst := by
  rcases List.lookup_eq_some_iff.mp found with ⟨before, after, rfl, _⟩
  simp

/-- What the client gave and is not `null` is written, with the same value. -/
theorem written_of_given {client : List (String × Json)} {request : CreateVoucherRequest}
    (encodes : Encodes client request) {key : String} {value : Json}
    (given : (key, value) ∈ client) (notNull : value ≠ .null) :
    request.members.lookup key = some value := by
  rcases encodes.known key (List.mem_map_of_mem given) with ⟨field, rfl⟩
  have isValue := encodes.eq_value (lookup_of_mem encodes.distinct given)
  rw [lookup_members, ← isValue, if_neg]
  simpa using notNull

/-- What is written was given by the client, or is one of the two defaults. -/
theorem given_of_written {client : List (String × Json)} {request : CreateVoucherRequest}
    (encodes : Encodes client request) {key : String} {value : Json}
    (written : request.members.lookup key = some value) :
    client.lookup key = some value ∨
      client.lookup key = none ∧ (key = "count" ∨ key = "authorizedGuestLimit") ∧
        value = .number (.posInt 1) := by
  rcases request.encodes_members.known key (mem_keys_of_lookup written) with ⟨field, rfl⟩
  have isValue := request.encodes_members.eq_value written
  cases given : client.lookup field.key with
  | some found =>
      rw [encodes.eq_value given, ← isValue]
      exact .inl rfl
  | none =>
      have default := encodes.values field
      rw [given, Option.none_or, ← isValue] at default
      have notNull : value ≠ .null := by
        rintro rfl
        rw [lookup_members, ← isValue] at written
        cases written
      refine .inr ⟨rfl, ?_⟩
      cases field with
      | count => exact ⟨.inl rfl, (Option.some.inj default).symm⟩
      | authorizedGuestLimit => exact ⟨.inr rfl, (Option.some.inj default).symm⟩
      | name => cases default
      | timeLimitMinutes => cases default
      | dataUsageLimitMBytes => exact absurd (Option.some.inj default).symm notNull
      | rxRateLimitKbps => exact absurd (Option.some.inj default).symm notNull
      | txRateLimitKbps => exact absurd (Option.some.inj default).symm notNull

end CreateVoucherRequest

section

variable [Crates]

/-- How the members sent for a create relate to the client's body and to the
ceilings of its token. -/
structure Canonical (token : TokenConfig) (limits : Limits) (body : Json)
    (members : List (String × Json)) (request : CreateVoucherRequest) : Prop where
  parsed : CreateVoucherRequest.parse body = .ok request
  written : request.toUpstreamBody = .ok (.object members)
  again : CreateVoucherRequest.parse (.object members) = .ok request
  distinct : (members.map Prod.fst).Nodup
  known : ∀ key ∈ members.map Prod.fst,
    key ∈ CreateVoucherRequest.Field.all.map CreateVoucherRequest.Field.key
  count : 1 ≤ request.count ∧ request.count ≤ limits.maxVouchersPerRequest ∧
    ∀ own, token.maxVouchersPerRequest = some own → request.count ≤ own
  validity : 1 ≤ request.timeLimitMinutes ∧ request.timeLimitMinutes ≤ 1000000 ∧
    request.timeLimitMinutes ≤ limits.maxValidityMinutes ∧
    ∀ own, token.maxValidityMinutes = some own → request.timeLimitMinutes ≤ own
  guests : 1 ≤ request.authorizedGuestLimit ∧ request.authorizedGuestLimit ≤ 10000
  kept : ∀ client, body = .object client → ∀ key value, (key, value) ∈ client →
    value ≠ .null → members.lookup key = some value
  added : ∀ client, body = .object client → ∀ key value, members.lookup key = some value →
    client.lookup key = some value ∨ client.lookup key = none ∧
      (key = "count" ∨ key = "authorizedGuestLimit") ∧ value = .number (.posInt 1)

theorem parse_eq_ok {body : Json} {request : CreateVoucherRequest} :
    CreateVoucherRequest.parse body = .ok request ↔
      CreateVoucherRequest.fromValue body = .ok request := by
  unfold CreateVoucherRequest.parse
  cases CreateVoucherRequest.fromValue body <;> simp

theorem encodes_of_parse {client : List (String × Json)} {request : CreateVoucherRequest}
    (parsed : CreateVoucherRequest.parse (.object client) = .ok request) :
    CreateVoucherRequest.Encodes client request :=
  CreateVoucherRequest.fromMembers_eq_ok.mp (parse_eq_ok.mp parsed)

/-- What passes the policy of a token is written in canonical form. -/
theorem canonical_of_enforced {token : TokenConfig} {limits : Limits} {body : Json}
    {request : CreateVoucherRequest} (parsed : CreateVoucherRequest.parse body = .ok request)
    (enforced : request.enforce (Caller.ofToken token limits).ceilings = .ok ()) :
    Canonical token limits body request.members request := by
  rcases CreateVoucherRequest.enforce_eq_ok.mp enforced with
    ⟨-, -, ⟨someCount, count⟩, ⟨someTime, time⟩, someGuests, guests⟩
  have counts := (TokenConfig.effectiveMaxVouchers_le_iff token limits _).mp count
  rw [UInt64.le_iff_toNat_le, TokenConfig.toNat_min_uint64, Nat.le_min,
    ← UInt64.le_iff_toNat_le, ← UInt64.le_iff_toNat_le] at time
  have times := (TokenConfig.effectiveMaxValidity_le_iff token limits _).mp time.1
  have positive32 : ∀ {n : UInt32}, n ≠ 0 → 1 ≤ n := by
    intro n nonzero
    rw [UInt32.le_iff_toNat_le]
    exact Nat.pos_of_ne_zero fun zero => nonzero (UInt32.toNat_inj.mp zero)
  have positive64 : 1 ≤ request.timeLimitMinutes := by
    rw [UInt64.le_iff_toNat_le]
    exact Nat.pos_of_ne_zero fun zero => someTime (UInt64.toNat_inj.mp zero)
  exact
    { parsed := parsed
      written := rfl
      again := parse_eq_ok.mpr request.fromMembers_members
      distinct := request.encodes_members.distinct
      known := by
        intro key member
        rcases request.encodes_members.known key member with ⟨field, rfl⟩
        exact List.mem_map_of_mem (by cases field <;> decide)
      count := ⟨positive32 someCount, counts.2, counts.1⟩
      validity := ⟨positive64, time.2, times.2, times.1⟩
      guests := ⟨positive32 someGuests, guests⟩
      kept := by
        rintro client rfl key value given notNull
        exact CreateVoucherRequest.written_of_given (encodes_of_parse parsed) given notNull
      added := by
        rintro client rfl key value written
        exact CreateVoucherRequest.given_of_written (encodes_of_parse parsed) written }

/-- Whatever body a create sends, however far the handler got: it is the
canonical form of what the client sent, within every ceiling. -/
theorem Routes.createVouchers_canonical {token : TokenConfig} {limits : Limits}
    {site : String} {body : Json} {events : History} {rest : Call (Except ProxyError Json)}
    (trace : ((Routes.createVouchers (Caller.ofToken token limits) site body).handle
      (Caller.ofToken token limits)).Trace events rest)
    {slot : Nat} {sent : UpstreamRequest} {reply : Reply}
    (sends : (⟨.send slot sent, reply⟩ : Event Effect Answer) ∈ events) :
    ∃ members request, sent.method = .post ∧ sent.body = some (.object members) ∧
      Canonical token limits body members request := by
  rcases exists_handled trace with ⟨later, result, -, handled⟩
  have member := mem_exchanges (List.mem_append_left later sends)
  rcases handled.exchanged with ⟨nothing, -⟩ | ⟨plan, own, answer, exchanged, one, -⟩
  · rw [nothing] at member
    cases member
  · rw [one, List.mem_singleton, Prod.mk.injEq] at member
    rcases member with ⟨rfl, rfl⟩
    rcases Plan.create_eq_ok exchanged.planned with ⟨request, parsed, enforced, -, prepared⟩
    rcases exchanged.formed with ⟨guard, formed⟩
    rw [prepared] at formed
    rcases UpstreamCall.prepare_eq_ok.mp formed with ⟨-, rfl⟩
    exact ⟨request.members, request, rfl, rfl, canonical_of_enforced parsed enforced⟩

end

open Sample Surfaces in
/-- What the handler does with a create for one guest. -/
def guestEvents : History :=
  (alone ((Routes.createVouchers receptionCaller "main" (.object guestMembers)).handle
    receptionCaller) (fun _ => outside) state).events

open Sample Surfaces in
theorem Routes.createVouchers_canonical_guest :
    ∃ (sent : UpstreamRequest) (members : List (String × Json)) (request : CreateVoucherRequest),
      sent.url =
        "https://unifi.local/proxy/network/integration/v1/sites/main/hotspot/vouchers" ∧
      sent.body = some (.object members) ∧
      Canonical reception cfg.limits (.object guestMembers) members request := by
  have found : guestEvents[4]?.bind sent? = some (0, .post,
      "https://unifi.local/proxy/network/integration/v1/sites/main/hotspot/vouchers") := by
    decide +kernel
  rcases sent?_eq_some found with ⟨sent, reply, isEvent, -, url⟩
  have trace := Program.complete_trace (fun effect state => AppState.exec state effect outside)
    ((Routes.createVouchers receptionCaller "main" (.object guestMembers)).handle
      receptionCaller) state
  rcases Routes.createVouchers_canonical trace (List.mem_of_getElem? isEvent) with
    ⟨members, request, -, body, canonical⟩
  exact ⟨sent, members, request, url, body, canonical⟩

end VoucherProxy
