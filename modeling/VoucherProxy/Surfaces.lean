import VoucherProxy.Foundation.Alike
import VoucherProxy.Sample

namespace VoucherProxy

/-! The GraphQL surface has exactly the reach of REST: with equal parameters both
take the same decision. -/

/-! ## Equal parameters -/

open CreateVoucherRequest in
/-- The body of a create has the values of an input object, and leaves a default
out where the input does. -/
structure SameFields (members : List (String × Json)) (arguments : CreateVoucherArguments) :
    Prop where
  distinct : (members.map Prod.fst).Nodup
  known : ∀ key ∈ members.map Prod.fst, ∃ field : Field, key = field.key
  name : members.lookup "name" = some (.string arguments.name)
  count : members.lookup "count" = arguments.count.map Codec.u32.encode
  timeLimitMinutes :
    members.lookup "timeLimitMinutes" = some (Codec.u64.encode arguments.timeLimitMinutes)
  authorizedGuestLimit :
    members.lookup "authorizedGuestLimit" =
      arguments.authorizedGuestLimit.map Codec.u32.encode
  dataUsageLimitMBytes :
    (members.lookup "dataUsageLimitMBytes").getD .null =
      Codec.optionU64.encode arguments.dataUsageLimitMBytes
  rxRateLimitKbps :
    (members.lookup "rxRateLimitKbps").getD .null =
      Codec.optionU64.encode arguments.rxRateLimitKbps
  txRateLimitKbps :
    (members.lookup "txRateLimitKbps").getD .null =
      Codec.optionU64.encode arguments.txRateLimitKbps

open CreateVoucherRequest in
theorem SameFields.encodes {members : List (String × Json)} {arguments : CreateVoucherArguments}
    (same : SameFields members arguments) : Encodes members arguments.input.into where
  distinct := same.distinct
  known := same.known
  values := by
    have optional : ∀ (found : Option Json) (value : Option UInt64),
        found.getD .null = Codec.optionU64.encode value →
        found.or (some .null) = some (Codec.optionU64.encode value) := by
      intro found value held
      rw [← held]
      cases found <;> rfl
    have defaulted : ∀ own : Option UInt32,
        (own.map Codec.u32.encode).or (some (Codec.u32.encode one)) =
          some (Codec.u32.encode (own.getD 1)) := by
      intro own
      cases own <;> rfl
    intro field
    cases field with
    | name => exact congrArg (Option.or · none) same.name
    | count => exact (congrArg (Option.or · _) same.count).trans (defaulted _)
    | timeLimitMinutes => exact congrArg (Option.or · none) same.timeLimitMinutes
    | authorizedGuestLimit =>
        exact (congrArg (Option.or · _) same.authorizedGuestLimit).trans (defaulted _)
    | dataUsageLimitMBytes => exact optional _ _ same.dataUsageLimitMBytes
    | rxRateLimitKbps => exact optional _ _ same.rxRateLimitKbps
    | txRateLimitKbps => exact optional _ _ same.txRateLimitKbps

/-- A body with the values of an input object: an object of its members, or all
values in the order of the fields. -/
inductive SameBody (arguments : CreateVoucherArguments) : Json → Prop
  | members {members : List (String × Json)} (fields : SameFields members arguments) :
      SameBody arguments (.object members)
  | items : SameBody arguments
      (.array (CreateVoucherRequest.Field.all.map arguments.input.into.value))

theorem SameBody.fromValue {arguments : CreateVoucherArguments} {body : Json}
    (same : SameBody arguments body) :
    CreateVoucherRequest.fromValue body = .ok arguments.input.into := by
  cases same with
  | members fields => exact CreateVoucherRequest.fromMembers_eq_ok.mpr fields.encodes
  | items => exact CreateVoucherRequest.fromItems_values _

section

variable [Crates]

/-- The two forms of each operation, with equal parameters. -/
inductive SameOperation (caller : Caller) : Operation Json → Operation FieldValue → Prop
  | sites : SameOperation caller (Routes.listSites caller) (GraphQl.sites caller)
  | vouchers (site : String) :
      SameOperation caller (Routes.listVouchers site) (GraphQl.vouchers site)
  | create (site : String) {body : Json} {arguments : CreateVoucherArguments}
      (same : SameBody arguments body) :
      SameOperation caller (Routes.createVouchers caller site body)
        (GraphQl.createVouchers caller site arguments.input)
  | revoke (site voucher : String) :
      SameOperation caller (Routes.deleteVoucher site voucher)
        (GraphQl.revokeVoucher site voucher)

/-- They need the same scope and site, and are planned the same way. -/
theorem SameOperation.parts {caller : Caller} {rest : Operation Json}
    {graphql : Operation FieldValue} (same : SameOperation caller rest graphql) :
    rest.scope = graphql.scope ∧ rest.site = graphql.site ∧ rest.plan = graphql.plan := by
  cases same with
  | sites => exact ⟨rfl, rfl, rfl⟩
  | vouchers site => exact ⟨rfl, rfl, rfl⟩
  | revoke site voucher => exact ⟨rfl, rfl, rfl⟩
  | @create site body arguments same =>
      refine ⟨rfl, rfl, ?_⟩
      have parsed : CreateVoucherRequest.parse body = .ok arguments.input.into := by
        rw [CreateVoucherRequest.parse, same.fromValue]
      exact congrArg (Plan.create caller site) parsed

/-! ## The same decision -/

/-- Both succeed, or both show the client the same failure: its kind, its status
and its message. -/
def Agree : Except ProxyError Json → Except GqlError FieldValue → Prop
  | .ok _, .ok _ => True
  | .error why, .error shown =>
      shown.extensions = some (why.kind, (Response.ofError why).status.code) ∧
        (Response.ofError why).content =
          .json (.object [("message", .string shown.message)])
  | _, _ => False

omit [Crates] in
theorem agree_toGql (why : ProxyError) : Agree (.error why) (.error (toGql why)) := by
  refine ⟨rfl, ?_⟩
  cases why <;> rfl

/-- Effects that touch neither the `Live` values nor the controller. -/
def silent : Effect → Bool
  | .nowUtc => true
  | .instant => true
  | .audit _ => true
  | .recordRequest _ _ _ => true
  | .recordUpstream _ => true
  | .recordVouchersCreated _ _ => true
  | _ => false

namespace Surfaces

open Program

variable {caller : Caller} {rest : Operation Json} {graphql : Operation FieldValue}

theorem permits_eq (same : SameOperation caller rest graphql) :
    caller.permits rest = caller.permits graphql := by
  rcases same.parts with ⟨scope, site, -⟩
  rw [Caller.permits, Caller.permits, scope, site]

theorem admit_alike (same : SameOperation caller rest graphql) (guard : Guard) :
    Alike silent (· = ·) (caller.admission guard rest) (caller.admission guard graphql) := by
  unfold Caller.admission
  rw [permits_eq same]
  cases caller.permits graphql with
  | error why => exact .pure rfl
  | ok permitted =>
      apply Alike.both
      intro granted
      cases granted with
      | true => exact .pure rfl
      | false => exact .left rfl fun _ => .right rfl fun _ => .pure rfl

/-- Recording how an operation ended changes nothing about it. -/
theorem finish_alike {started : Nat} {outcome : Outcome Json}
    {answer : Except GqlError FieldValue} (agree : Agree outcome.result answer) :
    Alike silent Agree (finish caller rest started outcome) (.pure answer) := by
  apply Alike.left rfl
  intro _
  apply Alike.left rfl
  intro _
  split
  · apply Alike.left rfl
    intro _
    apply Alike.left rfl
    intro _
    exact .left rfl fun _ => .pure agree
  · apply Alike.left rfl
    intro _
    exact .left rfl fun _ => .pure agree

theorem run_alike (same : SameOperation caller rest graphql) (guard : Guard) :
    Alike silent (fun outcome answer => Agree outcome.result answer)
      (rest.run caller guard) (GraphQl.run graphql caller guard) := by
  apply (admit_alike same guard).bind
  rintro result _ rfl
  cases result with
  | error why => exact .pure (agree_toGql why)
  | ok admitted =>
      simp only [same.parts.2.2]
      cases graphql.plan with
      | error why => exact .pure (agree_toGql why)
      | ok plan =>
          apply Alike.left rfl
          intro up
          apply Alike.right rfl
          intro otherUp
          apply (Alike.refl (guard.send (plan.request guard.value.upstream))).bind
          rintro body _ rfl
          apply Alike.left rfl
          intro now
          cases body with
          | error why => exact .pure (agree_toGql why)
          | ok json =>
              apply Alike.right rfl
              intro _
              apply Alike.right rfl
              intro _
              have succeeded : Agree (.ok (rest.view json)) (.ok (graphql.view json)) := trivial
              cases plan.count with
              | none => exact .pure succeeded
              | some count => exact .right rfl fun _ => .pure succeeded

/-- A resolver does visibly what the handler of the same operation does. -/
theorem handle_alike_resolve (same : SameOperation caller rest graphql) :
    Alike silent Agree (rest.handle caller) (GraphQl.resolve caller graphql) := by
  apply Alike.left rfl
  intro started
  apply Alike.both
  intro guard
  change Alike silent Agree _ (GraphQl.run graphql caller guard)
  rw [← bind_pure_eq (GraphQl.run graphql caller guard)]
  exact (run_alike same guard).bind fun outcome answer agree => finish_alike agree

theorem exec_silent (state : AppState) {effect : Effect} (isSilent : silent effect = true)
    (outside : Outside) : (state.exec effect outside).2.SameLives state := by
  cases effect with
  | live => cases isSilent
  | checkIp slot ip => cases isSilent
  | cacheGet slot key => cases isSilent
  | cacheInsert slot key position => cases isSilent
  | check slot token => cases isSilent
  | send slot sent => cases isSilent
  | _ => exact ⟨rfl, rfl, rfl⟩

/-- What was sent to the controller. -/
def sends (events : History) : List UpstreamRequest :=
  events.filterMap fun event => match event.effect with
    | .send _ sent => some sent
    | _ => none

theorem sends_visible (events : History) : sends (visible silent events) = sends events := by
  induction events with
  | nil => rfl
  | cons event events induction =>
      rcases event with ⟨effect, answer⟩
      cases effect <;> simpa [sends, visible, silent] using induction

/-- A call run alone to its end; `world` says what each effect finds outside. -/
def alone {α : Type} (call : Call α) (world : Effect → Outside) (state : AppState) :
    Completed Effect Answer AppState α :=
  call.complete (fun effect state => state.exec effect (world effect)) state

/-- Both surfaces take the same decision: they send the same to the controller,
leave the same limiters, and succeed or fail alike. -/
theorem same_decision (same : SameOperation caller rest graphql) (world : Effect → Outside)
    (state : AppState) :
    sends (alone (rest.handle caller) world state).events =
        sends (alone (GraphQl.resolve caller graphql) world state).events ∧
      (alone (rest.handle caller) world state).state.SameLives
        (alone (GraphQl.resolve caller graphql) world state).state ∧
      Agree (alone (rest.handle caller) world state).value
        (alone (GraphQl.resolve caller graphql) world state).value := by
  have silentLeft : ∀ (effect : Effect) (state twin : AppState), silent effect = true →
      state.SameLives twin → (state.exec effect (world effect)).2.SameLives twin := by
    intro effect state twin isSilent same
    exact (exec_silent state isSilent (world effect)).trans same
  have silentRight : ∀ (effect : Effect) (state twin : AppState), silent effect = true →
      state.SameLives twin → state.SameLives (twin.exec effect (world effect)).2 := by
    intro effect state twin isSilent same
    exact same.trans (exec_silent twin isSilent (world effect)).symm
  have simulated := (handle_alike_resolve same).complete silentLeft silentRight
    (fun effect state twin same => same.exec effect (world effect))
    (AppState.SameLives.refl state)
  refine ⟨?_, simulated.2.2, simulated.2.1⟩
  calc sends (alone (rest.handle caller) world state).events
      = sends (visible silent (alone (rest.handle caller) world state).events) :=
        (sends_visible _).symm
    _ = sends (visible silent (alone (GraphQl.resolve caller graphql) world state).events) :=
        congrArg sends simulated.1
    _ = sends (alone (GraphQl.resolve caller graphql) world state).events := sends_visible _

end Surfaces

end

/-! A create for one guest, with both defaults left out. -/

def guestMembers : List (String × Json) :=
  [("name", .string "guest"), ("timeLimitMinutes", .number (.posInt 60))]

def guestArguments : CreateVoucherArguments where
  name := "guest"
  count := none
  timeLimitMinutes := 60
  authorizedGuestLimit := none
  dataUsageLimitMBytes := none
  rxRateLimitKbps := none
  txRateLimitKbps := none

theorem sameFields_guest : SameFields guestMembers guestArguments where
  distinct := by decide
  known := by
    intro key member
    rcases List.mem_cons.mp member with rfl | member
    · exact ⟨.name, rfl⟩
    · rw [List.mem_singleton.mp member]
      exact ⟨.timeLimitMinutes, rfl⟩
  name := rfl
  count := rfl
  timeLimitMinutes := rfl
  authorizedGuestLimit := rfl
  dataUsageLimitMBytes := rfl
  rxRateLimitKbps := rfl
  txRateLimitKbps := rfl

open Sample in
def receptionCaller : Caller := Caller.ofToken reception cfg.limits

open Sample in
/-- Both surfaces send one request, and it is the same one. -/
theorem Surfaces.same_decision_guest :
    ((sends (alone ((Routes.createVouchers receptionCaller "main" (.object guestMembers)).handle
        receptionCaller) (fun _ => outside) state).events).map (·.url) =
      ["https://unifi.local/proxy/network/integration/v1/sites/main/hotspot/vouchers"]) ∧
    sends (alone ((Routes.createVouchers receptionCaller "main" (.object guestMembers)).handle
        receptionCaller) (fun _ => outside) state).events =
      sends (alone (GraphQl.resolve receptionCaller
        (GraphQl.createVouchers receptionCaller "main" guestArguments.input)) (fun _ => outside)
        state).events := by
  refine ⟨by decide +kernel, ?_⟩
  exact (same_decision (.create "main" (.members sameFields_guest)) (fun _ => outside) state).1

end VoucherProxy
