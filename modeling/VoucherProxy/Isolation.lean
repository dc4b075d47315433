import VoucherProxy.Appearance
import VoucherProxy.Foundation.Peers
import VoucherProxy.Sweeping
import VoucherProxy.Windows

namespace VoucherProxy

/-! What clients have to do with each other: nothing. The requests of a client that has
its addresses, its tokens and the budgets of these to itself do the same, and get the
same answers, whatever the others ask for and whenever. -/

section

variable [Crates]

/-! ## A request keeps to what is its own -/

/-- A request is counted against its own address and looked up under what it presents. -/
def personal (request : HttpRequest) : Contract Effect Answer where
  permits _
    | .checkIp _ ip => request.peer = some ip
    | .cacheGet _ key => ∃ text, tokenFromHeaders request.headers = some text ∧
        key = Credentials.sha256 text
    | .cacheInsert _ key _ => ∃ text, tokenFromHeaders request.headers = some text ∧
        key = Credentials.sha256 text
    | _ => True
  permits_mono := by
    intro history later effect _ permitted
    cases effect with
    | _ => exact permitted

theorem refuse_personal {request : HttpRequest} {history : History} (token reason : String)
    (error : ProxyError) :
    (Caller.refuse request token reason error).Keeps (personal request) history := by
  apply Program.Obeys.request_bind trivial
  intro _
  apply Program.Obeys.request_bind trivial
  exact fun _ => trivial

theorem unlessExpired_personal {request : HttpRequest} {history : History} (guard : Guard)
    (token : TokenConfig) :
    (Caller.unlessExpired request guard token).Keeps (personal request) history := by
  unfold Caller.unlessExpired
  split
  · trivial
  · apply Program.Obeys.request_bind trivial
    intro now
    split
    · exact refuse_personal _ _ _
    · trivial

theorem fromRequestParts_personal {request : HttpRequest} :
    (Caller.fromRequestParts request).Keeps (personal request) [] := by
  apply Program.Obeys.request_bind trivial
  intro guard
  have admitted : ∀ history, (Caller.admitPeer request guard).Keeps (personal request) history := by
    intro history
    unfold Caller.admitPeer
    split
    · trivial
    · next ip peer => exact Program.Obeys.request_bind peer fun _ => trivial
  apply (admitted _).bind
  intro later verdict _ _
  cases verdict with
  | false => exact refuse_personal _ _ _
  | true =>
      simp only [if_true]
      split
      · exact refuse_personal _ _ _
      · next text header =>
          apply Program.Obeys.bind
          · exact Discipline.authenticate_obeys ⟨text, header, rfl⟩
              fun _ _ _ _ _ => ⟨text, header, rfl⟩
          · intro latest found _ _
            cases found with
            | none => exact refuse_personal _ _ _
            | some token => exact unlessExpired_personal guard token

theorem Guarded.personal {request : HttpRequest} {program : Call Response}
    (guarded : Guarded request program) : program.Keeps (personal request) [] := by
  rcases guarded with keeps | ⟨handler, rfl, refused, keeps⟩
  · apply keeps.relax
    rintro later effect - ⟨line, rfl⟩
    trivial
  · apply fromRequestParts_personal.bind
    intro later result within _
    cases result with
    | error why =>
        rcases refused why with ⟨response, same⟩
        rw [same]
        trivial
    | ok caller =>
        apply ((keeps caller).mono within).relax
        intro latest effect _ permitted
        cases effect with
        | checkIp slot ip => exact permitted.elim
        | cacheGet slot key => exact permitted.elim
        | cacheInsert slot key position => exact permitted.elim
        | _ => trivial

/-! ## What a client can tell -/

/-- The addresses a client calls from, the strings it presents, and the names its tokens
are charged under. -/
structure Client where
  addresses : Set IpAddr
  presents : Set String
  names : Set String

namespace Client

variable (client : Client)

structure Owns (request : HttpRequest) : Prop where
  address : ∀ ip, request.peer = some ip → ip ∈ client.addresses
  presents : ∀ text, tokenFromHeaders request.headers = some text → text ∈ client.presents

structure Avoids (request : HttpRequest) : Prop where
  address : ∀ ip, request.peer = some ip → ip ∉ client.addresses
  presents : ∀ text, tokenFromHeaders request.headers = some text → text ∉ client.presents

/-- Effects on what is the client's. -/
def own : Effect → Prop
  | .checkIp _ ip => ip ∈ client.addresses
  | .cacheGet _ key => ∃ text ∈ client.presents, key = Credentials.sha256 text
  | .cacheInsert _ key _ => ∃ text ∈ client.presents, key = Credentials.sha256 text
  | .check _ token => token.name ∈ client.names
  | _ => True

/-- Effects on nothing that is the client's. -/
def foreign : Effect → Prop
  | .checkIp _ ip => ip ∉ client.addresses
  | .cacheInsert _ key _ => ∀ text ∈ client.presents, key ≠ Credentials.sha256 text
  | .check _ token => token.name ∉ client.names
  | _ => True

variable (quota : Governor.KeyedLimiter → Gcra ℚ)
  (entries : Governor.KeyedLimiter → IpAddr → Option ℚ)

/-- Two stores that are the same for the client's addresses from some time on. -/
def SameStore (now : Nat) : Option Governor.KeyedLimiter → Option Governor.KeyedLimiter → Prop
  | none, none => True
  | some left, some right => quota left = quota right ∧
      ∀ ip ∈ client.addresses, Gcra.SameFrom (now : ℚ) (entries left ip) (entries right ip)
  | _, _ => False

/-- Two `Live` values that are the same for the client. -/
structure SameLive (now : Nat) (live other : Live) : Prop where
  fixed : live.Same other
  cache : ∀ text ∈ client.presents, live.auth.cache.lookup (Credentials.sha256 text) =
    other.auth.cache.lookup (Credentials.sha256 text)
  limiters : ∀ name ∈ client.names,
    live.rate.limiters.lookup name = other.rate.limiters.lookup name
  store : client.SameStore quota entries now live.rate.perIp other.rate.perIp

/-- Two states that are the same for the client. -/
structure SameState (now : Nat) (state twin : AppState) : Prop where
  current : state.current = twin.current
  configPath : state.configPath = twin.configPath
  lives : ∀ slot, client.SameLive quota entries now (state.lives slot) (twin.lives slot)

variable {client quota entries} {now : Nat}

theorem SameStore.refl (store : Option Governor.KeyedLimiter) :
    client.SameStore quota entries now store store := by
  cases store with
  | none => trivial
  | some limiter => exact ⟨rfl, fun _ _ => Gcra.SameFrom.refl _ _⟩

theorem SameLive.refl (live : Live) : client.SameLive quota entries now live live :=
  ⟨Live.Same.refl live, fun _ _ => rfl, fun _ _ => rfl, SameStore.refl _⟩

theorem SameState.refl (state : AppState) : client.SameState quota entries now state state :=
  ⟨rfl, rfl, fun _ => SameLive.refl _⟩

theorem SameStore.symm {left right : Option Governor.KeyedLimiter}
    (same : client.SameStore quota entries now left right) :
    client.SameStore quota entries now right left := by
  cases left with
  | none =>
      cases right with
      | none => trivial
      | some limiter => exact same.elim
  | some limiter =>
      cases right with
      | none => exact same.elim
      | some other => exact ⟨same.1.symm, fun ip owned => (same.2 ip owned).symm⟩

theorem SameLive.symm {live other : Live} (same : client.SameLive quota entries now live other) :
    client.SameLive quota entries now other live where
  fixed := same.fixed.symm
  cache text presented := (same.cache text presented).symm
  limiters name named := (same.limiters name named).symm
  store := same.store.symm

theorem SameState.symm {state twin : AppState}
    (same : client.SameState quota entries now state twin) :
    client.SameState quota entries now twin state :=
  ⟨same.current.symm, same.configPath.symm, fun slot => (same.lives slot).symm⟩

theorem SameStore.later {left right : Option Governor.KeyedLimiter} {later : Nat}
    (same : client.SameStore quota entries now left right) (order : now ≤ later) :
    client.SameStore quota entries later left right := by
  cases left with
  | none =>
      cases right with
      | none => trivial
      | some limiter => exact same.elim
  | some limiter =>
      cases right with
      | none => exact same.elim
      | some other =>
          exact ⟨same.1, fun ip owned => (same.2 ip owned).mono (Nat.cast_le.mpr order)⟩

theorem SameState.later {state twin : AppState} {later : Nat}
    (same : client.SameState quota entries now state twin) (order : now ≤ later) :
    client.SameState quota entries later state twin where
  current := same.current
  configPath := same.configPath
  lives slot :=
    { same.lives slot with store := (same.lives slot).store.later order }

/-! ## What each step leaves the same -/

section

variable (keeps : Governor.KeepsArrivals quota entries)

include keeps

/-- A call from one of the client's addresses. -/
theorem SameStore.charge {rate other : RateLimits} {ip : IpAddr} (owned : ip ∈ client.addresses)
    (same : client.SameStore quota entries now rate.perIp other.perIp) :
    (rate.charge (ip, now)).1 = (other.charge (ip, now)).1 ∧
      client.SameStore quota entries now (rate.charge (ip, now)).2.perIp
        (other.charge (ip, now)).2.perIp := by
  have keyed := RateLimits.keeps_chargeKeyed keeps
  cases limited : rate.perIp with
  | none =>
      cases otherLimited : other.perIp with
      | none =>
          rw [RateLimits.charge_of_none limited, RateLimits.charge_of_none otherLimited, limited,
            otherLimited]
          exact ⟨rfl, trivial⟩
      | some limiter =>
          rw [limited, otherLimited] at same
          exact same.elim
  | some left =>
      cases otherLimited : other.perIp with
      | none =>
          rw [limited, otherLimited] at same
          exact same.elim
      | some right =>
          rw [limited, otherLimited] at same
          rcases same with ⟨quotas, states⟩
          have step := (states ip owned).check (quota left)
          have own := keyed.own (left, rate.sweep) (ip, now)
          have otherOwn := keyed.own (right, other.sweep) (ip, now)
          have verdict := keyed.verdict (left, rate.sweep) (ip, now)
          have otherVerdict := keyed.verdict (right, other.sweep) (ip, now)
          rw [RateLimits.charge_of_some limited, RateLimits.charge_of_some otherLimited]
          refine ⟨?_, ?_, fun served isServed => ?_⟩
          · refine verdict.trans (Eq.trans ?_ otherVerdict.symm)
            rw [← quotas]
            exact step.1
          · exact ((keyed.quota_check (left, rate.sweep) (ip, now)).trans quotas).trans
              (keyed.quota_check (right, other.sweep) (ip, now)).symm
          · by_cases isOwn : served = ip
            · subst isOwn
              rw [← quotas] at otherOwn
              exact (own.trans step.2).trans otherOwn.symm
            · have kept := keyed.other (left, rate.sweep) (ip, now) served isOwn
              have otherKept := keyed.other (right, other.sweep) (ip, now) served isOwn
              exact (kept.trans (states served isServed)).trans otherKept.symm

/-- A call from anywhere else. -/
theorem SameStore.charge_foreign {rate : RateLimits} {right : Option Governor.KeyedLimiter}
    {ip : IpAddr} {clock : Nat} (isForeign : ip ∉ client.addresses) (read : clock ≤ now)
    (same : client.SameStore quota entries now rate.perIp right) :
    client.SameStore quota entries now (rate.charge (ip, clock)).2.perIp right := by
  have keyed := RateLimits.keeps_chargeKeyed keeps
  cases limited : rate.perIp with
  | none =>
      rw [RateLimits.charge_of_none limited]
      exact same
  | some left =>
      rw [limited] at same
      rw [RateLimits.charge_of_some limited]
      cases right with
      | none => exact same.elim
      | some other =>
          rcases same with ⟨quotas, states⟩
          refine ⟨(keyed.quota_check (left, rate.sweep) (ip, clock)).trans quotas, ?_⟩
          intro served isServed
          have notOwn : served ≠ ip := fun isOwn => isForeign (isOwn ▸ isServed)
          have kept := keyed.other (left, rate.sweep) (ip, clock) served notOwn
          exact (kept.mono (Nat.cast_le.mpr read)).trans (states served isServed)

end

theorem limiters_charge (rate : RateLimits) (call : IpAddr × Nat) :
    (rate.charge call).2.limiters = rate.limiters := by
  cases limited : rate.perIp with
  | none => rw [RateLimits.charge_of_none limited]
  | some limiter => rw [RateLimits.charge_of_some limited]

theorem perIp_check (rate : RateLimits) (token : TokenConfig) (clock : Nat) :
    (rate.check token clock).2.perIp = rate.perIp := by
  unfold RateLimits.check
  split <;> rfl

/-- A charge to one of the client's names. -/
theorem SameLive.check {live other : Live} {token : TokenConfig}
    (owned : token.name ∈ client.names) (same : client.SameLive quota entries now live other)
    (clock : Nat) :
    (live.rate.check token clock).1 = (other.rate.check token clock).1 ∧
      client.SameLive quota entries now { live with rate := (live.rate.check token clock).2 }
        { other with rate := (other.rate.check token clock).2 } := by
  have own := same.limiters token.name owned
  refine ⟨?_, ⟨same.fixed.tokens, same.fixed.upstream, same.fixed.limits, same.fixed.tokenCount⟩,
    same.cache, ?_, ?_⟩
  · cases found : live.rate.limiters.lookup token.name with
    | none =>
        rw [found] at own
        simp [RateLimits.check, found, ← own]
    | some limiter =>
        rw [found] at own
        rw [(RateLimits.check_of_lookup found clock).1,
          (RateLimits.check_of_lookup own.symm clock).1]
  · intro name named
    by_cases isOwn : token.name = name
    · subst isOwn
      cases found : live.rate.limiters.lookup token.name with
      | none =>
          rw [found] at own
          simp [RateLimits.check, found, ← own]
      | some limiter =>
          rw [found] at own
          exact (RateLimits.check_of_lookup found clock).2.trans
            (RateLimits.check_of_lookup own.symm clock).2.symm
    · exact ((live.rate.lookup_check_of_ne isOwn clock).trans (same.limiters name named)).trans
        (other.rate.lookup_check_of_ne isOwn clock).symm
  · simp only [perIp_check]
    exact same.store

theorem SameState.modify {state twin : AppState} {slot : Nat} {live other : Live}
    (same : client.SameState quota entries now state twin)
    (updated : client.SameLive quota entries now live other) :
    client.SameState quota entries now (state.modify slot live) (twin.modify slot other) := by
  refine ⟨same.current, same.configPath, fun own => ?_⟩
  by_cases isOwn : own = slot
  · subst isOwn
    simpa using updated
  · rw [state.lives_modify_ne live isOwn, twin.lives_modify_ne other isOwn]
    exact same.lives own

theorem SameState.modify_foreign {state twin : AppState} {slot : Nat} {live : Live}
    (same : client.SameState quota entries now state twin)
    (updated : client.SameLive quota entries now live (twin.lives slot)) :
    client.SameState quota entries now (state.modify slot live) twin := by
  refine ⟨same.current, same.configPath, fun own => ?_⟩
  by_cases isOwn : own = slot
  · subst isOwn
    simpa using updated
  · rw [state.lives_modify_ne live isOwn]
    exact same.lives own

theorem SameState.recordMetrics {state twin : AppState}
    (same : client.SameState quota entries now state twin) (record other : Metrics → Metrics) :
    client.SameState quota entries now (state.recordMetrics record)
      (twin.recordMetrics other) :=
  ⟨same.current, same.configPath, same.lives⟩

theorem SameState.store {state twin : AppState}
    (same : client.SameState quota entries now state twin) (live : Live) :
    client.SameState quota entries now (state.store live) (twin.store live) := by
  refine ⟨congrArg (· + 1) same.current, same.configPath, fun slot => ?_⟩
  simp only [AppState.store, ← same.current, Function.update_apply]
  split
  · exact SameLive.refl live
  · exact same.lives slot

/-- A reload finds the same in both, and puts the same in force. -/
theorem SameState.sighup {state twin : AppState}
    (same : client.SameState quota entries now state twin) (found : Reload) :
    client.SameState quota entries now (state.sighup found) (twin.sighup found) := by
  rcases state.sighup_accepted found with ⟨refused, left⟩ | ⟨cfg, live, accepted, built, left⟩
  · rcases twin.sighup_accepted found with ⟨_, right⟩ | ⟨_, _, accepted, _, _⟩
    · rw [left, right]
      exact same.recordMetrics _ _
    · rw [← same.configPath, refused] at accepted
      cases accepted
  · rcases twin.sighup_accepted found with ⟨refused, _⟩ |
      ⟨other, _, otherAccepted, otherBuilt, right⟩
    · rw [← same.configPath, accepted] at refused
      cases refused
    · rw [← same.configPath, accepted, Option.some.injEq] at otherAccepted
      rw [← otherAccepted, built, Except.ok.injEq] at otherBuilt
      rw [left, right, ← otherBuilt]
      exact (same.store live).recordMetrics _ _

/-! ## The server unwinds -/

/-- What two `Live` values hold in their caches and limiters is all that differs. -/
def seen : Appearance where
  tokens _ := True
  digest := (· = ·)
  upstream := (· = ·)
  sent := (· = ·)
  prepare := by
    intro left right same method path body
    rw [same]

theorem eq_of_seen {left right : Effect} (same : seen.effect left right) : left = right := by
  cases left with
  | cacheGet slot key =>
      cases right with
      | cacheGet other otherKey =>
          rcases same with ⟨rfl, rfl⟩
          rfl
      | _ => cases same
  | cacheInsert slot key position =>
      cases right with
      | cacheInsert other otherKey otherPosition =>
          rcases same with ⟨rfl, rfl, rfl⟩
          rfl
      | _ => cases same
  | send slot request =>
      cases right with
      | send other otherRequest =>
          rcases same with ⟨rfl, rfl⟩
          rfl
      | _ => cases same
  | _ => exact same

theorem SameLive.insert {live other : Live} (same : client.SameLive quota entries now live other)
    (key : Digest) (position : Nat) :
    client.SameLive quota entries now
      { live with auth := { live.auth with cache := live.auth.cache.insert key position } }
      { other with auth := { other.auth with cache := other.auth.cache.insert key position } } := by
  refine ⟨⟨same.fixed.tokens, same.fixed.upstream, same.fixed.limits, same.fixed.tokenCount⟩,
    ?_, same.limiters, same.store⟩
  intro text presented
  by_cases isKey : Credentials.sha256 text = key
  · rw [isKey, AList.lookup_insert, AList.lookup_insert]
  · rw [AList.lookup_insert_ne isKey, AList.lookup_insert_ne isKey]
    exact same.cache text presented

theorem SameLive.insert_foreign {live other : Live}
    (same : client.SameLive quota entries now live other) {key : Digest} (position : Nat)
    (isForeign : ∀ text ∈ client.presents, key ≠ Credentials.sha256 text) :
    client.SameLive quota entries now
      { live with auth := { live.auth with cache := live.auth.cache.insert key position } }
      other := by
  refine ⟨⟨same.fixed.tokens, same.fixed.upstream, same.fixed.limits, same.fixed.tokenCount⟩,
    ?_, same.limiters, same.store⟩
  intro text presented
  rw [AList.lookup_insert_ne (isForeign text presented).symm]
  exact same.cache text presented

theorem SameLive.check_foreign {live other : Live} {token : TokenConfig}
    (isForeign : token.name ∉ client.names)
    (same : client.SameLive quota entries now live other) (clock : Nat) :
    client.SameLive quota entries now { live with rate := (live.rate.check token clock).2 }
      other := by
  refine ⟨⟨same.fixed.tokens, same.fixed.upstream, same.fixed.limits, same.fixed.tokenCount⟩,
    same.cache, ?_, ?_⟩
  · intro name named
    have notOwn : token.name ≠ name := fun isOwn => isForeign (isOwn ▸ named)
    exact (live.rate.lookup_check_of_ne notOwn clock).trans (same.limiters name named)
  · simp only [perIp_check]
    exact same.store

variable (keeps : Governor.KeepsArrivals quota entries)

include keeps

theorem SameLive.charge {live other : Live} {ip : IpAddr} (owned : ip ∈ client.addresses)
    (same : client.SameLive quota entries now live other) :
    (live.rate.charge (ip, now)).1 = (other.rate.charge (ip, now)).1 ∧
      client.SameLive quota entries now { live with rate := (live.rate.charge (ip, now)).2 }
        { other with rate := (other.rate.charge (ip, now)).2 } := by
  rcases same.store.charge keeps owned with ⟨verdict, moved⟩
  refine ⟨verdict,
    ⟨same.fixed.tokens, same.fixed.upstream, same.fixed.limits, same.fixed.tokenCount⟩,
    same.cache, ?_, moved⟩
  simp only [limiters_charge]
  exact same.limiters

theorem SameLive.charge_foreign {live other : Live} {ip : IpAddr} {clock : Nat}
    (isForeign : ip ∉ client.addresses) (read : clock ≤ now)
    (same : client.SameLive quota entries now live other) :
    client.SameLive quota entries now { live with rate := (live.rate.charge (ip, clock)).2 }
      other := by
  refine ⟨⟨same.fixed.tokens, same.fixed.upstream, same.fixed.limits, same.fixed.tokenCount⟩,
    same.cache, ?_, same.store.charge_foreign keeps isForeign read⟩
  simp only [limiters_charge]
  exact same.limiters

/-- An effect on what is the client's is answered the same in states that are the same
for it. -/
theorem SameState.exec {state twin : AppState} {effect : Effect} {outside : Outside}
    (owned : client.own effect) (same : client.SameState quota entries outside.clock state twin) :
    seen.answer effect effect (state.exec effect outside).1 (twin.exec effect outside).1 ∧
      client.SameState quota entries outside.clock (state.exec effect outside).2
        (twin.exec effect outside).2 := by
  cases effect with
  | live =>
      have held := same.lives state.current
      have here : twin.live.value = twin.lives state.current :=
        congrArg twin.lives same.current.symm
      refine ⟨⟨same.current, trivial, ?_, ?_, ?_⟩, same⟩
      · exact held.fixed.tokens.trans (congrArg (fun live => live.auth.tokens) here.symm)
      · exact held.fixed.limits.trans (congrArg Live.limits here.symm)
      · exact held.fixed.upstream.trans (congrArg Live.upstream here.symm)
  | checkIp slot ip =>
      rcases (same.lives slot).charge keeps owned with ⟨verdict, moved⟩
      exact ⟨heq_of_eq verdict, same.modify moved⟩
  | cacheGet slot key =>
      rcases owned with ⟨text, presented, rfl⟩
      exact ⟨heq_of_eq ((same.lives slot).cache text presented), same⟩
  | cacheInsert slot key position =>
      exact ⟨HEq.rfl, same.modify ((same.lives slot).insert key position)⟩
  | check slot token =>
      rcases (same.lives slot).check owned outside.clock with ⟨verdict, moved⟩
      exact ⟨heq_of_eq verdict, same.modify moved⟩
  | _ => exact ⟨HEq.rfl, same.current, same.configPath, same.lives⟩

/-- An effect on nothing of the client's leaves the state as it is for the client. -/
theorem SameState.exec_foreign {state twin : AppState} {effect : Effect} {outside : Outside}
    (isForeign : client.foreign effect) (read : outside.clock ≤ now)
    (same : client.SameState quota entries now state twin) :
    client.SameState quota entries now (state.exec effect outside).2 twin := by
  cases effect with
  | checkIp slot ip =>
      exact same.modify_foreign ((same.lives slot).charge_foreign keeps isForeign read)
  | cacheInsert slot key position =>
      exact same.modify_foreign ((same.lives slot).insert_foreign position isForeign)
  | check slot token =>
      exact same.modify_foreign ((same.lives slot).check_foreign isForeign outside.clock)
  | _ => exact ⟨same.current, same.configPath, same.lives⟩

theorem unwinds (client : Client) :
    Pool.Unwinds server seen.likeness Outside.clock (· = ·) client.own client.foreign
      (client.SameState quota entries) where
  later same order := same.later order
  own := by
    intro effect other outside state twin owned alike same
    rcases eq_of_seen alike with rfl
    exact same.exec keeps owned
  left isForeign read same := same.exec_foreign keeps isForeign read
  right isForeign read same := (same.symm.exec_foreign keeps isForeign read).symm
  move := by
    intro made other now state twin same held
    rw [← same]
    exact held.sighup made

end Client

end

/-! ## Two runs -/

namespace Step

/-- Two runs with the same requests and steps of a client and the same reloads, in which
other requests arrive in the same places but may be others altogether, and take their
steps at other times, or none. -/
inductive Alongside (client : Client) (mine : Nat → Prop) :
    Nat → List Step → List Step → Prop
  | nil : Alongside client mine 0 [] []
  | own {count steps twin schedule request} : Alongside client mine count steps twin →
      mine count → client.Owns request →
      Alongside client mine (count + 1) (steps ++ [.arrive schedule request])
        (twin ++ [.arrive schedule request])
  | other {count steps twin schedule request otherSchedule otherRequest} :
      Alongside client mine count steps twin → ¬ mine count → client.Avoids request →
      client.Avoids otherRequest →
      Alongside client mine (count + 1) (steps ++ [.arrive schedule request])
        (twin ++ [.arrive otherSchedule otherRequest])
  | advance {count steps twin index outside} : Alongside client mine count steps twin →
      mine index →
      Alongside client mine count (steps ++ [.advance index outside])
        (twin ++ [.advance index outside])
  | reload {count steps twin found} : Alongside client mine count steps twin →
      Alongside client mine count (steps ++ [.reload found]) (twin ++ [.reload found])
  | left {count steps twin index outside} : Alongside client mine count steps twin →
      ¬ mine index → Alongside client mine count (steps ++ [.advance index outside]) twin
  | right {count steps twin index outside} : Alongside client mine count steps twin →
      ¬ mine index → Alongside client mine count steps (twin ++ [.advance index outside])

variable {client : Client} {mine : Nat → Prop} {count : Nat} {steps twin : List Step}

theorem Alongside.symm (along : Alongside client mine count steps twin) :
    Alongside client mine count twin steps := by
  induction along with
  | nil => exact .nil
  | own _ isMine owned induction => exact .own induction isMine owned
  | other _ notMine avoids twinAvoids induction =>
      exact .other induction notMine twinAvoids avoids
  | advance _ isMine induction => exact .advance induction isMine
  | reload _ induction => exact .reload induction
  | left _ notMine induction => exact .right induction notMine
  | right _ notMine induction => exact .left induction notMine

/-- The requests of the client are its own, and no others are. -/
structure Assigned (client : Client) (mine : Nat → Prop) (steps : List Step) : Prop where
  own : ∀ index schedule request, (requests steps)[index]? = some (schedule, request) →
    mine index → client.Owns request
  other : ∀ index schedule request, (requests steps)[index]? = some (schedule, request) →
    ¬ mine index → client.Avoids request

theorem Assigned.arrive (assigned : Assigned client mine steps) {schedule : List Nat}
    {request : HttpRequest} (owned : mine (requests steps).length → client.Owns request)
    (avoids : ¬ mine (requests steps).length → client.Avoids request) :
    Assigned client mine (steps ++ [.arrive schedule request]) := by
  have newest : requests (steps ++ [.arrive schedule request]) =
      requests steps ++ [(schedule, request)] := requests_append steps _
  have place : ∀ index found, (requests steps ++ [(schedule, request)])[index]? = some found →
      (requests steps)[index]? = some found ∨
        index = (requests steps).length ∧ found = (schedule, request) := by
    intro index found here
    rcases Nat.lt_or_ge index (requests steps).length with old | new
    · exact .inl ((List.getElem?_append_left old).symm.trans here)
    · rw [List.getElem?_append_right new] at here
      have last := List.mem_singleton.mp (List.mem_of_getElem? here)
      have first : index - (requests steps).length < 1 :=
        (List.getElem?_eq_some_iff.mp here).1
      exact .inr ⟨by omega, last⟩
  constructor
  · intro index own found here isMine
    rw [newest] at here
    rcases place index _ here with old | ⟨rfl, same⟩
    · exact assigned.own index own found old isMine
    · cases same
      exact owned isMine
  · intro index own found here notMine
    rw [newest] at here
    rcases place index _ here with old | ⟨rfl, same⟩
    · exact assigned.other index own found old notMine
    · cases same
      exact avoids notMine

theorem Assigned.snoc (assigned : Assigned client mine steps) {step : Step}
    (quiet : requests [step] = []) : Assigned client mine (steps ++ [step]) := by
  have same : requests (steps ++ [step]) = requests steps := by
    rw [requests_append, quiet, List.append_nil]
  constructor
  · rw [same]
    exact assigned.own
  · rw [same]
    exact assigned.other

theorem Alongside.assigned (along : Alongside client mine count steps twin) :
    (requests steps).length = count ∧ Assigned client mine steps := by
  induction along with
  | nil =>
      refine ⟨rfl, ?_, ?_⟩
      · intro index schedule request found
        cases found
      · intro index schedule request found
        cases found
  | own _ isMine owned induction =>
      refine ⟨by rw [requests_append, List.length_append, induction.1]; rfl, ?_⟩
      apply induction.2.arrive
      · exact fun _ => owned
      · rw [induction.1]
        exact fun notMine => absurd isMine notMine
  | other _ notMine avoids _ induction =>
      refine ⟨by rw [requests_append, List.length_append, induction.1]; rfl, ?_⟩
      apply induction.2.arrive
      · rw [induction.1]
        exact fun isMine => absurd isMine notMine
      · exact fun _ => avoids
  | advance _ _ induction =>
      exact ⟨by rw [requests_append, List.length_append, induction.1]; rfl, induction.2.snoc rfl⟩
  | reload _ induction =>
      exact ⟨by rw [requests_append, List.length_append, induction.1]; rfl, induction.2.snoc rfl⟩
  | left _ _ induction =>
      exact ⟨by rw [requests_append, List.length_append, induction.1]; rfl, induction.2.snoc rfl⟩
  | right _ _ induction => exact induction

section

variable [Crates] [Framework] [GraphQlEngine]

theorem Alongside.turns (settings : RouterSettings)
    (along : Alongside client mine count steps twin) :
    Pool.Alongside mine (Program.Matches Client.seen.likeness (· = ·)) (· = ·) count
      (steps.map (turn settings)) (twin.map (turn settings)) := by
  induction along with
  | nil => exact .nil
  | @own count steps twin schedule request _ _ _ induction =>
      rw [List.map_append, List.map_append]
      apply Pool.Alongside.spawn induction
      intro _
      exact Appearance.serve_same (.refl (fun _ => rfl) request) settings schedule
  | other _ notMine _ _ induction =>
      rw [List.map_append, List.map_append]
      exact .spawn induction fun isMine => absurd isMine notMine
  | advance _ isMine induction =>
      rw [List.map_append, List.map_append]
      exact .advance induction isMine
  | reload _ induction =>
      rw [List.map_append, List.map_append]
      exact .move induction rfl
  | left _ notMine induction =>
      rw [List.map_append]
      exact .left induction notMine
  | right _ notMine induction =>
      rw [List.map_append]
      exact .right induction notMine

/-- What a run has to be for a client to have its own: the clock does not run back, the
strings presented have digests of their own, and no configuration in force charges the
client and another under one name. -/
structure Apart (client : Client) (cfg : Config) (path : Option String) (steps : List Step) :
    Prop where
  ordered : (clocks steps).Pairwise (· ≤ ·)
  collisionFree : Set.InjOn Credentials.sha256 (client.presents ∪ presented steps)
  own : ∀ config ∈ configurations cfg path steps, ∀ arrival ∈ requests steps,
    client.Owns arrival.2 → ∀ token, config.tokenFor arrival.2 = some token →
      token.name ∈ client.names
  other : ∀ config ∈ configurations cfg path steps, ∀ arrival ∈ requests steps,
    client.Avoids arrival.2 → ∀ token, config.tokenFor arrival.2 = some token →
      token.name ∉ client.names

variable {cfg : Config} {path : Option String} {state : AppState} (settings : RouterSettings)

theorem inForce_mem {early late : Log}
    (place : (run settings state steps).log = early ++ late) :
    inForce path cfg early ∈ configurations cfg path steps := by
  have moves := moves_run settings state steps
  rw [place, Pool.moves_append] at moves
  unfold inForce configurations
  rw [← moves, List.filterMap_append]
  cases last : (acceptedIn path early).getLast? with
  | none => exact List.mem_cons_self
  | some config =>
      exact List.mem_cons_of_mem _ (List.mem_append_left _ (List.mem_of_getLast? last))

/-- What a request may do, whose client and token are known. -/
structure Honest (cfg : Config) (path : Option String) (steps : List Step)
    (request : HttpRequest) (effect : Effect) : Prop where
  address : ∀ slot ip, effect = .checkIp slot ip → request.peer = some ip
  lookup : ∀ slot key, effect = .cacheGet slot key →
    ∃ text, tokenFromHeaders request.headers = some text ∧ key = Credentials.sha256 text
  insertion : ∀ slot key position, effect = .cacheInsert slot key position →
    ∃ text, tokenFromHeaders request.headers = some text ∧ key = Credentials.sha256 text
  charge : ∀ slot token, effect = .check slot token →
    ∃ config ∈ configurations cfg path steps, config.tokenFor request = some token

theorem honest (started : AppState.withPath cfg path = .ok state)
    (collisionFree : Set.InjOn Credentials.sha256 (presented steps)) {index : Nat}
    {schedule : List Nat} {request : HttpRequest}
    (arrived : (requests steps)[index]? = some (schedule, request))
    {event : Event Effect Answer} (member : event ∈ history settings state steps index) :
    Honest cfg path steps request event.effect := by
  rcases List.append_of_mem member with ⟨before, after, place⟩
  have guarded : Guarded request (Routes.serve settings schedule request) := Guarded.serve ..
  rcases events_trace settings state arrived with ⟨rest, trace⟩
  have permitted := (guarded.personal.along trace).2 before event after place
  have disciplined := run_disciplined settings state arrived before event after place
  have within : before ⊆ history settings state steps index := by
    rw [place]
    exact List.subset_append_left _ _
  rcases event with ⟨effect, answer⟩
  constructor
  · rintro slot ip rfl
    exact permitted
  · rintro slot key rfl
    exact permitted
  · rintro slot key position rfl
    exact permitted
  · rintro slot token rfl
    rcases disciplined with ⟨-, extraction, caller, extracted, rfl⟩
    rcases place_of_loaded (within extracted.loaded) with ⟨early, late, logged⟩
    have snapshots := Snapshots.run started (steps.map (turn settings))
    rcases snapshots.loaded_built logged with ⟨-, live, built, same⟩
    have genuine := run_genuine settings started collisionFree arrived within
    exact ⟨_, inForce_mem settings logged, extracted.tokenFor built genuine same⟩

theorem readings_turns (steps : List Step) :
    ((steps.map (turn settings)).filterMap Pool.input?).map Outside.clock = clocks steps := by
  induction steps with
  | nil => rfl
  | cons step steps induction =>
      cases step with
      | arrive schedule request => exact induction
      | advance index outside => exact congrArg (outside.clock :: ·) induction
      | reload found => exact induction

/-- A run in which a client has its own goes on in an orderly way. -/
theorem orderly (started : AppState.withPath cfg path = .ok state)
    (apart : Apart client cfg path steps) (assigned : Assigned client mine steps) :
    Pool.Orderly server Outside.clock client.own client.foreign mine state
      (steps.map (turn settings)) := by
  have collisionFree := apart.collisionFree.mono (Set.subset_union_right (s := client.presents))
  have arrival : ∀ {index event}, event ∈ history settings state steps index →
      ∃ schedule request, (requests steps)[index]? = some (schedule, request) := by
    intro index event member
    by_cases within : index ∈ Finset.range (requests steps).length
    · exact arrived_of_mem_range within
    · rw [history_eq_nil (by simpa using within)] at member
      cases member
  refine ⟨?_, ?_, ?_⟩
  · have ordered := apart.ordered
    rw [← readings_turns settings, List.pairwise_map] at ordered
    exact ordered
  · intro index isMine event member
    rcases arrival member with ⟨schedule, request, arrived⟩
    have owned := assigned.own index schedule request arrived isMine
    have honest := honest settings started collisionFree arrived member
    rcases event with ⟨effect, answer⟩
    cases effect with
    | checkIp slot ip => exact owned.address ip (honest.address slot ip rfl)
    | cacheGet slot key =>
        rcases honest.lookup slot key rfl with ⟨text, header, rfl⟩
        exact ⟨text, owned.presents text header, rfl⟩
    | cacheInsert slot key position =>
        rcases honest.insertion slot key position rfl with ⟨text, header, rfl⟩
        exact ⟨text, owned.presents text header, rfl⟩
    | check slot token =>
        rcases honest.charge slot token rfl with ⟨config, inForce, found⟩
        exact apart.own config inForce _ (List.mem_of_getElem? arrived) owned token found
    | _ => trivial
  · intro index notMine event member
    rcases arrival member with ⟨schedule, request, arrived⟩
    have avoids := assigned.other index schedule request arrived notMine
    have honest := honest settings started collisionFree arrived member
    rcases event with ⟨effect, answer⟩
    cases effect with
    | checkIp slot ip => exact avoids.address ip (honest.address slot ip rfl)
    | cacheInsert slot key position =>
        rcases honest.insertion slot key position rfl with ⟨text, header, rfl⟩
        intro own isPresented same
        have shown : text ∈ presented steps := ⟨_, List.mem_of_getElem? arrived, header⟩
        have isOwn := apart.collisionFree (.inr shown) (.inl isPresented) same
        exact avoids.presents text header (isOwn ▸ isPresented)
    | check slot token =>
        rcases honest.charge slot token rfl with ⟨config, inForce, found⟩
        exact apart.other config inForce _ (List.mem_of_getElem? arrived) avoids token found
    | _ => trivial

/-- What a client's requests do, and what they are answered, does not depend on what
others ask for or when. -/
theorem isolated {quota : Governor.KeyedLimiter → Gcra ℚ}
    {entries : Governor.KeyedLimiter → IpAddr → Option ℚ}
    (keeps : Governor.KeepsArrivals quota entries)
    (started : AppState.withPath cfg path = .ok state)
    (along : Alongside client mine count steps twin) (apart : Apart client cfg path steps)
    (twinApart : Apart client cfg path twin) {index : Nat} (isMine : mine index) :
    List.Forall₂ Client.seen.likeness.Event (history settings state steps index)
        (history settings state twin index) ∧
      answer? settings state steps index = answer? settings state twin index := by
  have peers := ((along.turns settings).peers (client.unwinds keeps)
    (fun _ => Client.SameState.refl state) (orderly settings started apart along.assigned.2)
    (orderly settings started twinApart along.symm.assigned.2)).1
  exact ⟨peers.events index isMine, peers.same_end isMine⟩

end

end Step

section

open Sample

attribute [local instance] mapped

/-- The crates of the samples, with a store of arrivals. -/
local instance mappedCrates : Crates := { Sample.crates with toGovernor := mapped }

/-- The state the proxy starts in under `strict`. -/
def strictState : AppState where
  lives _ :=
    { auth := ⟨[(reception, receptionHash), (lobby, lobbyHash)], ∅⟩
      upstream := ⟨⟨.webPki, 15000, 10000, false⟩,
        "https://unifi.local/proxy/network/integration/v1", ⟨"controller-key"⟩⟩
      limits := strict.limits
      rate := RateLimits.fromConfig strict
      tokenCount := 2 }
  current := 0
  metrics := {}
  configPath := none

def receptionDesk : Client where
  addresses := {.v4 0x0A000007}
  presents := {receptionKey}
  names := {"reception"}

def deskRequest : HttpRequest := request "GET" "/proxy/network/integration/v1/sites" receptionKey []

def lobbyRequest : HttpRequest :=
  { request "GET" "/proxy/network/integration/v1/sites" lobbyKey [] with
    peer := some (.v4 0x0A000008) }

/-- The desk and the lobby, taking turns. -/
def taken : List Step :=
  [.arrive [] deskRequest, .arrive [] lobbyRequest, .advance 0 outside, .advance 1 outside,
    .advance 1 outside, .advance 0 outside, .reload ⟨none, []⟩]

/-- The same with the lobby never served. -/
def waiting : List Step :=
  [.arrive [] deskRequest, .arrive [] lobbyRequest, .advance 0 outside, .advance 0 outside,
    .reload ⟨none, []⟩]

theorem deskOwns : receptionDesk.Owns deskRequest := by
  have peer : deskRequest.peer = some (.v4 0x0A000007) := rfl
  have header : tokenFromHeaders deskRequest.headers = some receptionKey := by decide
  constructor
  · intro ip found
    exact (Option.some.inj (peer.symm.trans found)).symm
  · intro text found
    exact (Option.some.inj (header.symm.trans found)).symm

theorem lobbyAvoids : receptionDesk.Avoids lobbyRequest := by
  have peer : lobbyRequest.peer = some (.v4 0x0A000008) := rfl
  have header : tokenFromHeaders lobbyRequest.headers = some lobbyKey := by decide
  have elsewhere : IpAddr.v4 0x0A000008 ≠ .v4 0x0A000007 := by decide
  have unlike : lobbyKey ≠ receptionKey := by decide
  constructor
  · intro ip found own
    exact elsewhere ((Option.some.inj (peer.symm.trans found)).trans own)
  · intro text found own
    exact unlike ((Option.some.inj (header.symm.trans found)).trans own)

theorem tokenFor_strict : strict.tokenFor deskRequest = some reception ∧
    strict.tokenFor lobbyRequest = some lobby := by
  constructor <;> decide +kernel

theorem apart_of_desk {steps : List Step}
    (arrived : Step.requests steps = [([], deskRequest), ([], lobbyRequest)])
    (unchanged : Step.configurations strict none steps = [strict])
    (ordered : (Step.clocks steps).Pairwise (· ≤ ·)) :
    Step.Apart receptionDesk strict none steps where
  ordered := ordered
  collisionFree := by
    have known : Set.InjOn Credentials.sha256 {text | text ∈ [receptionKey, lobbyKey]} := by
      have distinct : ∀ left ∈ [receptionKey, lobbyKey], ∀ right ∈ [receptionKey, lobbyKey],
          Credentials.sha256 left = Credentials.sha256 right → left = right := by
        decide
      exact fun left isKnown right otherKnown => distinct left isKnown right otherKnown
    apply known.mono
    rintro text (rfl | ⟨arrival, member, header⟩)
    · exact List.mem_cons_self
    · rw [arrived] at member
      rcases List.mem_pair.mp member with rfl | rfl
      · exact deskOwns.presents text header ▸ List.mem_cons_self
      · have shown : tokenFromHeaders lobbyRequest.headers = some lobbyKey := by decide
        rw [Option.some.inj (header.symm.trans shown)]
        exact List.mem_cons_of_mem _ List.mem_cons_self
  own := by
    intro config inForce arrival member owned token found
    rw [unchanged, List.mem_singleton] at inForce
    rw [arrived] at member
    subst inForce
    rcases List.mem_pair.mp member with rfl | rfl
    · rw [tokenFor_strict.1] at found
      rcases Option.some.inj found with rfl
      exact rfl
    · exact absurd (owned.address _ rfl) (lobbyAvoids.address _ rfl)
  other := by
    intro config inForce arrival member avoids token found
    rw [unchanged, List.mem_singleton] at inForce
    rw [arrived] at member
    subst inForce
    rcases List.mem_pair.mp member with rfl | rfl
    · exact absurd (deskOwns.address _ rfl) (avoids.address _ rfl)
    · rw [tokenFor_strict.2] at found
      rcases Option.some.inj found with rfl
      exact fun same : "lobby" = "reception" => absurd same (by decide)

theorem taken_alongside_waiting : Step.Alongside receptionDesk (· = 0) 2 taken waiting := by
  have none : Step.Alongside receptionDesk (· = 0) 0 [] [] := .nil
  have arrived : Step.Alongside receptionDesk (· = 0) 1 (taken.take 1) (waiting.take 1) :=
    none.own rfl deskOwns
  have both : Step.Alongside receptionDesk (· = 0) 2 (taken.take 2) (waiting.take 2) :=
    arrived.other one_ne_zero lobbyAvoids lobbyAvoids
  have served : Step.Alongside receptionDesk (· = 0) 2 (taken.take 3) (waiting.take 3) :=
    both.advance rfl
  have lobbyServed : Step.Alongside receptionDesk (· = 0) 2 (taken.take 5) (waiting.take 3) :=
    (served.left one_ne_zero).left one_ne_zero
  have again : Step.Alongside receptionDesk (· = 0) 2 (taken.take 6) (waiting.take 4) :=
    lobbyServed.advance rfl
  exact again.reload

theorem Step.isolated_desk :
    List.Forall₂ Client.seen.likeness.Event (Step.history settings strictState taken 0)
        (Step.history settings strictState waiting 0) ∧
      Step.answer? settings strictState taken 0 = Step.answer? settings strictState waiting 0 :=
  Step.isolated settings keepsArrivals_mapped rfl taken_alongside_waiting
    (apart_of_desk rfl (by decide +kernel) (by decide))
    (apart_of_desk rfl (by decide +kernel) (by decide)) rfl

end

end VoucherProxy
