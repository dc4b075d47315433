import VoucherProxy.Mediation

namespace VoucherProxy

/-! When a request sees one configuration. The `Live` is loaded once to extract
the caller and once more by every handler and resolver, and a reload may be
accepted in between. -/

section

variable [Crates]

/-- The slot of the `Live` that an effect works on. -/
def Effect.slot? : Effect → Option Nat
  | .checkIp slot _ => some slot
  | .cacheGet slot _ => some slot
  | .cacheInsert slot _ _ => some slot
  | .check slot _ => some slot
  | .send slot _ => some slot
  | _ => none

/-- Everything a request uses comes from the `Live` in one slot, built from one
configuration: every `Live` it loads, what its steps work on, the token it is
charged as, and the client, rights and ceilings behind every call it makes. -/
structure SeesOne (history : History) (slot : Nat) (cfg : Config) : Prop where
  loads : ∀ guard, Loaded history guard → guard.slot = slot
  contents : ∃ live, Live.build cfg = .ok live ∧
    ∀ guard, Loaded history guard → guard.value.Same live
  effects : ∀ event ∈ history, ∀ own, event.effect.slot? = some own → own = slot
  charged : ∀ own token granted, (⟨.check own token, granted⟩ : Event Effect Answer) ∈ history →
    token ∈ cfg.tokens
  sent : ∀ own sent reply, (⟨.send own sent, reply⟩ : Event Effect Answer) ∈ history →
    ∃ token ∈ cfg.tokens, ∃ call : UpstreamCall, token.hasScope call.scope = true ∧
      (∀ site, call.site = some site → token.allowsSite site = true) ∧
      call.Within (Caller.ofToken token cfg.limits).ceilings ∧
      ∃ upstream, Upstream.new cfg.controller cfg.server.upstreamTimeout = .ok upstream ∧
        sent = upstream.prepare call.method call.path call.body

/-- No reload is accepted between any two times the request loads the `Live`. -/
def Undisturbed (path : Option String) (log : Log) (index : Nat) : Prop :=
  ∀ early first middle second late,
    log = early ++ .event index ⟨.live, first⟩ :: (middle ++ .event index ⟨.live, second⟩ :: late) →
      acceptedIn path middle = []

/-! ## The entries that can be found -/

/-- Whatever was found is an entry of the `Live` it was looked up in. -/
theorem Found.mem {history : History} {guard : Guard} {presented : String} {token : TokenConfig}
    (found : Found history guard presented (some token)) :
    token ∈ guard.value.auth.tokens.map Prod.fst := by
  rcases found with scanned | ⟨position, -, entry⟩
  · exact Authenticator.mem_of_recognise scanned.symm
  · rcases Option.map_eq_some_iff.mp entry.symm with ⟨candidate, present, rfl⟩
    exact List.mem_map_of_mem (List.mem_of_getElem? present)

theorem Extracted.mem {request : HttpRequest} {history : History} {guard : Guard}
    {caller : Caller} (extracted : Extracted request history guard caller) {cfg : Config}
    {live : Live} (built : Live.build cfg = .ok live) (same : guard.value.Same live) :
    caller.token ∈ cfg.tokens := by
  rcases extracted.recognised with ⟨presented, -, found⟩
  have member := found.mem
  rwa [same.tokens, Authenticator.map_fst_new (Live.build_eq_ok.mp built).1] at member

/-! ## From the loads to everything -/

/-- A disciplined request whose loads agree sees one configuration. -/
theorem SeesOne.of_loads {presented : Set String} {request : HttpRequest} {history : History}
    (disciplined : (discipline presented request).Honoured history) {slot : Nat} {cfg : Config}
    {live : Live} (built : Live.build cfg = .ok live)
    (loads : ∀ guard, Loaded history guard → guard.slot = slot ∧ guard.value.Same live) :
    SeesOne history slot cfg := by
  have permitted : ∀ event ∈ history, ∃ before, before ⊆ history ∧
      Discipline.permits presented request before event.effect := by
    intro event member
    rcases List.append_of_mem member with ⟨before, after, same⟩
    exact ⟨before, same ▸ List.subset_append_left _ _, disciplined before event after same⟩
  have parts := Live.build_eq_ok.mp built
  refine ⟨fun guard loaded => (loads guard loaded).1,
    ⟨live, built, fun guard loaded => (loads guard loaded).2⟩, ?_, ?_, ?_⟩
  · rintro ⟨effect, answer⟩ member own isSlot
    rcases permitted _ member with ⟨before, within, allowed⟩
    cases effect with
    | checkIp other ip =>
        cases isSlot
        rcases allowed with ⟨guard, loaded, rfl⟩
        exact (loads guard (within loaded)).1
    | cacheGet other key =>
        cases isSlot
        rcases allowed with ⟨guard, loaded, rfl⟩
        exact (loads guard (within loaded)).1
    | cacheInsert other key position =>
        cases isSlot
        rcases allowed with ⟨guard, text, loaded, rfl, -⟩
        exact (loads guard (within loaded)).1
    | check other token =>
        cases isSlot
        rcases allowed with ⟨⟨guard, loaded, rfl⟩, -⟩
        exact (loads guard (within loaded)).1
    | send other sent =>
        cases isSlot
        rcases allowed with ⟨_, _, _, _, acts⟩
        rcases acts.prepared with ⟨guard, loaded, rfl, -⟩
        exact (loads guard (within loaded)).1
    | _ => cases isSlot
  · intro own token granted member
    rcases permitted _ member with ⟨before, within, -, extraction, caller, extracted, rfl⟩
    exact extracted.mem built (loads extraction (within extracted.loaded)).2
  · intro own sent reply member
    rcases permitted _ member with ⟨before, within, extraction, caller, call, extracted, acts⟩
    rcases acts.prepared with ⟨guard, loaded, -, prepared⟩
    have same := (loads extraction (within extracted.loaded)).2
    refine ⟨caller.token, extracted.mem built same, call, acts.scope, acts.site, ?_,
      guard.value.upstream, ?_, (UpstreamCall.prepare_eq_ok.mp prepared).2⟩
    · have ceilings := extracted.ceilings
      rw [same.limits, parts.2.2.1] at ceilings
      rw [← ceilings]
      exact acts.policy
    · rw [(loads guard (within loaded)).2.upstream]
      exact parts.2.1

namespace Step

variable [Framework] [GraphQlEngine]

/-- Two loads of an undisturbed request are of one slot. -/
theorem slot_eq_of_undisturbed {settings : RouterSettings} {cfg : Config} {path : Option String}
    {state : AppState} (started : AppState.withPath cfg path = .ok state) {steps : List Step}
    {index : Nat} (undisturbed : Undisturbed path (run settings state steps).log index)
    {first second : Guard} (loadedFirst : Loaded (history settings state steps index) first)
    (loadedSecond : Loaded (history settings state steps index) second) :
    first.slot = second.slot := by
  have snapshots := Snapshots.run started (steps.map (turn settings))
  have later : ∀ {early middle late : Log} {first second : Guard},
      (run settings state steps).log =
        early ++ .event index ⟨.live, first⟩ ::
          (middle ++ .event index ⟨.live, second⟩ :: late) →
      first.slot = second.slot := by
    intro early middle late first second place
    have whole : (run settings state steps).log =
        (early ++ .event index ⟨.live, first⟩ :: middle) ++
          .event index ⟨.live, second⟩ :: late := by
      simpa using place
    have quiet := undisturbed early first middle second late place
    rw [(snapshots.loaded_built place).1, (snapshots.loaded_built whole).1, acceptedIn_append,
      ← List.singleton_append, acceptedIn_append, quiet]
    simp [acceptedIn]
  rcases place_of_loaded loadedFirst with ⟨early, late, place⟩
  rcases place_of_loaded loadedSecond with ⟨earlySecond, lateSecond, placeSecond⟩
  have member : Occurrence.event index ⟨.live, second⟩ ∈
      early ++ .event index ⟨.live, first⟩ :: late := by
    rw [← place, placeSecond]
    simp
  rcases List.mem_append.mp member with before | rest
  · rcases List.append_of_mem before with ⟨front, middle, rfl⟩
    exact (later (by simpa using place)).symm
  · rcases List.mem_cons.mp rest with same | after
    · simp only [Occurrence.event.injEq, Event.mk.injEq, heq_eq_eq, true_and] at same
      rw [same]
    · rcases List.append_of_mem after with ⟨middle, back, rfl⟩
      exact later place

/-- A request sees one configuration exactly when no reload is accepted between
two of its loads. -/
theorem seesOne_iff (settings : RouterSettings) {cfg : Config} {path : Option String}
    {state : AppState} (started : AppState.withPath cfg path = .ok state) {steps : List Step}
    {index : Nat} {schedule : List Nat} {request : HttpRequest}
    (arrived : (requests steps)[index]? = some (schedule, request)) :
    (∃ slot config, SeesOne (history settings state steps index) slot config) ↔
      Undisturbed path (run settings state steps).log index := by
  have snapshots := Snapshots.run started (steps.map (turn settings))
  constructor
  · rintro ⟨slot, config, sees⟩ early first middle second late place
    have whole : (run settings state steps).log =
        (early ++ .event index ⟨.live, first⟩ :: middle) ++
          .event index ⟨.live, second⟩ :: late := by
      simpa using place
    have loadedFirst : Loaded (history settings state steps index) first :=
      Pool.mem_eventsOf.mpr (by simp [place])
    have loadedSecond : Loaded (history settings state steps index) second :=
      Pool.mem_eventsOf.mpr (by simp [place])
    have same : first.slot = second.slot :=
      (sees.loads first loadedFirst).trans (sees.loads second loadedSecond).symm
    rw [(snapshots.loaded_built place).1, (snapshots.loaded_built whole).1, acceptedIn_append,
      ← List.singleton_append, acceptedIn_append] at same
    apply List.eq_nil_of_length_eq_zero
    simp only [List.length_append] at same
    omega
  · intro undisturbed
    have disciplined := run_disciplined settings state arrived
    by_cases loads : ∃ guard, Loaded (history settings state steps index) guard
    · rcases loads with ⟨guard, loaded⟩
      rcases place_of_loaded loaded with ⟨early, late, place⟩
      rcases snapshots.loaded_built place with ⟨-, live, built, same⟩
      refine ⟨guard.slot, _, SeesOne.of_loads disciplined built fun other loadedOther => ?_⟩
      have slot := slot_eq_of_undisturbed started undisturbed loadedOther loaded
      rcases place_of_loaded loadedOther with ⟨earlyOther, lateOther, placeOther⟩
      rcases snapshots.loaded_built placeOther with ⟨-, liveOther, builtOther, sameOther⟩
      have config := snapshots.configured placeOther
      rw [slot, snapshots.configured place, Option.some.injEq] at config
      rw [← config, built] at builtOther
      cases builtOther
      exact ⟨slot, sameOther⟩
    · rcases AppState.withPath_eq_ok started with ⟨live, built, -⟩
      exact ⟨0, cfg, SeesOne.of_loads disciplined built fun guard loaded =>
        absurd ⟨guard, loaded⟩ loads⟩

end Step

end

open Sample in
/-- A reload that takes the token out is accepted between the extraction of its
caller and the handler. -/
def overtakenSteps : List Step :=
  .arrive [] (request "GET" "/proxy/network/integration/v1/sites" receptionKey []) ::
    (List.replicate 4 (.advance 0 outside) ++
      .reload ⟨some revokedFile, []⟩ :: List.replicate 5 (.advance 0 outside))

open Sample in
abbrev overtakenHistory : History := Step.history settings state overtakenSteps 0

open Sample in
theorem Step.seesOne_iff_overtaken :
    (∃ slot config, SeesOne overtakenHistory slot config) ↔
      Undisturbed (some "config.toml") (Step.run settings state overtakenSteps).log 0 := by
  have arrived : (Step.requests overtakenSteps)[0]? = some
      ([], request "GET" "/proxy/network/integration/v1/sites" receptionKey []) := rfl
  exact Step.seesOne_iff settings started arrived

open Sample in
/-- The token is charged to a `Live` that does not know it, which admits it, and
the call goes to another controller with the key for that one. -/
theorem Step.overtaken_seesTwo :
    (¬∃ slot config, SeesOne overtakenHistory slot config) ∧
      reception ∉ revoked.tokens ∧
      overtakenHistory[6]?.bind charged? = some (1, "reception", true) ∧
      overtakenHistory[8]?.bind sent? =
        some (1, .get, "https://other.local/proxy/network/integration/v1/sites") := by
  have loads : (overtakenHistory[0]?.bind loaded?, overtakenHistory[5]?.bind loaded?) =
      (some 0, some 1) := by
    decide +kernel
  rcases Prod.mk.inj loads with ⟨extraction, handling⟩
  rcases loaded?_eq_some extraction with ⟨first, foundFirst, slotFirst⟩
  rcases loaded?_eq_some handling with ⟨second, foundSecond, slotSecond⟩
  refine ⟨?_, by decide, by decide +kernel, by decide +kernel⟩
  rintro ⟨slot, config, sees⟩
  have early := sees.loads first (List.mem_of_getElem? foundFirst)
  have late := sees.loads second (List.mem_of_getElem? foundSecond)
  omega

end VoucherProxy
