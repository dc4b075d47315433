import VoucherProxy.Sample

namespace VoucherProxy

/-! The authentication cache is transparent and bounded: whatever number of
threads authenticate, and however they are interleaved, each gets what a scan
without a cache returns. -/

section

variable [Crates]

/-! ## Without a cache -/

/-- The smallest position whose hash verifies the string. -/
def FirstMatch (tokens : List TokenConfig) (presented : String) (position : Nat) : Prop :=
  (∃ token, tokens[position]? = some token ∧ token.verifies presented = true) ∧
    ∀ earlier < position, ∀ token, tokens[earlier]? = some token →
      token.verifies presented = false

theorem findIdx?_eq_some_iff_firstMatch {tokens : List TokenConfig} {presented : String}
    {position : Nat} :
    (tokens.findIdx? fun token => token.verifies presented) = some position ↔
      FirstMatch tokens presented position := by
  rw [List.findIdx?_eq_some_iff_getElem]
  constructor
  · rintro ⟨within, verified, first⟩
    refine ⟨⟨_, List.getElem?_eq_getElem within, verified⟩, ?_⟩
    intro earlier before token found
    rcases List.getElem?_eq_some_iff.mp found with ⟨_, rfl⟩
    simpa using first earlier before
  · rintro ⟨⟨token, found, verified⟩, first⟩
    rcases List.getElem?_eq_some_iff.mp found with ⟨within, rfl⟩
    refine ⟨within, verified, fun earlier before => ?_⟩
    simp [first earlier before _ (List.getElem?_eq_getElem (before.trans within))]

/-- What a scan without a cache returns. -/
structure Cacheless (tokens : List TokenConfig) (presented : String)
    (found : Option TokenConfig) : Prop where
  some_iff : ∀ token, found = some token ↔ presented ≠ "" ∧
    ∃ position, FirstMatch tokens presented position ∧ tokens[position]? = some token
  none_iff : found = none ↔
    presented = "" ∨ ∀ token ∈ tokens, token.verifies presented = false

theorem cacheless_recognise {tokens : List TokenConfig} {auth : Authenticator}
    (created : Authenticator.new tokens = .ok auth) (presented : String) :
    Cacheless tokens presented (Authenticator.recognise auth.tokens presented) := by
  cases empty : presented.isEmpty with
  | true =>
      have isEmpty : presented = "" := by simpa using empty
      subst isEmpty
      exact ⟨by simp [Authenticator.recognise], by simp [Authenticator.recognise]⟩
  | false =>
      have nonempty : presented ≠ "" := by
        rintro rfl
        cases empty
      rw [Authenticator.recognise_new created empty]
      refine ⟨fun token => ?_, ?_⟩
      · rw [List.find?_eq_bind_findIdx?_getElem?, Option.bind_eq_some_iff]
        simp only [findIdx?_eq_some_iff_firstMatch, nonempty, ne_eq, not_false_eq_true, true_and]
      · simp [nonempty]

/-! ## Any number of calls -/

/-- A call begins, or one of the calls does its next step. -/
inductive AuthStep
  | arrive (text : String)
  | advance (index : Nat) (outside : Outside)

namespace AuthStep

def authenticate (presented : String) : Call (Option TokenConfig) := do
  let guard ← Call.live
  guard.authenticate presented

def turn : AuthStep → Turn Effect Answer Outside Reload (Option TokenConfig)
  | .arrive text => .spawn (authenticate text)
  | .advance index outside => .advance index outside

/-- The strings presented, in the order of the calls. -/
def calls (steps : List AuthStep) : List String :=
  steps.filterMap fun
    | .arrive text => some text
    | .advance _ _ => none

/-- A server with one `Live` that nobody has used yet. -/
def fresh (live : Live) : AppState := ⟨fun _ => live, 0, {}, none⟩

def run (live : Live) (steps : List AuthStep) :
    Pool Effect Answer AppState Reload (Option TokenConfig) :=
  Pool.run server (Pool.start (fresh live)) (steps.map turn)

def cache (live : Live) (steps : List AuthStep) : AuthCache :=
  ((run live steps).state.lives 0).auth.cache

abbrev presented (steps : List AuthStep) : Set String := { text | text ∈ calls steps }

theorem filterMap_spawned? (steps : List AuthStep) :
    (steps.map turn).filterMap Pool.spawned? = (calls steps).map authenticate := by
  induction steps with
  | nil => rfl
  | cons step steps induction =>
      cases step with
      | arrive text => exact congrArg (_ :: ·) induction
      | advance index outside => exact induction

theorem authenticate_obeys {texts : Set String} {text : String} (member : text ∈ texts)
    {history : History} :
    (authenticate text).Obeys (caching texts)
      (fun later found => ∃ guard, Loaded later guard ∧ Found later guard text found)
      history := by
  apply Program.Obeys.request_bind trivial
  intro guard
  have loaded : Loaded (history ++ [⟨.live, guard⟩]) guard :=
    List.mem_append_right _ (List.mem_singleton_self _)
  have obeys : (guard.authenticate text).Obeys (caching texts)
      (fun later found => Found later guard text found) (history ++ [⟨.live, guard⟩]) :=
    Discipline.authenticate_obeys ⟨guard, loaded, rfl⟩ fun _ _ within nonempty scanned =>
      ⟨guard, text, within loaded, rfl, member, nonempty, rfl, scanned⟩
  apply obeys.weaken
  exact fun later found within held => ⟨guard, within loaded, held⟩

theorem authenticate_returnsWithin (text : String) :
    (authenticate text).ReturnsWithin 3 := by
  intro guard
  change (guard.authenticate text).ReturnsWithin 2
  unfold Guard.authenticate
  split
  · trivial
  · intro answer
    cases answer with
    | some position => trivial
    | none =>
        cases Authenticator.scan guard.value.auth.tokens text with
        | none => trivial
        | some position => exact fun _ => trivial

/-! ## What every run keeps -/

theorem run_same (live : Live) (steps : List AuthStep) :
    (run live steps).state.current = 0 ∧ ((run live steps).state.lives 0).Same live := by
  have keeps : ∀ (pool : Pool Effect Answer AppState Reload (Option TokenConfig))
      (move : Turn Effect Answer Outside Reload (Option TokenConfig)),
      Pool.made? move = none →
      pool.state.current = 0 ∧ (pool.state.lives 0).Same live →
      (Pool.turn server pool move).state.current = 0 ∧
        ((Pool.turn server pool move).state.lives 0).Same live := by
    intro pool move quiet held
    rcases Pool.turn_cases server pool move with same | ⟨program, -, spawned⟩ |
      ⟨thread, input, started, effect, next, -, -, advanced⟩ | ⟨made, rfl, -⟩
    · rw [same]
      exact held
    · rw [spawned]
      exact held
    · rw [advanced]
      rcases pool.state.exec_same effect input with ⟨current, fixed⟩
      exact ⟨current.trans held.1, (fixed 0).trans held.2⟩
    · cases quiet
  apply Pool.run_induction keeps ⟨rfl, Live.Same.refl live⟩
  intro move member
  rcases List.mem_map.mp member with ⟨step, -, rfl⟩
  cases step <;> rfl

omit [Crates] in
theorem mem_calls {steps : List AuthStep} {text : String} (member : .arrive text ∈ steps) :
    text ∈ calls steps :=
  List.mem_filterMap.mpr ⟨_, member, rfl⟩

theorem run_sound {tokens : List TokenConfig} {live : Live}
    (created : Authenticator.new tokens = .ok live.auth) (steps : List AuthStep) :
    Pool.Sound (caching (presented steps)) (CachesJustified (presented steps))
      (Remembered (presented steps)) (run live steps) := by
  apply Pool.run_sound (server_fulfils _)
  · intro slot _
    change Authenticator.Justified (presented steps) live.auth.tokens live.auth.cache
    rw [Authenticator.cache_new created]
    exact Authenticator.justified_empty _ _
  · intro move member
    rcases List.mem_map.mp member with ⟨step, present, rfl⟩
    cases step with
    | arrive text => exact (authenticate_obeys (mem_calls present)).weaken fun _ _ _ _ => trivial
    | advance index outside => trivial

/-- Every entry of the cache is the digest of a string that was presented, with
the smallest position it verifies at. -/
theorem firstMatch_of_cached {tokens : List TokenConfig} {live : Live}
    (created : Authenticator.new tokens = .ok live.auth) {steps : List AuthStep}
    {digest : Digest} {position : Nat}
    (cached : (cache live steps).lookup digest = some position) :
    ∃ text ∈ calls steps, text ≠ "" ∧ Credentials.sha256 text = digest ∧
      FirstMatch tokens text position := by
  rcases (run_sound created steps).state 0 (Nat.zero_le _) digest position cached with
    ⟨text, member, nonempty, digested, scanned⟩
  rw [(run_same live steps).2.tokens, Authenticator.scan_new created] at scanned
  refine ⟨text, member, ?_, digested, findIdx?_eq_some_iff_firstMatch.mp scanned⟩
  rintro rfl
  cases nonempty

/-- A call that returned found what a scan finds. -/
theorem cacheless_of_returned {tokens : List TokenConfig} {live : Live}
    (created : Authenticator.new tokens = .ok live.auth) {steps : List AuthStep}
    (collisionFree : Set.InjOn Credentials.sha256 (presented steps)) {index : Nat} {text : String}
    {found : Option TokenConfig} (member : text ∈ calls steps)
    (trace : (authenticate text).Trace (Pool.eventsOf index (run live steps).log)
      (.pure found)) : Cacheless tokens text found := by
  have fresh : (authenticate text).Obeys (caching (presented steps))
      (fun later found => ∃ guard, Loaded later guard ∧ Found later guard text found) [] :=
    authenticate_obeys member
  have obeys := fresh.along trace
  rcases obeys.1 with ⟨guard, loaded, held⟩
  have sound := run_sound created steps
  have remembered := sound.recorded index
  have slot := ((remembered _ loaded).loaded guard rfl).1
  have same := ((remembered _ loaded).loaded guard rfl).2
  rw [(run_same live steps).1, Nat.le_zero] at slot
  rw [slot] at same
  rw [held.eq_recognise collisionFree member remembered loaded, ← same.tokens,
    (run_same live steps).2.tokens]
  exact cacheless_recognise created text

/-- A call that was given its three steps has returned, and what a call returned
is what a scan finds. -/
theorem returned_of_called {tokens : List TokenConfig} {live : Live}
    (created : Authenticator.new tokens = .ok live.auth) {steps : List AuthStep}
    (collisionFree : Set.InjOn Credentials.sha256 (presented steps)) {index : Nat} {text : String}
    (called : (calls steps)[index]? = some text) :
    ∃ rest, (run live steps).threads[index]? = some ⟨authenticate text, rest⟩ ∧
      (3 ≤ (Pool.eventsOf index (run live steps).log).length → ∃ found, rest = .pure found) ∧
      ∀ found, rest = .pure found → Cacheless tokens text found := by
  have spawned : ((steps.map turn).filterMap Pool.spawned?)[index]? =
      some (authenticate text) := by
    rw [filterMap_spawned?, List.getElem?_map, called]
    rfl
  rcases Pool.thread_of_spawned server (fresh live) spawned with ⟨rest, present⟩
  have trace := (Pool.run_follows (fresh live) (steps.map turn)).1 index _ present
  refine ⟨rest, present, trace.returned (authenticate_returnsWithin text), ?_⟩
  rintro found rfl
  exact cacheless_of_returned created collisionFree (List.mem_of_getElem? called) trace

/-! ## The cache makes no difference -/

/-- What a run of calls may not show of the cache. -/
structure Transparent (tokens : List TokenConfig) (live : Live) (steps : List AuthStep) :
    Prop where
  /-- A call that was given its three steps has returned, and one that has
  returned found what a scan finds. -/
  returned : ∀ index text, (calls steps)[index]? = some text →
    ∃ rest, (run live steps).threads[index]? = some ⟨authenticate text, rest⟩ ∧
      (3 ≤ (Pool.eventsOf index (run live steps).log).length → ∃ found, rest = .pure found) ∧
      ∀ found, rest = .pure found → Cacheless tokens text found
  entries : ∀ digest position, (cache live steps).lookup digest = some position →
    ∃ text ∈ calls steps, text ≠ "" ∧ Credentials.sha256 text = digest ∧
      FirstMatch tokens text position
  failing : ∀ text ∈ calls steps,
    (text = "" ∨ ∀ token ∈ tokens, token.verifies text = false) →
      (cache live steps).lookup (Credentials.sha256 text) = none
  bounded : (∀ token ∈ tokens, ∀ text other, token.verifies text = true →
    token.verifies other = true → text = other) →
      (cache live steps).entries.length ≤ tokens.length

/-- No position is cached twice when no hash verifies two strings. -/
theorem length_entries_le {tokens : List TokenConfig} {live : Live}
    (created : Authenticator.new tokens = .ok live.auth) (steps : List AuthStep)
    (single : ∀ token ∈ tokens, ∀ text other, token.verifies text = true →
      token.verifies other = true → text = other) :
    (cache live steps).entries.length ≤ tokens.length := by
  have firstMatch : ∀ entry ∈ (cache live steps).entries,
      ∃ text, Credentials.sha256 text = entry.1 ∧ FirstMatch tokens text entry.2 := by
    intro entry member
    rcases firstMatch_of_cached created (AList.mem_lookup_iff.mpr member) with
      ⟨text, -, -, digest, first⟩
    exact ⟨text, digest, first⟩
  have distinct : ((cache live steps).entries.map fun entry => entry.2).Nodup := by
    apply List.Nodup.map_on _ (List.Nodup.of_map Sigma.fst (cache live steps).nodupKeys)
    intro left leftMember right rightMember same
    rcases firstMatch left leftMember with ⟨text, digest, ⟨token, found, verified⟩, -⟩
    rcases firstMatch right rightMember with
      ⟨other, otherDigest, ⟨otherToken, otherFound, otherVerified⟩, -⟩
    rw [same, otherFound, Option.some.injEq] at found
    subst found
    have sameText := single _ (List.mem_of_getElem? otherFound) text other verified otherVerified
    rcases left with ⟨leftDigest, leftPosition⟩
    rcases right with ⟨rightDigest, rightPosition⟩
    simp only at same digest otherDigest
    rw [← digest, ← otherDigest, sameText, same]
  have within : ((cache live steps).entries.map fun entry => entry.2) ⊆
      List.range tokens.length := by
    intro position member
    rcases List.mem_map.mp member with ⟨entry, present, rfl⟩
    rcases firstMatch entry present with ⟨_, _, ⟨token, found, _⟩, _⟩
    exact List.mem_range.mpr (List.getElem?_eq_some_iff.mp found).1
  simpa using (distinct.subperm within).length_le

/-- However many calls there are and however their steps are interleaved, the
cache makes no difference to what they find, and holds nothing but matches. -/
theorem transparent {tokens : List TokenConfig} {live : Live}
    (created : Authenticator.new tokens = .ok live.auth) {steps : List AuthStep}
    (collisionFree : Set.InjOn Credentials.sha256 (presented steps)) :
    Transparent tokens live steps where
  returned := fun _ _ => returned_of_called created collisionFree
  entries := fun _ _ => firstMatch_of_cached created
  failing := by
    intro text member fails
    rcases Option.eq_none_or_eq_some ((cache live steps).lookup (Credentials.sha256 text)) with
      absent | ⟨position, cached⟩
    · exact absent
    · rcases firstMatch_of_cached created cached with
        ⟨other, otherMember, nonempty, digest, ⟨token, found, verified⟩, -⟩
      rw [collisionFree otherMember member digest] at nonempty verified
      rcases fails with empty | none
      · exact absurd empty nonempty
      · rw [none token (List.mem_of_getElem? found)] at verified
        cases verified
  bounded := length_entries_le created steps

end AuthStep

end

open Sample in
/-- Two calls with the same token look it up before either has inserted it, and a
third presents something else. -/
def rivals : List AuthStep :=
  [.arrive receptionKey, .arrive receptionKey, .arrive "stranger", .advance 0 outside,
    .advance 1 outside, .advance 0 outside, .advance 1 outside, .advance 2 outside,
    .advance 0 outside, .advance 1 outside, .advance 2 outside]

open Sample in
/-- The names the calls found, and how much is cached. -/
def rivalsFound : List (Option (Option String)) × Nat :=
  ((AuthStep.run (state.lives 0) rivals).threads.map fun thread =>
      thread.rest.value?.map fun found => found.map (·.name),
    (AuthStep.cache (state.lives 0) rivals).entries.length)

open Sample in
theorem AuthStep.transparent_rivals :
    rivalsFound = ([some (some "reception"), some (some "reception"), some none], 1) ∧
      AuthStep.Transparent [reception, lobby] (state.lives 0) rivals := by
  have digests : ∀ left ∈ AuthStep.calls rivals, ∀ right ∈ AuthStep.calls rivals,
      Credentials.sha256 left = Credentials.sha256 right → left = right := by
    decide
  refine ⟨by decide +kernel, AuthStep.transparent rfl ?_⟩
  exact fun left called right alsoCalled => digests left called right alsoCalled

end VoucherProxy
