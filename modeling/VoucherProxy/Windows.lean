import VoucherProxy.Charges
import VoucherProxy.Foundation.Pacing
import VoucherProxy.Foundation.Timeline
import VoucherProxy.Quotas
import VoucherProxy.Reloading

namespace VoucherProxy

/-! What the quota of a name bounds within a window of time: the charges granted on
one `Live`, and through them the calls to the controller. -/

section

variable [Crates]

/-- A charge to a name: on which `Live`, when, and with what verdict. -/
structure TimedCharge where
  slot : Nat
  clock : Nat
  granted : Bool

def timedCharge? (name : String) : Outside × Event Effect Answer → Option TimedCharge
  | (outside, ⟨.check slot token, granted⟩) =>
      if token.name = name then some ⟨slot, outside.clock, granted⟩ else none
  | _ => none

/-- The charges on one `Live`. -/
def chargesOn (slot : Nat) (charges : List TimedCharge) : List TimedCharge :=
  charges.filter fun charge => charge.slot = slot

omit [Crates] in
theorem chargesOn_append (slot : Nat) (early late : List TimedCharge) :
    chargesOn slot (early ++ late) = chargesOn slot early ++ chargesOn slot late :=
  List.filter_append ..

/-! ## The limiters of a name -/

/-- The limiters of a name, one in every slot, are where the charges so far have
left them, and gave the verdicts that were recorded. -/
structure Metered (name : String) (n : NonZeroU32) (state : AppState)
    (charges : List TimedCharge) : Prop where
  limiter : ∀ slot, (state.lives slot).rate.limiters.lookup name =
    some (after Governor.check (Governor.direct n) ((chargesOn slot charges).map TimedCharge.clock))
  verdicts : ∀ slot, (chargesOn slot charges).map TimedCharge.granted =
    verdicts Governor.check (Governor.direct n) ((chargesOn slot charges).map TimedCharge.clock)
  placed : ∀ charge ∈ charges, charge.slot ≤ state.current

theorem AppState.lives_withPath {cfg : Config} {path : Option String} {state : AppState}
    (started : AppState.withPath cfg path = .ok state) (slot : Nat) :
    Live.build cfg = .ok (state.lives slot) := by
  rcases bind_eq_ok.mp started with ⟨live, built, made⟩
  rcases Except.ok.inj made with rfl
  exact built

/-- A `Live` that was just built has a fresh limiter for the name. -/
theorem Live.lookup_of_build {cfg : Config} {live : Live} (built : Live.build cfg = .ok live)
    {name : String} {n : NonZeroU32}
    (quota : RateLimits.quotaFor cfg.limits cfg.tokens name = some n) :
    live.rate.limiters.lookup name = some (Governor.direct n) := by
  rw [(Live.build_eq_ok.mp built).2.2.2.1, RateLimits.lookup_fromConfig, quota]
  rfl

/-- Only a charge moves a limiter. -/
theorem AppState.limiters_exec (state : AppState) {effect : Effect} (outside : Outside)
    (quiet : ∀ slot token, effect ≠ .check slot token) (slot : Nat) :
    ((state.exec effect outside).2.lives slot).rate.limiters =
      (state.lives slot).rate.limiters := by
  have updated : ∀ (own : Nat) (live : Live),
      live.rate.limiters = (state.lives own).rate.limiters →
      ((state.modify own live).lives slot).rate.limiters = (state.lives slot).rate.limiters := by
    intro own live same
    by_cases here : slot = own
    · rw [here, lives_modify_self, same]
    · rw [lives_modify_ne state live here]
  cases effect with
  | checkIp own ip =>
      apply updated
      unfold RateLimits.checkIp
      cases (state.lives own).rate.perIp <;> rfl
  | cacheInsert own key position => exact updated own _ rfl
  | check own token => exact absurd rfl (quiet own token)
  | _ => rfl

namespace Metered

variable {name : String} {n : NonZeroU32} {state : AppState} {charges : List TimedCharge}

theorem start {cfg : Config} {path : Option String}
    (started : AppState.withPath cfg path = .ok state)
    (quota : RateLimits.quotaFor cfg.limits cfg.tokens name = some n) :
    Metered name n state [] where
  limiter slot := Live.lookup_of_build (AppState.lives_withPath started slot) quota
  verdicts _ := rfl
  placed := by simp

/-- A step that leaves the limiters of the name alone. -/
theorem keep (metered : Metered name n state charges) {later : AppState}
    (same : ∀ slot, (later.lives slot).rate.limiters.lookup name =
      (state.lives slot).rate.limiters.lookup name)
    (current : state.current ≤ later.current) : Metered name n later charges where
  limiter slot := (same slot).trans (metered.limiter slot)
  verdicts := metered.verdicts
  placed charge member := (metered.placed charge member).trans current

/-- A charge to the name. -/
theorem charge (metered : Metered name n state charges) {slot : Nat} {token : TokenConfig}
    (named : token.name = name) (outside : Outside) (within : slot ≤ state.current) :
    Metered name n (state.exec (.check slot token) outside).2
      (charges ++ [⟨slot, outside.clock, (state.exec (.check slot token) outside).1⟩]) := by
  have found := metered.limiter slot
  rw [← named] at found
  rcases RateLimits.check_of_lookup found outside.clock with ⟨verdict, moved⟩
  rw [named] at moved
  have own : ∀ other granted, chargesOn other (charges ++ [⟨slot, outside.clock, granted⟩]) =
      chargesOn other charges ++ if slot = other then [⟨slot, outside.clock, granted⟩] else [] := by
    intro other granted
    rw [chargesOn_append]
    by_cases here : slot = other <;> simp [chargesOn, here]
  refine ⟨fun other => ?_, fun other => ?_, fun charge member => ?_⟩
  · change ((state.modify slot _).lives other).rate.limiters.lookup name = _
    rw [own]
    by_cases here : slot = other
    · subst here
      rw [AppState.lives_modify_self, if_pos rfl, List.map_append]
      exact moved.trans (congrArg some (after_snoc ..).symm)
    · rw [AppState.lives_modify_ne state _ (Ne.symm here), if_neg here, List.append_nil]
      exact metered.limiter other
  · rw [own]
    by_cases here : slot = other
    · subst here
      rw [if_pos rfl, List.map_append, List.map_append, verdicts_append, metered.verdicts slot]
      exact congrArg (_ ++ [·]) verdict
    · rw [if_neg here, List.append_nil]
      exact metered.verdicts other
  · rcases List.mem_append.mp member with old | new
    · exact metered.placed charge old
    · rw [List.mem_singleton.mp new]
      exact within

/-- A signal brings a fresh limiter, or none. -/
theorem sighup (metered : Metered name n state charges) {found : Reload}
    (quota : ∀ cfg, found.accepted state.configPath = some cfg →
      RateLimits.quotaFor cfg.limits cfg.tokens name = some n) :
    Metered name n (state.sighup found) charges := by
  rcases state.sighup_accepted found with ⟨-, same⟩ | ⟨cfg, live, accepted, built, same⟩
  · rw [same]
    exact metered.keep (fun _ => rfl) le_rfl
  have uncharged : chargesOn (state.current + 1) charges = [] := by
    apply List.filter_eq_nil_iff.mpr
    intro charge member
    have placed := metered.placed charge member
    simp only [decide_eq_true_eq]
    omega
  have replaced : ∀ slot, (state.sighup found).lives slot =
      if slot = state.current + 1 then live else state.lives slot := by
    intro slot
    rw [same]
    exact Function.update_apply ..
  refine ⟨fun slot => ?_, metered.verdicts, fun charge member => ?_⟩
  · rw [replaced]
    split
    next fresh =>
      rw [fresh, uncharged]
      exact Live.lookup_of_build built (quota cfg accepted)
    next => exact metered.limiter slot
  · rw [same]
    exact (metered.placed charge member).trans (Nat.le_succ _)

/-- Any step of a request. -/
theorem exec (metered : Metered name n state charges) (effect : Effect) (outside : Outside)
    (within : ∀ slot token, effect = .check slot token → slot ≤ state.current) :
    Metered name n (state.exec effect outside).2
      (charges ++ (timedCharge? name (outside, ⟨effect, (state.exec effect outside).1⟩)).toList) := by
  have current := (state.exec_same effect outside).1.ge
  cases effect with
  | check slot token =>
      by_cases named : token.name = name
      · rw [timedCharge?, if_pos named]
        exact metered.charge named outside (within slot token rfl)
      · rw [timedCharge?, if_neg named, Option.toList_none, List.append_nil]
        apply metered.keep _ current
        intro other
        change ((state.modify slot _).lives other).rate.limiters.lookup name = _
        by_cases here : other = slot
        · rw [here, AppState.lives_modify_self]
          exact RateLimits.lookup_check_of_ne _ named _
        · rw [AppState.lives_modify_ne state _ here]
  | _ =>
      rw [timedCharge?, Option.toList_none, List.append_nil]
      · apply metered.keep _ current
        intro slot
        rw [state.limiters_exec outside (by simp)]
      all_goals simp

end Metered

/-! ## Runs -/

variable [Framework] [GraphQlEngine]

namespace Step

/-- The readings of the clock in the course of a run. -/
def clocks (steps : List Step) : List Nat :=
  steps.filterMap fun
    | .advance _ outside => some outside.clock
    | _ => none

/-- The charges to a name while a system takes some steps. -/
def chargesDuring (settings : RouterSettings) (system : System) (steps : List Step)
    (name : String) : List TimedCharge :=
  (Pool.timeline server system (steps.map (turn settings))).filterMap (timedCharge? name)

/-- The charges to a name in the course of a run. -/
abbrev chargesIn (settings : RouterSettings) (state : AppState) (steps : List Step)
    (name : String) : List TimedCharge :=
  chargesDuring settings (Pool.start state) steps name

theorem chargesIn_append (settings : RouterSettings) (state : AppState) (early late : List Step)
    (name : String) :
    chargesIn settings state (early ++ late) name =
      chargesIn settings state early name ++
        chargesDuring settings (run settings state early) late name := by
  rw [chargesIn, chargesDuring, List.map_append, Pool.timeline_append, List.filterMap_append]
  rfl

theorem clocks_eq_inputs (settings : RouterSettings) (steps : List Step) :
    ((steps.map (turn settings)).filterMap Pool.input?).map Outside.clock = clocks steps := by
  induction steps with
  | nil => rfl
  | cons step steps induction =>
      cases step with
      | arrive schedule request => exact induction
      | advance index outside => exact congrArg (outside.clock :: ·) induction
      | reload found => exact induction

/-- Whatever is picked from a run with its reading of the clock is in the order of the clock. -/
theorem clocks_picked {β : Type} (settings : RouterSettings) (system : System)
    (steps : List Step) {pick : Outside × Event Effect Answer → Option β} {clock : β → Nat}
    (picked : ∀ happened charge, pick happened = some charge →
      clock charge = happened.1.clock) :
    (((Pool.timeline server system (steps.map (turn settings))).filterMap pick).map clock).Sublist
      (clocks steps) := by
  rw [← clocks_eq_inputs settings]
  apply (sublist_of_picked picked _).trans
  have inputs : (((Pool.timeline server system (steps.map (turn settings))).map
      Prod.fst).map Outside.clock).Sublist _ := (Pool.inputs_timeline _ _).map _
  rwa [List.map_map] at inputs

/-- Charges are made in the order of the clock. -/
theorem clocks_chargesDuring (settings : RouterSettings) (system : System) (steps : List Step)
    (name : String) :
    ((chargesDuring settings system steps name).map TimedCharge.clock).Sublist (clocks steps) := by
  apply clocks_picked
  rintro ⟨outside, effect, answer⟩ charge charged
  cases effect with
  | check slot token =>
      rcases Option.ite_none_right_eq_some.mp charged with ⟨-, made⟩
      rw [← Option.some.inj made]
  | _ => cases charged

theorem logged_grants (settings : RouterSettings) (state : AppState) (steps : List Step)
    (name : String) :
    Pool.logged (grants name) (run settings state steps).log =
      (chargesIn settings state steps name).countP TimedCharge.granted := by
  have counted : ∀ events : List (Outside × Event Effect Answer),
      (events.map fun event => grants name event.2).sum =
        (events.filterMap (timedCharge? name)).countP TimedCharge.granted := by
    intro events
    induction events with
    | nil => rfl
    | cons first events induction =>
        rcases first with ⟨outside, effect, answer⟩
        rw [List.map_cons, List.sum_cons, induction]
        cases effect with
        | check slot token =>
            by_cases named : token.name = name
            · have charged : timedCharge? name (outside, ⟨.check slot token, answer⟩) =
                  some ⟨slot, outside.clock, answer⟩ := if_pos named
              rw [List.filterMap_cons_some charged, List.countP_cons, grants, if_pos named,
                Nat.add_comm]
              cases answer <;> rfl
            · have uncharged : timedCharge? name (outside, ⟨.check slot token, answer⟩) = none :=
                if_neg named
              rw [List.filterMap_cons_none uncharged, grants, if_neg named, Nat.zero_add]
        | _ => exact Nat.zero_add _
  have logged := Pool.logged_timeline server (grants name) (Pool.start state)
    (steps.map (turn settings))
  rw [counted] at logged
  exact logged.trans (Nat.zero_add _)

variable {settings : RouterSettings} {cfg : Config} {path : Option String} {state : AppState}

/-- A `Live` that a request holds was put in force before. -/
theorem slot_le_current_of_loaded (started : AppState.withPath cfg path = .ok state)
    {steps : List Step} {index : Nat} {guard : Guard}
    (loaded : Loaded (history settings state steps index) guard) :
    guard.slot ≤ (run settings state steps).state.current := by
  rcases place_of_loaded loaded with ⟨early, late, place⟩
  have snapshots := Snapshots.run started (steps.map (turn settings))
  have current := snapshots.current
  have placed := (snapshots.loaded early index guard late place).1
  change (run settings state steps).state.current = _ at current
  rw [current, placed]
  change _ ≤ (acceptedIn path (run settings state steps).log).length
  rw [place, acceptedIn_append, List.length_append]
  exact Nat.le_add_right _ _

/-- What a request is about to do is permitted by what it has seen. -/
theorem about_permitted {steps : List Step} {index : Nat} {program : Call Response}
    {effect : Effect} {next : Answer effect → Call Response}
    (found : (run settings state steps).threads[index]? =
      some ⟨program, .perform effect next⟩) :
    ∃ request, (discipline (presented steps) request).permits
      (history settings state steps index) effect := by
  have within := (List.getElem?_eq_some_iff.mp found).1
  rw [length_threads, ← Finset.mem_range] at within
  rcases arrived_of_mem_range within with ⟨schedule, request, arrived⟩
  rcases thread_of_request settings state arrived with ⟨rest, same⟩
  rw [found] at same
  cases same
  have trace := (Pool.run_follows state (steps.map (turn settings))).1 index _ found
  have keeps : (Routes.serve settings schedule request).Keeps
      (discipline (presented steps) request) [] :=
    Discipline.of_guarded (Guarded.serve settings schedule) fun text found =>
      ⟨_, List.mem_of_getElem? arrived, found⟩
  exact ⟨request, (keeps.along trace).1.1⟩

/-- A request charges on a `Live` that was put in force before. -/
theorem slot_le_current (started : AppState.withPath cfg path = .ok state) {steps : List Step}
    {index : Nat} {program : Call Response} {slot : Nat} {token : TokenConfig}
    {next : Bool → Call Response}
    (found : (run settings state steps).threads[index]? =
      some ⟨program, .perform (.check slot token) next⟩) :
    slot ≤ (run settings state steps).state.current := by
  rcases about_permitted found with ⟨request, ⟨guard, loaded, rfl⟩, -⟩
  exact slot_le_current_of_loaded started loaded

/-- The configurations that are in force in the course of a run. -/
def configurations (cfg : Config) (path : Option String) (steps : List Step) : List Config :=
  cfg :: (reloads steps).filterMap (Reload.accepted path)

omit [Framework] [GraphQlEngine] in
theorem configurations_append (cfg : Config) (path : Option String) (early late : List Step) :
    configurations cfg path (early ++ late) =
      configurations cfg path early ++ (reloads late).filterMap (Reload.accepted path) := by
  rw [configurations, reloads, List.filterMap_append, List.filterMap_append]
  rfl

/-- What a reload puts in force is a configuration of the run. -/
theorem accepted_mem (started : AppState.withPath cfg path = .ok state) {steps : List Step}
    {step : Step} {signal : Reload} (signals : turn settings step = .move signal) {config : Config}
    (accepted : signal.accepted (run settings state steps).state.configPath = some config) :
    config ∈ configurations cfg path (steps ++ [step]) := by
  have configPath : (run settings state steps).state.configPath = path :=
    (Snapshots.run started (steps.map (turn settings))).configPath
  rw [configPath] at accepted
  rw [configurations_append]
  apply List.mem_append_right
  cases step with
  | arrive schedule request => cases signals
  | advance index outside => cases signals
  | reload found =>
      cases signals
      exact List.mem_filterMap.mpr ⟨signal, List.mem_singleton_self _, accepted⟩

/-- What holds at the start, and is kept by every event that happens and by every reload that
brings a configuration of the run, holds of the state and of what has happened. -/
theorem run_timeline (started : AppState.withPath cfg path = .ok state)
    {holds : AppState → List (Outside × Event Effect Answer) → Prop} {steps : List Step}
    (start : holds state [])
    (exec : ∀ (early : List Step) (index : Nat) (program : Call Response) (effect : Effect)
      (next : Answer effect → Call Response) (outside : Outside)
      (happened : List (Outside × Event Effect Answer)),
      (run settings state early).threads[index]? = some ⟨program, .perform effect next⟩ →
      holds (run settings state early).state happened →
        holds ((run settings state early).state.exec effect outside).2
          (happened ++
            [(outside, ⟨effect, ((run settings state early).state.exec effect outside).1⟩)]))
    (sighup : ∀ (later : AppState) happened (signal : Reload),
      (∀ config, signal.accepted later.configPath = some config →
        config ∈ configurations cfg path steps) →
      holds later happened → holds (later.sighup signal) happened) :
    holds (run settings state steps).state
      (Pool.timeline server (Pool.start state) (steps.map (turn settings))) := by
  induction steps using List.reverseRecOn with
  | nil => exact start
  | append_singleton steps step induction =>
      have before := induction fun later happened signal within =>
        sighup later happened signal fun config accepted => by
          rw [configurations_append]
          exact List.mem_append_left _ (within config accepted)
      rw [run_append, List.map_append, Pool.timeline_append, List.map_singleton, Pool.run_cons,
        Pool.run_nil, Pool.timeline, Pool.timeline, List.append_nil]
      change holds (Pool.turn server (run settings state steps) (turn settings step)).state
        (_ ++ (Pool.happens? server (run settings state steps) (turn settings step)).toList)
      rcases Pool.state_turn_cases server (run settings state steps) (turn settings step) with
        ⟨index, outside, program, effect, next, -, found, happens, moved⟩ |
        ⟨quiet, same | ⟨signal, signals, moved⟩⟩
      · rw [happens, moved]
        exact exec steps index program effect next outside _ found before
      · rw [quiet, same, Option.toList_none, List.append_nil]
        exact before
      · rw [quiet, moved, Option.toList_none, List.append_nil]
        exact sighup _ _ signal (fun config => accepted_mem started signals) before

/-- In every run in which every configuration gives the name this quota. -/
theorem metered (started : AppState.withPath cfg path = .ok state) {name : String}
    {n : NonZeroU32} {steps : List Step}
    (quotas : ∀ config ∈ configurations cfg path steps,
      RateLimits.quotaFor config.limits config.tokens name = some n) :
    Metered name n (run settings state steps).state (chargesIn settings state steps name) := by
  apply @run_timeline _ _ _ settings cfg path state started
    (fun later happened => Metered name n later (happened.filterMap (timedCharge? name)))
  case start => exact .start started (quotas cfg List.mem_cons_self)
  case exec =>
    intro early index program effect next outside happened found metered
    have single : ∀ event, [event].filterMap (timedCharge? name) =
        (timedCharge? name event).toList := by
      intro event
      rw [List.filterMap_cons]
      cases timedCharge? name event <;> rfl
    rw [List.filterMap_append, single]
    apply metered.exec effect outside
    intro slot token same
    subst same
    exact slot_le_current started found
  case sighup =>
    intro later happened signal within metered
    exact metered.sighup fun config accepted => quotas config (within config accepted)

/-- The name belongs to one entry, whose effective limit this is. -/
def Limited (name : String) (n : NonZeroU32) (config : Config) : Prop :=
  ∃ token ∈ config.tokens, token.name = name ∧
    (∀ other ∈ config.tokens, other.name = name → other = token) ∧
    token.effectiveRateLimit config.limits = n.val

omit [Crates] [Framework] [GraphQlEngine] in
theorem Limited.quotaFor {name : String} {n : NonZeroU32} {config : Config}
    (limited : Limited name n config) :
    RateLimits.quotaFor config.limits config.tokens name = some n := by
  rcases limited with ⟨token, member, rfl, unique, limit⟩
  rw [RateLimits.quotaFor_of_unique config.limits member unique, limit,
    NonZeroU32.new_of_ne n.property]

/-- The steps take no longer than this, in seconds. -/
def Within (seconds : ℚ) (steps : List Step) : Prop :=
  ∃ first : Nat, ∀ clock ∈ clocks steps,
    first ≤ clock ∧ (clock : ℚ) ≤ first + seconds * 1000000000

section

variable {name : String} {n : NonZeroU32} {early middle : List Step}

/-- The charges on one `Live` in a part of a run get the verdicts of the algorithm,
from whatever state it was in. -/
theorem verdicts_during (gcra : Governor.ImplementsGcra Crates.toGovernor)
    (started : AppState.withPath cfg path = .ok state)
    (limited : ∀ config ∈ configurations cfg path (early ++ middle), Limited name n config)
    (ordered : (clocks (early ++ middle)).Pairwise (· ≤ ·)) (slot : Nat) :
    ∃ arrival,
      (chargesOn slot (chargesDuring settings (run settings state early) middle name)).map
          TimedCharge.granted =
        verdicts (Governor.perMinute n).check arrival
          (((chargesOn slot (chargesDuring settings (run settings state early) middle name)).map
            TimedCharge.clock).map (Nat.cast : Nat → ℚ)) := by
  have metered : Metered name n (run settings state (early ++ middle)).state _ :=
    metered started fun config member => (limited config member).quotaFor
  have whole := metered.verdicts slot
  have times : ((chargesOn slot (chargesIn settings state (early ++ middle) name)).map
      TimedCharge.clock).Pairwise (· ≤ ·) :=
    ordered.sublist ((List.filter_sublist.map _).trans
      (clocks_chargesDuring settings (Pool.start state) (early ++ middle) name))
  rw [gcra n _ times, chargesIn_append, chargesOn_append, List.map_append, List.map_append,
    List.map_append, verdicts_append] at whole
  exact ⟨_, (List.append_inj whole (by simp [length_verdicts])).2⟩

/-- On one `Live` a name is granted no more charges within some time than its
limit and what is refilled meanwhile. -/
theorem granted_le (gcra : Governor.ImplementsGcra Crates.toGovernor)
    (started : AppState.withPath cfg path = .ok state)
    (limited : ∀ config ∈ configurations cfg path (early ++ middle), Limited name n config)
    (ordered : (clocks (early ++ middle)).Pairwise (· ≤ ·)) {seconds : ℚ} (nonneg : 0 ≤ seconds)
    (within : Within seconds middle) {slot : Nat}
    (one : ∀ charge ∈ chargesDuring settings (run settings state early) middle name,
      charge.granted = true → charge.slot = slot) :
    ((chargesDuring settings (run settings state early) middle name).countP TimedCharge.granted
      : ℚ) ≤ n.val.toNat + n.val.toNat * seconds / 60 := by
  rcases within with ⟨first, within⟩
  rcases @verdicts_during _ _ _ settings _ _ _ _ _ _ _ gcra started limited ordered slot with
    ⟨arrival, granted⟩
  have readings : ((chargesOn slot (chargesDuring settings (run settings state early) middle
      name)).map TimedCharge.clock).Sublist (clocks middle) :=
    (List.filter_sublist.map _).trans (clocks_chargesDuring _ _ middle name)
  have late : ((clocks middle).map (Nat.cast : Nat → ℚ)).Pairwise (· ≤ ·) := by
    apply RateLimits.pairwise_cast
    rw [clocks, List.filterMap_append] at ordered
    exact (List.pairwise_append.mp ordered).2.1
  have bound := (Governor.perMinute n).admitted_le_window arrival (late.sublist (readings.map _))
    (le_add_of_nonneg_right (mul_nonneg nonneg (by norm_num : (0 : ℚ) ≤ 1000000000))) (by
      intro time member
      rcases List.mem_map.mp member with ⟨clock, present, rfl⟩
      have reading := within clock (readings.subset present)
      exact ⟨Nat.cast_le.mpr reading.1, reading.2⟩)
  have counted : (chargesDuring settings (run settings state early) middle name).countP
      TimedCharge.granted =
        ((chargesOn slot (chargesDuring settings (run settings state early) middle name)).map
          TimedCharge.granted).count true := by
    rw [List.count, List.countP_map, chargesOn, List.countP_filter]
    apply List.countP_congr
    intro charge member
    have here := one charge member
    cases verdict : charge.granted <;> simp_all
  rw [admitted, ← granted, ← counted] at bound
  refine bound.trans (le_of_eq ?_)
  have positive : (n.val.toNat : ℚ) ≠ 0 := Nat.cast_ne_zero.mpr n.toNat_pos.ne'
  simp only [Governor.perMinute]
  field_simp
  ring

/-- Within a time in which all charges of a name are granted on one `Live`, and at
whose beginning no charge of it is in hand, the calls on its behalf are bounded by
its limit and what is refilled meanwhile. -/
theorem calls_le (gcra : Governor.ImplementsGcra Crates.toGovernor)
    (started : AppState.withPath cfg path = .ok state)
    (limited : ∀ config ∈ configurations cfg path (early ++ middle), Limited name n config)
    (ordered : (clocks (early ++ middle)).Pairwise (· ≤ ·)) {seconds : ℚ} (nonneg : 0 ≤ seconds)
    (within : Within seconds middle) (settled : Settled settings state early name) {slot : Nat}
    (one : ∀ charge ∈ chargesDuring settings (run settings state early) middle name,
      charge.granted = true → charge.slot = slot) :
    (calls settings state (early ++ middle) name : ℚ) ≤
      calls settings state early name + (n.val.toNat + n.val.toNat * seconds / 60) := by
  have grown : ∃ later, (run settings state (early ++ middle)).log =
      (run settings state early).log ++ later := by
    rw [run_append]
    exact Pool.exists_log_append ..
  rcases grown with ⟨later, whole⟩
  have paid := calls_le_logged settled whole
  have granted := logged_grants settings state (early ++ middle) name
  rw [whole, Pool.logged_append, chargesIn_append, List.countP_append,
    logged_grants settings state early name] at granted
  rw [Nat.add_left_cancel granted] at paid
  calc (calls settings state (early ++ middle) name : ℚ)
      ≤ calls settings state early name +
          (chargesDuring settings (run settings state early) middle name).countP
            TimedCharge.granted := by exact_mod_cast paid
    _ ≤ _ := by
      have bound := granted_le gcra started limited ordered nonneg within one
      linarith

end

end Step

end

/-! ## One configuration after itself -/

section

open Sample

/-- A listing of the sites, run to its end. -/
def sitesSteps (index : Nat) : List Step :=
  .arrive [] (request "GET" "/proxy/network/integration/v1/sites" receptionKey []) ::
    List.replicate 15 (.advance index outside)

/-- Two listings, a signal that reads the same file, and two more. -/
def renewedSteps : List Step :=
  sitesSteps 0 ++ sitesSteps 1 ++ .reload ⟨some cfgFile, []⟩ :: sitesSteps 2 ++ sitesSteps 3

theorem limited_reception : Step.Limited "reception" ⟨2, by decide⟩ cfg :=
  ⟨reception, by decide, rfl, by decide, by decide⟩

theorem Step.calls_le_sites :
    (calls settings state ([] ++ sitesSteps 0) "reception" : ℚ) ≤
      calls settings state [] "reception" + ((2 : UInt32).toNat + (2 : UInt32).toNat * 0 / 60) := by
  have granted : ∀ charge ∈ chargesDuring settings (run settings state []) (sitesSteps 0) "reception",
      charge.granted = true → charge.slot = 0 := by
    decide +kernel
  apply @calls_le crates framework engine settings cfg (some "config.toml") state "reception"
    ⟨2, by decide⟩ [] (sitesSteps 0) Governor.reference_implementsGcra started _ (by decide +kernel)
    0 le_rfl ⟨0, by decide +kernel⟩ _ 0 granted
  · intro config member
    have same : configurations cfg (some "config.toml") ([] ++ sitesSteps 0) = [cfg] := rfl
    rw [same, List.mem_singleton] at member
    rw [member]
    exact limited_reception
  · intro index thread found
    cases found

/-- The signal puts a second `Live` in force, with a fresh limiter: the name makes
four calls at once on a limit of two. -/
theorem Step.renewed_quota :
    AppState.withPath cfg (some "config.toml") = .ok state ∧
    (∀ config ∈ configurations cfg (some "config.toml") renewedSteps,
      Limited "reception" ⟨2, by decide⟩ config) ∧
    (clocks renewedSteps).Pairwise (· ≤ ·) ∧ Within 0 renewedSteps ∧
    ¬ (calls settings state renewedSteps "reception" : ℚ) ≤
      (2 : UInt32).toNat + (2 : UInt32).toNat * 0 / 60 := by
  have accepted : configurations cfg (some "config.toml") renewedSteps = [cfg, cfg] := by
    have read : Config.load (some "config.toml") (some cfgFile) [] = .ok cfg :=
      Config.load_eq_ok.mpr ⟨fun _ => rfl, if_pos rfl, Config.validate_eq_ok.mp rfl⟩
    have loads : state.load ⟨some cfgFile, []⟩ = .ok cfg := by
      simp only [AppState.load, state, read]
    have found : Reload.accepted state.configPath ⟨some cfgFile, []⟩ = some cfg :=
      Reload.accepted_eq_some.mpr ⟨loads, _, AppState.lives_withPath started 0⟩
    exact congrArg (cfg :: ·) (List.filterMap_cons_some found)
  have sent : ∀ index < 4, total attempts (history settings state renewedSteps index) = 1 := by
    decide +kernel
  have charged : ∀ index < 4, ((history settings state renewedSteps index).filterMap
      charged?).map (·.2.1) = ["reception"] := by
    decide +kernel
  have borne : ∀ index ∈ Finset.range 4,
      (bearer? settings state renewedSteps index).map Caller.name = some "reception" := by
    intro index member
    have within := Finset.mem_range.mp member
    have named : "reception" ∈ ((history settings state renewedSteps index).filterMap
        charged?).map (·.2.1) := by
      rw [charged index within]
      exact List.mem_singleton_self _
    rcases List.mem_map.mp named with ⟨charge, present, same⟩
    rcases List.mem_filterMap.mp present with ⟨⟨effect, answer⟩, happened, isCharge⟩
    cases effect with
    | check slot token =>
        rw [named_of_charged within happened, ← same, ← Option.some.inj isCharge]
    | _ => cases isCharge
  have made : calls settings state renewedSteps "reception" = 4 := by
    change ∑ index ∈ Finset.range 4, _ = 4
    rw [Finset.sum_congr rfl fun index member =>
      (if_pos (borne index member)).trans (sent index (Finset.mem_range.mp member))]
    rfl
  refine ⟨started, ?_, by decide +kernel, ⟨0, by decide +kernel⟩, ?_⟩
  · intro config member
    rw [accepted] at member
    rcases List.mem_cons.mp member with rfl | again
    · exact limited_reception
    · rw [List.mem_singleton.mp again]
      exact limited_reception
  · rw [made]
    decide +kernel

end

end VoucherProxy
