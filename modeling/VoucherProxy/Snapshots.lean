import VoucherProxy.Runs

namespace VoucherProxy

/-! Which configuration every `Live` was built from, over whole runs with any
number of reloads. -/

variable [Crates]

/-- The configuration a reload puts in force: what it finds loads and builds. -/
def Reload.accepted (path : Option String) (found : Reload) : Option Config :=
  match path with
  | none => none
  | some path =>
      match Config.load (some path) found.file found.environment with
      | .error _ => none
      | .ok cfg => if (Live.build cfg).isOk then some cfg else none

theorem Reload.accepted_eq_some {state : AppState} {found : Reload} {cfg : Config} :
    found.accepted state.configPath = some cfg ↔
      state.load found = .ok cfg ∧ ∃ live, Live.build cfg = .ok live := by
  have isOk : (Live.build cfg).isOk = true ↔ ∃ live, Live.build cfg = .ok live := by
    cases Live.build cfg <;> simp [Except.isOk, Except.toBool]
  unfold Reload.accepted AppState.load
  cases state.configPath with
  | none => simp
  | some path =>
      cases loaded : Config.load (some path) found.file found.environment with
      | error why => simp [loaded]
      | ok config =>
          simp only [loaded, Option.ite_none_right_eq_some, Option.some.injEq, Except.ok.injEq]
          constructor
          · rintro ⟨built, rfl⟩
            exact ⟨rfl, isOk.mp built⟩
          · rintro ⟨rfl, built⟩
            exact ⟨isOk.mpr built, rfl⟩

/-- A signal whose configuration is not accepted only counts; an accepted one
gets a `Live` of its own. -/
theorem AppState.sighup_accepted (state : AppState) (found : Reload) :
    (found.accepted state.configPath = none ∧
      state.sighup found = state.recordMetrics fun metrics => metrics.recordReload false) ∨
    ∃ cfg live, found.accepted state.configPath = some cfg ∧ Live.build cfg = .ok live ∧
      state.sighup found =
        (state.store live).recordMetrics fun metrics => metrics.recordReload true := by
  rcases state.sighup_cases found with ⟨refused, same⟩ | ⟨cfg, live, loaded, built, same⟩
  · refine .inl ⟨?_, same⟩
    rw [Option.eq_none_iff_forall_ne_some]
    intro cfg accepted
    rcases Reload.accepted_eq_some.mp accepted with ⟨loaded, live, built⟩
    exact refused cfg loaded live built
  · exact .inr ⟨cfg, live, Reload.accepted_eq_some.mpr ⟨loaded, live, built⟩, built, same⟩

abbrev Log := List (Occurrence Effect Answer Reload)

/-- The configurations that were put in force in the course of a log. -/
def acceptedIn (path : Option String) (log : Log) : List Config :=
  (Pool.moves log).filterMap (Reload.accepted path)

theorem acceptedIn_append (path : Option String) (left right : Log) :
    acceptedIn path (left ++ right) = acceptedIn path left ++ acceptedIn path right := by
  simp [acceptedIn]

/-- The configuration in force after a log: the last one accepted. -/
def inForce (path : Option String) (cfg : Config) (log : Log) : Config :=
  (acceptedIn path log).getLast?.getD cfg

/-- The newest of all configurations so far is the one in force. -/
theorem getElem?_acceptedIn (path : Option String) (cfg : Config) (log : Log) :
    (cfg :: acceptedIn path log)[(acceptedIn path log).length]? =
      some (inForce path cfg log) := by
  unfold inForce
  cases acceptedIn path log using List.reverseRecOn with
  | nil => rfl
  | append_singleton configs last => simp

variable {α : Type}

/-- Every slot holds a `Live` built from the configuration of that number, and
every guard holds the `Live` that was in force when it was loaded. -/
structure Snapshots (cfg : Config) (path : Option String)
    (pool : Pool Effect Answer AppState Reload α) : Prop where
  configPath : pool.state.configPath = path
  current : pool.state.current = (acceptedIn path pool.log).length
  built : ∀ slot config, (cfg :: acceptedIn path pool.log)[slot]? = some config →
    ∃ live, Live.build config = .ok live ∧ (pool.state.lives slot).Same live
  loaded : ∀ early index guard late, pool.log = early ++ .event index ⟨.live, guard⟩ :: late →
    guard.slot = (acceptedIn path early).length ∧
      (pool.state.lives guard.slot).Same guard.value

namespace Snapshots

variable {cfg : Config} {path : Option String}

theorem start {state : AppState} (started : AppState.withPath cfg path = .ok state) :
    Snapshots cfg path (Pool.start state : Pool Effect Answer AppState Reload α) := by
  rcases AppState.withPath_eq_ok started with ⟨live, built, current, lives, configPath⟩
  refine ⟨configPath, current, ?_, by simp [Pool.start]⟩
  intro slot config found
  cases slot with
  | zero =>
      cases found
      exact ⟨live, built, lives ▸ Live.Same.refl live⟩
  | succ slot => cases found

/-- What a log that grew by one entry says of a place in it. -/
theorem split_snoc {log early late : Log} {last occurrence : Occurrence Effect Answer Reload}
    (same : log ++ [last] = early ++ occurrence :: late) :
    (late = [] ∧ early = log ∧ occurrence = last) ∨
      ∃ front, log = early ++ occurrence :: front := by
  rcases List.eq_nil_or_concat late with rfl | ⟨front, final, rfl⟩
  · rcases List.append_inj' same rfl with ⟨rfl, single⟩
    cases single
    exact .inl ⟨rfl, rfl, rfl⟩
  · rw [List.concat_eq_append, ← List.cons_append, ← List.append_assoc] at same
    exact .inr ⟨front, (List.append_inj' same rfl).1⟩

theorem advance {pool : Pool Effect Answer AppState Reload α} (snapshots : Snapshots cfg path pool)
    (thread : Nat) (threads : List (Thread Effect Answer α)) (effect : Effect)
    (outside : Outside) :
    Snapshots cfg path
      { state := (pool.state.exec effect outside).2
        threads := threads
        log := pool.log ++ [.event thread ⟨effect, (pool.state.exec effect outside).1⟩] } := by
  rcases pool.state.exec_same effect outside with ⟨current, same⟩
  have unchanged : ∀ thread event,
      acceptedIn path (pool.log ++ [.event thread event]) = acceptedIn path pool.log := by
    intro thread event
    rw [acceptedIn_append]
    exact List.append_nil _
  refine ⟨(pool.state.configPath_exec effect outside).trans snapshots.configPath, ?_, ?_, ?_⟩
  · rw [unchanged]
    exact current.trans snapshots.current
  · intro slot config found
    rw [unchanged] at found
    rcases snapshots.built slot config found with ⟨live, built, own⟩
    exact ⟨live, built, (same slot).trans own⟩
  · intro early index guard late place
    rcases split_snoc place with ⟨-, rfl, newest⟩ | ⟨front, older⟩
    · cases effect with
      | live =>
          simp only [Occurrence.event.injEq, Event.mk.injEq, heq_eq_eq, true_and] at newest
          rw [newest.2]
          exact ⟨snapshots.current, Live.Same.refl _⟩
      | _ => simp at newest
    · rcases snapshots.loaded early index guard front older with ⟨slot, own⟩
      exact ⟨slot, (same guard.slot).trans own⟩

theorem sighup {pool : Pool Effect Answer AppState Reload α} (snapshots : Snapshots cfg path pool)
    (found : Reload) :
    Snapshots cfg path
      { pool with
        state := pool.state.sighup found
        log := pool.log ++ [.move found] } := by
  have grown : acceptedIn path (pool.log ++ [.move found]) =
      acceptedIn path pool.log ++ (found.accepted path).toList := by
    rw [acceptedIn_append]
    cases accepted : found.accepted path <;> simp [acceptedIn, accepted]
  have loaded : ∀ early index guard late,
      pool.log ++ [.move found] = early ++ .event index ⟨.live, guard⟩ :: late →
        guard.slot = (acceptedIn path early).length ∧
          ((pool.state.sighup found).lives guard.slot).Same guard.value := by
    intro early index guard late place
    rcases split_snoc place with ⟨-, -, newest⟩ | ⟨front, older⟩
    · cases newest
    · rcases snapshots.loaded early index guard front older with ⟨slot, own⟩
      have old : guard.slot ≤ pool.state.current := by
        rw [slot, snapshots.current, older, acceptedIn_append, List.length_append]
        exact Nat.le_add_right _ _
      rw [(pool.state.lives_sighup found old).1]
      exact ⟨slot, own⟩
  rcases pool.state.sighup_accepted found with ⟨refused, same⟩ |
    ⟨config, live, accepted, created, same⟩
  · rw [snapshots.configPath] at refused
    rw [refused, Option.toList_none, List.append_nil] at grown
    rw [same] at loaded ⊢
    refine ⟨snapshots.configPath, ?_, ?_, loaded⟩
    · rw [grown]
      exact snapshots.current
    · rw [grown]
      exact snapshots.built
  · rw [snapshots.configPath] at accepted
    rw [accepted, Option.toList_some] at grown
    rw [same] at loaded ⊢
    refine ⟨snapshots.configPath, ?_, ?_, loaded⟩
    · rw [grown, List.length_append]
      exact congrArg (· + 1) snapshots.current
    · intro slot other present
      rw [grown, ← List.cons_append] at present
      by_cases old : slot ≤ pool.state.current
      · rw [List.getElem?_append_left
          (by rw [List.length_cons, ← snapshots.current]; omega)] at present
        rw [← same, (pool.state.lives_sighup found old).1]
        exact snapshots.built slot other present
      · have within := (List.getElem?_eq_some_iff.mp present).1
        simp only [List.length_append, List.length_cons, List.length_nil,
          ← snapshots.current] at within
        have fresh : slot = pool.state.current + 1 := by omega
        subst fresh
        rw [List.getElem?_append_right (by rw [List.length_cons, ← snapshots.current]),
          List.length_cons, ← snapshots.current, Nat.sub_self] at present
        cases present
        refine ⟨live, created, ?_⟩
        simp only [AppState.recordMetrics, AppState.store, Function.update_self]
        exact Live.Same.refl live

theorem turn {pool : Pool Effect Answer AppState Reload α} (snapshots : Snapshots cfg path pool)
    (move : Turn Effect Answer Outside Reload α) :
    Snapshots cfg path (Pool.turn server pool move) := by
  rcases Pool.turn_cases server pool move with same | ⟨program, -, spawned⟩ |
    ⟨thread, outside, started, effect, next, -, -, advanced⟩ | ⟨found, -, moved⟩
  · rw [same]
    exact snapshots
  · rw [spawned]
    exact ⟨snapshots.configPath, snapshots.current, snapshots.built, snapshots.loaded⟩
  · rw [advanced]
    exact snapshots.advance thread _ effect outside
  · rw [moved]
    exact snapshots.sighup found

/-- In every run from a fresh start. -/
theorem run {state : AppState} (started : AppState.withPath cfg path = .ok state)
    (turns : List (Turn Effect Answer Outside Reload α)) :
    Snapshots cfg path (Pool.run server (Pool.start state) turns) :=
  Pool.run_induction (fun _ move _ snapshots => snapshots.turn move) (start started)
    fun _ _ => trivial

/-- The slot of a guard is the number of the configuration that was in force when
it was loaded. -/
theorem configured {pool : Pool Effect Answer AppState Reload α}
    (snapshots : Snapshots cfg path pool) {early late : Log} {index : Nat} {guard : Guard}
    (place : pool.log = early ++ .event index ⟨.live, guard⟩ :: late) :
    (cfg :: acceptedIn path pool.log)[guard.slot]? = some (inForce path cfg early) := by
  have slot := (snapshots.loaded early index guard late place).1
  rw [place, acceptedIn_append, ← List.cons_append, List.getElem?_append_left (by simp [slot]),
    slot, getElem?_acceptedIn]

/-- What a guard holds was built from the configuration that was in force when
the guard was loaded. -/
theorem loaded_built {pool : Pool Effect Answer AppState Reload α}
    (snapshots : Snapshots cfg path pool) {early late : Log} {index : Nat} {guard : Guard}
    (place : pool.log = early ++ .event index ⟨.live, guard⟩ :: late) :
    guard.slot = (acceptedIn path early).length ∧
      ∃ live, Live.build (inForce path cfg early) = .ok live ∧ guard.value.Same live := by
  rcases snapshots.loaded early index guard late place with ⟨slot, same⟩
  rcases snapshots.built guard.slot _ (snapshots.configured place) with ⟨live, built, own⟩
  exact ⟨slot, live, built, same.symm.trans own⟩

end Snapshots

end VoucherProxy
