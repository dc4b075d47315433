import Mathlib.Order.Basic
import VoucherProxy.Foundation.Likeness

namespace VoucherProxy

/-! Two runs side by side that are the same for some watched threads. The watched
threads are started with programs that match and are given the same turns; the other
threads run whatever they run, whenever they are given a turn. When no step of theirs
shows in the state as the watched threads find it, and every step of a watched thread
is answered alike in states that look alike, the watched threads cannot tell the two
runs apart. -/

variable {Effect : Type} {Answer : Effect → Type} {State Input Move α : Type}

namespace Pool

/-- The turns of two runs, with the number of threads started so far. -/
inductive Alongside (watched : Nat → Prop)
    (programs : Program Effect Answer α → Program Effect Answer α → Prop)
    (moves : Move → Move → Prop) :
    Nat → List (Turn Effect Answer Input Move α) → List (Turn Effect Answer Input Move α) → Prop
  | nil : Alongside watched programs moves 0 [] []
  | spawn {count turns twin program other} : Alongside watched programs moves count turns twin →
      (watched count → programs program other) →
      Alongside watched programs moves (count + 1) (turns ++ [.spawn program])
        (twin ++ [.spawn other])
  | advance {count turns twin thread input} : Alongside watched programs moves count turns twin →
      watched thread →
      Alongside watched programs moves count (turns ++ [.advance thread input])
        (twin ++ [.advance thread input])
  | move {count turns twin made other} : Alongside watched programs moves count turns twin →
      moves made other →
      Alongside watched programs moves count (turns ++ [.move made]) (twin ++ [.move other])
  | left {count turns twin thread input} : Alongside watched programs moves count turns twin →
      ¬ watched thread →
      Alongside watched programs moves count (turns ++ [.advance thread input]) twin
  | right {count turns twin thread input} : Alongside watched programs moves count turns twin →
      ¬ watched thread →
      Alongside watched programs moves count turns (twin ++ [.advance thread input])

/-- What a machine has to do for its watched threads: `alike now` says that from the
time `now` on they find the same in two states. -/
structure Unwinds {Time : Type} [Preorder Time]
    (machine : Machine Effect Answer State Input Move) (like : Likeness Effect Answer)
    (reading : Input → Time) (moves : Move → Move → Prop) (own foreign : Effect → Prop)
    (alike : Time → State → State → Prop) : Prop where
  later : ∀ {now later state twin}, alike now state twin → now ≤ later → alike later state twin
  own : ∀ {effect other input state twin}, own effect → like.effect effect other →
    alike (reading input) state twin →
      like.answer effect other (machine.exec effect input state).1
        (machine.exec other input twin).1 ∧
      alike (reading input) (machine.exec effect input state).2 (machine.exec other input twin).2
  left : ∀ {effect input now state twin}, foreign effect → reading input ≤ now →
    alike now state twin → alike now (machine.exec effect input state).2 twin
  right : ∀ {effect input now state twin}, foreign effect → reading input ≤ now →
    alike now state twin → alike now state (machine.exec effect input twin).2
  move : ∀ {made other now state twin}, moves made other → alike now state twin →
    alike now (machine.move made state) (machine.move other twin)

/-! ## A turn of a thread that is not watched -/

section

variable (machine : Machine Effect Answer State Input Move)
  (pool : Pool Effect Answer State Move α)

theorem length_advance (thread : Nat) (input : Input) :
    (turn machine pool (.advance thread input)).threads.length = pool.threads.length := by
  simp only [turn]
  split
  · exact List.length_set
  · rfl

/-- A turn of one thread leaves another where it was. -/
theorem turn_of_ne {thread index : Nat} (different : thread ≠ index) (input : Input) :
    (turn machine pool (.advance thread input)).threads[index]? = pool.threads[index]? ∧
      eventsOf index (turn machine pool (.advance thread input)).log =
        eventsOf index pool.log := by
  simp only [turn]
  split
  · refine ⟨List.getElem?_set_ne different, ?_⟩
    simp [different]
  · exact ⟨rfl, rfl⟩

/-- What a turn of a thread does to the state: nothing, or what an effect does that the
thread then has performed. -/
theorem state_advance (thread : Nat) (input : Input) :
    (turn machine pool (.advance thread input)).state = pool.state ∨
      ∃ event ∈ eventsOf thread (turn machine pool (.advance thread input)).log,
        (turn machine pool (.advance thread input)).state =
          (machine.exec event.effect input pool.state).2 := by
  simp only [turn]
  split
  · next started effect next _ =>
      exact .inr ⟨⟨effect, (machine.exec effect input pool.state).1⟩, by simp, rfl⟩
  · exact .inl rfl

end

/-! ## Two pools -/

/-- Two pools in which the watched threads stand at the same point. -/
structure Peers (like : Likeness Effect Answer) (value : α → α → Prop) (watched : Nat → Prop)
    (count : Nat) (pool twin : Pool Effect Answer State Move α) : Prop where
  length : pool.threads.length = count
  twinLength : twin.threads.length = count
  threads : ∀ index, watched index → ∀ thread other, pool.threads[index]? = some thread →
    twin.threads[index]? = some other → thread.rest.Matches like value other.rest
  events : ∀ index, watched index →
    List.Forall₂ like.Event (eventsOf index pool.log) (eventsOf index twin.log)

namespace Peers

variable {like : Likeness Effect Answer} {value : α → α → Prop} {watched : Nat → Prop}
  {count : Nat} {pool twin : Pool Effect Answer State Move α}
  (machine : Machine Effect Answer State Input Move)

/-- A watched thread has ended in both, with related values, or in neither. -/
theorem ended (peers : Peers like value watched count pool twin) {index : Nat}
    (isWatched : watched index) :
    Option.Rel value (pool.threads[index]?.bind fun thread => thread.rest.value?)
      (twin.threads[index]?.bind fun thread => thread.rest.value?) := by
  have lengths : pool.threads.length = twin.threads.length :=
    peers.length.trans peers.twinLength.symm
  rcases Nat.lt_or_ge index pool.threads.length with within | beyond
  · have found := List.getElem?_eq_getElem within
    have otherFound := List.getElem?_eq_getElem (lengths ▸ within)
    rw [found, otherFound]
    rcases (peers.threads index isWatched _ _ found otherFound).value? with
      ⟨none, otherNone⟩ | ⟨left, right, some, otherSome, related⟩
    · rw [Option.bind_some, Option.bind_some, none, otherNone]
      exact .none
    · rw [Option.bind_some, Option.bind_some, some, otherSome]
      exact .some related
  · rw [List.getElem?_eq_none beyond, List.getElem?_eq_none (lengths ▸ beyond)]
    exact .none

theorem same_end (peers : Peers like (· = ·) watched count pool twin) {index : Nat}
    (isWatched : watched index) :
    (pool.threads[index]?.bind fun thread => thread.rest.value?) =
      twin.threads[index]?.bind fun thread => thread.rest.value? := by
  have equal : ∀ {left right : Option α}, Option.Rel (· = ·) left right → left = right := by
    intro left right related
    cases related with
    | none => rfl
    | some same => exact congrArg some same
  exact equal (peers.ended isWatched)

theorem spawn (peers : Peers like value watched count pool twin)
    {program other : Program Effect Answer α}
    (matched : watched count → program.Matches like value other) :
    Peers like value watched (count + 1) (turn machine pool (.spawn program))
      (turn machine twin (.spawn other)) := by
  refine ⟨?_, ?_, ?_, peers.events⟩
  · simp [turn, peers.length]
  · simp [turn, peers.twinLength]
  · intro index isWatched thread otherThread found otherFound
    simp only [turn] at found otherFound
    rcases Nat.lt_trichotomy index count with old | rfl | beyond
    · rw [List.getElem?_append_left (by rw [peers.length]; exact old)] at found
      rw [List.getElem?_append_left (by rw [peers.twinLength]; exact old)] at otherFound
      exact peers.threads index isWatched thread otherThread found otherFound
    · rw [← peers.length, List.getElem?_concat_length, Option.some.injEq] at found
      have last : twin.threads.length = pool.threads.length := by
        rw [peers.length, peers.twinLength]
      rw [← peers.length, ← last, List.getElem?_concat_length, Option.some.injEq] at otherFound
      rw [← found, ← otherFound]
      exact matched isWatched
    · rw [List.getElem?_eq_none (by simp [peers.length]; omega)] at found
      cases found

theorem move (peers : Peers like value watched count pool twin) (made other : Move) :
    Peers like value watched count (turn machine pool (.move made))
      (turn machine twin (.move other)) := by
  refine ⟨peers.length, peers.twinLength, peers.threads, ?_⟩
  intro index isWatched
  simpa [turn] using peers.events index isWatched

theorem left (peers : Peers like value watched count pool twin) {thread : Nat}
    (unwatched : ¬ watched thread) (input : Input) :
    Peers like value watched count (turn machine pool (.advance thread input)) twin := by
  have unmoved := fun index (isWatched : watched index) =>
    turn_of_ne machine pool (fun own => unwatched (own ▸ isWatched) : thread ≠ index) input
  refine ⟨(length_advance machine pool thread input).trans peers.length, peers.twinLength, ?_, ?_⟩
  · intro index isWatched current other present otherPresent
    rw [(unmoved index isWatched).1] at present
    exact peers.threads index isWatched current other present otherPresent
  · intro index isWatched
    rw [(unmoved index isWatched).2]
    exact peers.events index isWatched

theorem right (peers : Peers like value watched count pool twin) {thread : Nat}
    (unwatched : ¬ watched thread) (input : Input) :
    Peers like value watched count pool (turn machine twin (.advance thread input)) := by
  have unmoved := fun index (isWatched : watched index) =>
    turn_of_ne machine twin (fun own => unwatched (own ▸ isWatched) : thread ≠ index) input
  refine ⟨peers.length, (length_advance machine twin thread input).trans peers.twinLength, ?_, ?_⟩
  · intro index isWatched current other present otherPresent
    rw [(unmoved index isWatched).1] at otherPresent
    exact peers.threads index isWatched current other present otherPresent
  · intro index isWatched
    rw [(unmoved index isWatched).2]
    exact peers.events index isWatched

variable {machine} in
/-- A watched thread does likewise in both runs. -/
theorem advance {Time : Type} [Preorder Time] {reading : Input → Time}
    {moves : Move → Move → Prop} {own foreign : Effect → Prop}
    {alike : Time → State → State → Prop}
    (unwinds : Unwinds machine like reading moves own foreign alike)
    (peers : Peers like value watched count pool twin) {thread : Nat} {input : Input}
    (owned : ∀ event ∈ eventsOf thread (turn machine pool (.advance thread input)).log,
      own event.effect)
    (states : alike (reading input) pool.state twin.state) (isWatched : watched thread) :
    Peers like value watched count (turn machine pool (.advance thread input))
        (turn machine twin (.advance thread input)) ∧
      alike (reading input) (turn machine pool (.advance thread input)).state
        (turn machine twin (.advance thread input)).state := by
  have bounds : pool.threads.length = twin.threads.length :=
    peers.length.trans peers.twinLength.symm
  cases found : pool.threads[thread]? with
  | none =>
      have absent : twin.threads[thread]? = none := by
        rw [List.getElem?_eq_none_iff] at found ⊢
        omega
      simp only [turn, found, absent]
      exact ⟨peers, states⟩
  | some current =>
      have within := (List.getElem?_eq_some_iff.mp found).1
      have otherFound := List.getElem?_eq_getElem (bounds ▸ within : thread < twin.threads.length)
      have matched := peers.threads thread isWatched _ _ found otherFound
      revert matched otherFound
      generalize twin.threads[thread] = other
      intro otherFound matched
      rcases current with ⟨started, rest⟩
      rcases other with ⟨otherStarted, otherRest⟩
      cases rest with
      | pure left =>
          cases otherRest with
          | perform effect next => exact matched.elim
          | pure right =>
              simp only [turn, found, otherFound]
              exact ⟨peers, states⟩
      | perform effect next =>
          cases otherRest with
          | pure right => exact matched.elim
          | perform otherEffect otherNext =>
              have isOwn : own effect := by
                apply owned ⟨effect, (machine.exec effect input pool.state).1⟩
                simp [turn, found]
              rcases unwinds.own isOwn matched.1 states with ⟨answers, kept⟩
              simp only [turn, found, otherFound]
              refine ⟨⟨?_, ?_, ?_, ?_⟩, kept⟩
              · simp [peers.length]
              · simp [peers.twinLength]
              · intro index indexWatched now later present otherPresent
                by_cases same : thread = index
                · subst same
                  rw [List.getElem?_set_self within, Option.some.injEq] at present
                  rw [List.getElem?_set_self (bounds ▸ within), Option.some.injEq] at otherPresent
                  rw [← present, ← otherPresent]
                  exact matched.2 _ _ answers
                · rw [List.getElem?_set_ne same] at present otherPresent
                  exact peers.threads index indexWatched now later present otherPresent
              · intro index indexWatched
                by_cases same : thread = index
                · subst same
                  simp only [eventsOf_append, eventsOf_event, if_true]
                  exact List.rel_append (peers.events thread indexWatched)
                    (.cons ⟨matched.1, answers⟩ .nil)
                · simpa [same] using peers.events index indexWatched

end Peers

/-! ## Whole runs -/

variable {machine : Machine Effect Answer State Input Move} {like : Likeness Effect Answer}
  {value : α → α → Prop} {watched : Nat → Prop}

theorem mem_eventsOf_append {pool : Pool Effect Answer State Move α} {thread : Nat}
    {event : Event Effect Answer} {turns : List (Turn Effect Answer Input Move α)}
    (member : event ∈ eventsOf thread pool.log) :
    event ∈ eventsOf thread (run machine pool turns).log := by
  rcases exists_log_append machine pool turns with ⟨later, grown⟩
  rw [grown, eventsOf_append]
  exact List.mem_append_left _ member

/-- What a run has to be for its threads to unwind: its inputs come in order, its watched
threads keep to their own effects and the others to foreign ones. -/
structure Orderly {Time : Type} [Preorder Time]
    (machine : Machine Effect Answer State Input Move) (reading : Input → Time)
    (own foreign : Effect → Prop) (watched : Nat → Prop) (state : State)
    (turns : List (Turn Effect Answer Input Move α)) : Prop where
  ordered : (turns.filterMap input?).Pairwise fun early late => reading early ≤ reading late
  own : ∀ index, watched index →
    ∀ event ∈ eventsOf index (run machine (start state) turns).log, own event.effect
  foreign : ∀ index, ¬ watched index →
    ∀ event ∈ eventsOf index (run machine (start state) turns).log, foreign event.effect

theorem Orderly.init {Time : Type} [Preorder Time] {reading : Input → Time}
    {own foreign : Effect → Prop} {state : State}
    {early late : List (Turn Effect Answer Input Move α)}
    (orderly : Orderly machine reading own foreign watched state (early ++ late)) :
    Orderly machine reading own foreign watched state early where
  ordered := by
    have ordered := orderly.ordered
    rw [List.filterMap_append] at ordered
    exact (List.pairwise_append.mp ordered).1
  own index isWatched event member := by
    apply orderly.own index isWatched
    rw [run_append]
    exact mem_eventsOf_append member
  foreign index unwatched event member := by
    apply orderly.foreign index unwatched
    rw [run_append]
    exact mem_eventsOf_append member

/-- Every input of the turns was read no later than at some time. -/
def Until {Time : Type} [Preorder Time] (reading : Input → Time) (now : Time)
    (turns : List (Turn Effect Answer Input Move α)) : Prop :=
  ∀ input ∈ turns.filterMap input?, reading input ≤ now

theorem until_append {Time : Type} [Preorder Time] {reading : Input → Time} {now : Time}
    {early late : List (Turn Effect Answer Input Move α)} :
    Until reading now (early ++ late) ↔ Until reading now early ∧ Until reading now late := by
  simp [Until, List.filterMap_append, or_imp, forall_and]

/-- What was read before the last input of a run in order. -/
theorem Orderly.until_last {Time : Type} [Preorder Time] {reading : Input → Time}
    {own foreign : Effect → Prop} {state : State}
    {turns : List (Turn Effect Answer Input Move α)} {thread : Nat} {input : Input}
    (orderly : Orderly machine reading own foreign watched state
      (turns ++ [.advance thread input])) : Until reading (reading input) turns := by
  have ordered := orderly.ordered
  rw [List.filterMap_append] at ordered
  intro early member
  exact (List.pairwise_append.mp ordered).2.2 early member input (by simp [input?])

/-- Two runs alongside each other are the same for the watched threads. -/
theorem Alongside.peers {Time : Type} [Preorder Time] {reading : Input → Time}
    {moves : Move → Move → Prop} {own foreign : Effect → Prop}
    {alike : Time → State → State → Prop}
    (unwinds : Unwinds machine like reading moves own foreign alike) {state twinState : State}
    (initial : ∀ now, alike now state twinState) {count : Nat}
    {turns twin : List (Turn Effect Answer Input Move α)}
    (along : Alongside watched (Program.Matches like value) moves count turns twin)
    (orderly : Orderly machine reading own foreign watched state turns)
    (twinOrderly : Orderly machine reading own foreign watched twinState twin) :
    Peers like value watched count (run machine (start state) turns)
        (run machine (start twinState) twin) ∧
      ∀ now, Until reading now turns → Until reading now twin →
        alike now (run machine (start state) turns).state
          (run machine (start twinState) twin).state := by
  induction along with
  | nil =>
      refine ⟨⟨rfl, rfl, ?_, fun _ _ => .nil⟩, fun now _ _ => initial now⟩
      intro index _ thread other found
      cases found
  | spawn _ matched induction =>
      rcases induction orderly.init twinOrderly.init with ⟨peers, states⟩
      rw [run_append, run_append]
      refine ⟨peers.spawn machine matched, fun now before twinBefore => ?_⟩
      exact states now (until_append.mp before).1 (until_append.mp twinBefore).1
  | @advance count turns twin thread input _ isWatched induction =>
      rcases induction orderly.init twinOrderly.init with ⟨peers, states⟩
      have current := states (reading input) orderly.until_last twinOrderly.until_last
      have owned := orderly.own thread isWatched
      rw [run_append] at owned
      rw [run_append, run_append]
      rcases peers.advance unwinds owned current isWatched with ⟨next, kept⟩
      refine ⟨next, fun now before _ => unwinds.later kept ?_⟩
      exact (until_append.mp before).2 input (by simp [input?])
  | move _ related induction =>
      rcases induction orderly.init twinOrderly.init with ⟨peers, states⟩
      rw [run_append, run_append]
      refine ⟨peers.move machine _ _, fun now before twinBefore => unwinds.move related ?_⟩
      exact states now (until_append.mp before).1 (until_append.mp twinBefore).1
  | @left count turns twin thread input _ unwatched induction =>
      rcases induction orderly.init twinOrderly with ⟨peers, states⟩
      have others := orderly.foreign thread unwatched
      rw [run_append, run_cons, run_nil] at others
      rw [run_append, run_cons, run_nil]
      refine ⟨peers.left machine unwatched input, fun now before twinBefore => ?_⟩
      rcases until_append.mp before with ⟨earlier, last⟩
      have current := states now earlier twinBefore
      have read : reading input ≤ now := last input (by simp [input?])
      rcases state_advance machine (run machine (start state) turns) thread input with
        same | ⟨event, member, changed⟩
      · rw [same]
        exact current
      · rw [changed]
        exact unwinds.left (others event member) read current
  | @right count turns twin thread input _ unwatched induction =>
      rcases induction orderly twinOrderly.init with ⟨peers, states⟩
      have others := twinOrderly.foreign thread unwatched
      rw [run_append, run_cons, run_nil] at others
      rw [run_append machine (start twinState), run_cons, run_nil]
      refine ⟨peers.right machine unwatched input, fun now before twinBefore => ?_⟩
      rcases until_append.mp twinBefore with ⟨earlier, last⟩
      have current := states now before earlier
      have read : reading input ≤ now := last input (by simp [input?])
      rcases state_advance machine (run machine (start twinState) twin) thread input with
        same | ⟨event, member, changed⟩
      · rw [same]
        exact current
      · rw [changed]
        exact unwinds.right (others event member) read current

/-! ## Two runs in step -/

/-- Turns of which every thread is watched. -/
inductive Alike (programs : Program Effect Answer α → Program Effect Answer α → Prop)
    (moves : Move → Move → Prop) :
    Turn Effect Answer Input Move α → Turn Effect Answer Input Move α → Prop
  | spawn {program other} : programs program other → Alike programs moves (.spawn program)
      (.spawn other)
  | advance (thread : Nat) (input : Input) : Alike programs moves (.advance thread input)
      (.advance thread input)
  | move {made other} : moves made other → Alike programs moves (.move made) (.move other)

theorem Alongside.of_alike {programs : Program Effect Answer α → Program Effect Answer α → Prop}
    {moves : Move → Move → Prop} {turns twin : List (Turn Effect Answer Input Move α)}
    (all : List.Forall₂ (Alike programs moves) turns twin) :
    ∃ count, Alongside (fun _ => True) programs moves count turns twin := by
  suffices onward : ∀ {count early twinEarly},
      Alongside (fun _ => True) programs moves count early twinEarly →
        ∃ count, Alongside (fun _ => True) programs moves count (early ++ turns)
          (twinEarly ++ twin) from onward .nil
  induction all with
  | nil =>
      intro count early twinEarly along
      exact ⟨count, by simpa using along⟩
  | cons first _ induction =>
      intro count early twinEarly along
      rw [List.append_cons, List.append_cons twinEarly]
      cases first with
      | spawn related => exact induction (along.spawn fun _ => related)
      | advance thread input => exact induction (along.advance trivial)
      | move related => exact induction (along.move related)

/-- What a machine has to do for runs in step to stay alike. -/
structure Lockstep (machine : Machine Effect Answer State Input Move)
    (like : Likeness Effect Answer) (moves : Move → Move → Prop)
    (alike : State → State → Prop) : Prop where
  step : ∀ {effect other input state twin}, like.effect effect other → alike state twin →
    like.answer effect other (machine.exec effect input state).1
        (machine.exec other input twin).1 ∧
      alike (machine.exec effect input state).2 (machine.exec other input twin).2
  move : ∀ {made other state twin}, moves made other → alike state twin →
    alike (machine.move made state) (machine.move other twin)

/-- Two runs in step are the same for every thread, and end in states that are alike. -/
theorem Lockstep.peers {moves : Move → Move → Prop} {alike : State → State → Prop}
    (lockstep : Lockstep machine like moves alike) {state twinState : State}
    (initial : alike state twinState) {turns twin : List (Turn Effect Answer Input Move α)}
    (all : List.Forall₂ (Alike (Program.Matches like value) moves) turns twin) :
    (∃ count, Peers like value (fun _ => True) count (run machine (start state) turns)
      (run machine (start twinState) twin)) ∧
      alike (run machine (start state) turns).state
        (run machine (start twinState) twin).state := by
  have unwinds : Unwinds machine like (fun _ : Input => ()) moves (fun _ => True)
      (fun _ => False) (fun _ => alike) :=
    { later := fun same _ => same
      own := fun _ related same => lockstep.step related same
      left := fun isForeign => isForeign.elim
      right := fun isForeign => isForeign.elim
      move := fun related same => lockstep.move related same }
  have orderly : ∀ {state : State} {turns : List (Turn Effect Answer Input Move α)},
      Orderly machine (fun _ : Input => ()) (fun _ => True) (fun _ => False) (fun _ => True)
        state turns := by
    intro state turns
    refine ⟨?_, fun _ _ _ _ => trivial, fun _ unwatched => absurd trivial unwatched⟩
    exact List.pairwise_of_forall fun _ _ => le_refl ()
  rcases Alongside.of_alike all with ⟨count, along⟩
  rcases along.peers unwinds (fun _ => initial) orderly orderly with ⟨peers, states⟩
  exact ⟨⟨count, peers⟩, states () (fun _ _ => le_refl ()) (fun _ _ => le_refl ())⟩

end Pool

end VoucherProxy
