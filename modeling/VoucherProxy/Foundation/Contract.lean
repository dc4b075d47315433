import VoucherProxy.Foundation.Pool

namespace VoucherProxy

/-! Contracts on programs. A contract says which effects a program may perform
after what has happened to it so far. Programs that keep a contract can be put
together, run side by side, and run in a pool. -/

structure Contract (Effect : Type) (Answer : Effect → Type) where
  permits : List (Event Effect Answer) → Effect → Prop
  /-- Nothing is forbidden by what else has happened. -/
  permits_mono : ∀ {history later effect}, history ⊆ later →
    permits history effect → permits later effect

variable {Effect : Type} {Answer : Effect → Type} {α β : Type}

namespace Program

/-- After `history`, every effect of the program is permitted and every value
it returns satisfies `result`, whatever the answers. -/
def Obeys (contract : Contract Effect Answer) (result : List (Event Effect Answer) → α → Prop) :
    List (Event Effect Answer) → Program Effect Answer α → Prop
  | history, .pure value => result history value
  | history, .perform effect next =>
      contract.permits history effect ∧ ∀ answer,
        (next answer).Obeys contract result (history ++ [⟨effect, answer⟩])

variable {contract : Contract Effect Answer}
  {result : List (Event Effect Answer) → α → Prop}
  {history later : List (Event Effect Answer)}

@[simp] theorem obeys_pure (value : α) :
    (Program.pure value : Program Effect Answer α).Obeys contract result history ↔
      result history value := Iff.rfl

@[simp] theorem obeys_perform (effect : Effect)
    (next : Answer effect → Program Effect Answer α) :
    (Program.perform effect next).Obeys contract result history ↔
      contract.permits history effect ∧ ∀ answer,
        (next answer).Obeys contract result (history ++ [⟨effect, answer⟩]) := Iff.rfl

theorem Obeys.request_bind {effect : Effect} {rest : Answer effect → Program Effect Answer α}
    (permitted : contract.permits history effect)
    (next : ∀ answer, (rest answer).Obeys contract result (history ++ [⟨effect, answer⟩])) :
    (request effect >>= rest).Obeys contract result history :=
  ⟨permitted, next⟩

/-- A result that more history does not spoil. -/
def Lasting (result : List (Event Effect Answer) → α → Prop) : Prop :=
  ∀ {history later value}, history ⊆ later → result history value → result later value

theorem Obeys.mono {program : Program Effect Answer α} (lasting : Lasting result)
    (obeys : program.Obeys contract result history) (within : history ⊆ later) :
    program.Obeys contract result later := by
  induction program generalizing history later with
  | pure value => exact lasting within obeys
  | perform effect next induction =>
      refine ⟨contract.permits_mono within obeys.1, fun answer => ?_⟩
      apply induction answer (obeys.2 answer)
      exact List.append_subset.mpr
        ⟨List.Subset.trans within (List.subset_append_left _ _), List.subset_append_right _ _⟩

theorem Obeys.weaken {program : Program Effect Answer α}
    {weaker : List (Event Effect Answer) → α → Prop}
    (obeys : program.Obeys contract result history)
    (implies : ∀ later value, history ⊆ later → result later value → weaker later value) :
    program.Obeys contract weaker history := by
  induction program generalizing history with
  | pure value => exact implies history value (List.Subset.refl _) obeys
  | perform effect next induction =>
      refine ⟨obeys.1, fun answer => ?_⟩
      apply induction answer (obeys.2 answer)
      intro later value within held
      exact implies later value (List.Subset.trans (List.subset_append_left _ _) within) held

theorem Obeys.bind {program : Program Effect Answer α}
    {rest : α → Program Effect Answer β} {final : List (Event Effect Answer) → β → Prop}
    (first : program.Obeys contract result history)
    (second : ∀ later value, history ⊆ later → result later value →
      (rest value).Obeys contract final later) :
    (program >>= rest).Obeys contract final history := by
  induction program generalizing history with
  | pure value => exact second history value (List.Subset.refl _) first
  | perform effect next induction =>
      refine ⟨first.1, fun answer => ?_⟩
      apply induction answer (first.2 answer)
      intro later value within held
      exact second later value (List.Subset.trans (List.subset_append_left _ _) within) held

/-- A program that obeys a stricter contract obeys a laxer one. -/
theorem Obeys.relax {laxer : Contract Effect Answer} {program : Program Effect Answer α}
    (obeys : program.Obeys contract result history)
    (permits : ∀ {later effect}, history ⊆ later → contract.permits later effect →
      laxer.permits later effect) :
    program.Obeys laxer result history := by
  induction program generalizing history with
  | pure value => exact obeys
  | perform effect next induction =>
      refine ⟨permits (List.Subset.refl _) obeys.1, fun answer => ?_⟩
      apply induction answer (obeys.2 answer)
      intro later effect within permitted
      exact permits (List.Subset.trans (List.subset_append_left _ _) within) permitted

/-- The program keeps the contract, whatever it returns. -/
abbrev Keeps (contract : Contract Effect Answer) (history : List (Event Effect Answer))
    (program : Program Effect Answer α) : Prop :=
  program.Obeys contract (fun _ _ => True) history

theorem Keeps.mono {program : Program Effect Answer α}
    (keeps : program.Keeps contract history) (within : history ⊆ later) :
    program.Keeps contract later :=
  Obeys.mono (fun _ _ => trivial) keeps within

theorem Keeps.sequence (stops : α → Bool) : ∀ {programs : List (Program Effect Answer α)}
    {history : List (Event Effect Answer)},
    (∀ program ∈ programs, program.Keeps contract history) →
      (sequence stops programs).Keeps contract history
  | [], _, _ => trivial
  | program :: rest, history, keep => by
      apply (keep program (by simp)).bind
      intro later value within _
      by_cases stopped : stops value
      · simp [stopped]
      · simp only [stopped, Bool.false_eq_true, if_false]
        apply (Keeps.sequence stops fun other member =>
          (keep other (by simp [member])).mono within).bind
        exact fun _ _ _ _ => trivial

theorem Keeps.interleave {halted : List (Program Effect Answer α) → Bool}
    {finish : List (Program Effect Answer α) → Program Effect Answer β}
    (finishes : ∀ later programs, history ⊆ later →
      (∀ program ∈ programs, program.Keeps contract later) →
      (finish programs).Keeps contract later) (turns : List Nat)
    {programs : List (Program Effect Answer α)}
    (keep : ∀ program ∈ programs, program.Keeps contract history) :
    (interleave halted finish turns programs).Keeps contract history := by
  induction turns generalizing history programs with
  | nil => exact finishes history programs (List.Subset.refl _) keep
  | cons turn turns induction =>
      unfold Program.interleave
      split
      · exact finishes history programs (List.Subset.refl _) keep
      · split
        · next effect next found =>
            have current := keep _ (List.mem_of_getElem? found)
            refine ⟨current.1, fun answer => induction ?_ ?_⟩
            · intro later programs within
              exact finishes later programs (List.Subset.trans (List.subset_append_left _ _) within)
            · intro program member
              rcases List.mem_or_eq_of_mem_set member with member | rfl
              · exact (keep program member).mono (List.subset_append_left _ _)
              · exact current.2 answer
        · exact induction finishes keep

end Program

/-! ## What a kept contract says about the events -/

namespace Contract

variable (contract : Contract Effect Answer)

/-- Each event was permitted by what came before it. -/
def Honoured (events : List (Event Effect Answer)) : Prop :=
  ∀ before event after, events = before ++ event :: after →
    contract.permits before event.effect

variable {contract}

theorem honoured_nil : contract.Honoured [] := by
  intro before event after same
  simp at same

theorem Honoured.snoc {events : List (Event Effect Answer)} {event : Event Effect Answer}
    (honoured : contract.Honoured events) (permitted : contract.permits events event.effect) :
    contract.Honoured (events ++ [event]) := by
  intro before inner after same
  rcases List.eq_nil_or_concat after with rfl | ⟨front, last, rfl⟩
  · rcases List.append_inj' same rfl with ⟨rfl, head⟩
    cases head
    exact permitted
  · rw [List.concat_eq_append, ← List.cons_append, ← List.append_assoc] at same
    rcases List.append_inj' same rfl with ⟨rfl, -⟩
    exact honoured before inner front rfl

theorem Honoured.permitted {events : List (Event Effect Answer)} {event : Event Effect Answer}
    (honoured : contract.Honoured events) (member : event ∈ events) :
    ∃ before, contract.permits before event.effect := by
  rcases List.append_of_mem member with ⟨before, after, place⟩
  exact ⟨before, honoured before event after place⟩

/-- What was permitted at a position, after the events before it. -/
theorem Honoured.at {events : List (Event Effect Answer)} {event : Event Effect Answer}
    {position : Nat} (honoured : contract.Honoured events)
    (found : events[position]? = some event) :
    contract.permits (events.take position) event.effect := by
  rcases List.getElem?_eq_some_iff.mp found with ⟨within, rfl⟩
  apply honoured _ _ (events.drop (position + 1))
  rw [← List.drop_eq_getElem_cons within, List.take_append_drop]

end Contract

/-- Along a trace, an obedient program performs permitted effects only, and what
is left of it goes on obeying. -/
theorem Program.Obeys.along {contract : Contract Effect Answer}
    {result : List (Event Effect Answer) → α → Prop} {program rest : Program Effect Answer α}
    {history events : List (Event Effect Answer)}
    (obeys : program.Obeys contract result history)
    (trace : Program.Trace program events rest) :
    rest.Obeys contract result (history ++ events) ∧
    ∀ before event after, events = before ++ event :: after →
      contract.permits (history ++ before) event.effect := by
  induction trace generalizing history with
  | nil =>
      refine ⟨by simpa using obeys, ?_⟩
      intro before event after same
      simp at same
  | @cons effect next answer events rest _ induction =>
      rcases induction (obeys.2 answer) with ⟨left, permitted⟩
      refine ⟨by simpa using left, ?_⟩
      intro before event after same
      cases before with
      | nil =>
          rcases List.cons.inj same with ⟨rfl, -⟩
          simpa using obeys.1
      | cons head before =>
          rcases List.cons.inj same with ⟨rfl, tail⟩
          simpa using permitted before event after tail

/-! ## A machine that fulfils its part -/

/-- The machine keeps its invariant under permitted effects and under moves.
`recorded` is what a past event says about the state now. -/
structure Fulfils {State Input Move : Type} (machine : Machine Effect Answer State Input Move)
    (contract : Contract Effect Answer) (holds : State → Prop)
    (recorded : State → Event Effect Answer → Prop) : Prop where
  exec : ∀ effect input state history, holds state →
    (∀ event ∈ history, recorded state event) → contract.permits history effect →
      holds (machine.exec effect input state).2 ∧
      recorded (machine.exec effect input state).2
        ⟨effect, (machine.exec effect input state).1⟩
  kept : ∀ effect input state event, holds state → recorded state event →
    recorded (machine.exec effect input state).2 event
  move : ∀ move state, holds state → holds (machine.move move state)
  keptByMove : ∀ move state event, holds state → recorded state event →
    recorded (machine.move move state) event

namespace Pool

variable {State Input Move : Type} {machine : Machine Effect Answer State Input Move}

/-- Threads are only started with programs that keep the contract. -/
def Spawns (contract : Contract Effect Answer) : Turn Effect Answer Input Move α → Prop
  | .spawn program => program.Keeps contract []
  | _ => True

structure Sound (contract : Contract Effect Answer) (holds : State → Prop)
    (recorded : State → Event Effect Answer → Prop)
    (pool : Pool Effect Answer State Move α) : Prop where
  state : holds pool.state
  threads : ∀ index (thread : Thread Effect Answer α), pool.threads[index]? = some thread →
    thread.rest.Keeps contract (eventsOf index pool.log)
  absent : ∀ index, pool.threads.length ≤ index → eventsOf index pool.log = []
  honoured : ∀ index, contract.Honoured (eventsOf index pool.log)
  recorded : ∀ index, ∀ event ∈ eventsOf index pool.log, recorded pool.state event

theorem Sound.turn {contract : Contract Effect Answer} {holds : State → Prop}
    {recorded : State → Event Effect Answer → Prop}
    (fulfils : Fulfils machine contract holds recorded)
    {pool : Pool Effect Answer State Move α} (sound : Sound contract holds recorded pool)
    (move : Turn Effect Answer Input Move α) (spawns : Spawns contract move) :
    Sound contract holds recorded (Pool.turn machine pool move) := by
  rcases turn_cases machine pool move with same | ⟨program, rfl, spawned⟩ |
    ⟨thread, input, started, effect, next, -, found, advanced⟩ | ⟨made, -, moved⟩
  · rw [same]
    exact sound
  · rw [spawned]
    refine ⟨sound.state, ?_, ?_, sound.honoured, sound.recorded⟩
    · intro index thread present
      rcases Nat.lt_or_ge index pool.threads.length with old | new
      · rw [List.getElem?_append_left old] at present
        exact sound.threads index thread present
      · rw [List.getElem?_append_right new] at present
        rcases List.mem_singleton.mp (List.mem_of_getElem? present)
        rw [sound.absent index new]
        exact spawns
    · intro index beyond
      exact sound.absent index (by simp at beyond; omega)
  · rw [advanced]
    have current := sound.threads thread _ found
    have answered := fulfils.exec effect input pool.state (eventsOf thread pool.log)
      sound.state (sound.recorded thread) current.1
    refine ⟨answered.1, ?_, ?_, ?_, ?_⟩
    · intro index other present
      by_cases own : thread = index
      · subst own
        rw [List.getElem?_set_self (List.getElem?_eq_some_iff.mp found).1] at present
        cases present
        simpa using current.2 _
      · rw [List.getElem?_set_ne own] at present
        simpa [own] using sound.threads index other present
    · intro index beyond
      have notOwn : thread ≠ index := by
        rintro rfl
        have within := (List.getElem?_eq_some_iff.mp found).1
        simp at beyond
        omega
      simpa [notOwn] using sound.absent index (by simpa using beyond)
    · intro index
      by_cases own : thread = index
      · subst own
        simpa using (sound.honoured thread).snoc current.1
      · simpa [own] using sound.honoured index
    · intro index event member
      have old : event ∈ eventsOf index pool.log →
          recorded (machine.exec effect input pool.state).2 event := fun present =>
        fulfils.kept effect input pool.state event sound.state
          (sound.recorded index event present)
      by_cases own : thread = index
      · simp only [own, eventsOf_append, eventsOf_event, if_true, List.mem_append,
          List.mem_singleton] at member
        rcases member with present | rfl
        · exact old present
        · exact answered.2
      · exact old (by simpa [own] using member)
  · rw [moved]
    refine ⟨fulfils.move made pool.state sound.state, ?_, ?_, ?_, ?_⟩
    · simpa using sound.threads
    · simpa using sound.absent
    · simpa using sound.honoured
    · intro index event member
      exact fulfils.keptByMove made pool.state event sound.state
        (sound.recorded index event (by simpa using member))

/-- In every run of programs that keep the contract, every thread's events honour
it, and the machine's invariant holds. -/
theorem run_sound {contract : Contract Effect Answer} {holds : State → Prop}
    {recorded : State → Event Effect Answer → Prop}
    (fulfils : Fulfils machine contract holds recorded) {state : State}
    (initial : holds state) {turns : List (Turn Effect Answer Input Move α)}
    (spawns : ∀ move ∈ turns, Spawns contract move) :
    Sound contract holds recorded (run machine (start state) turns) := by
  apply run_induction (fun _ move permitted sound => sound.turn fulfils move permitted) _ spawns
  exact ⟨initial, by simp [start], by simp [start], fun _ => Contract.honoured_nil,
    by simp [start]⟩

end Pool

end VoucherProxy
