import VoucherProxy.Foundation.Totals

namespace VoucherProxy.Pool

/-! What the threads of a pool do, each step with the input it was answered from. -/

variable {Effect : Type} {Answer : Effect → Type} {State Input Move α : Type}

section

variable (machine : Machine Effect Answer State Input Move)

/-- The event that a turn makes happen. -/
def happens? (pool : Pool Effect Answer State Move α) :
    Turn Effect Answer Input Move α → Option (Input × Event Effect Answer)
  | .advance thread input =>
      match pool.threads[thread]? with
      | some ⟨_, .perform effect _⟩ =>
          some (input, ⟨effect, (machine.exec effect input pool.state).1⟩)
      | _ => none
  | _ => none

theorem happens?_eq_some {pool : Pool Effect Answer State Move α}
    {move : Turn Effect Answer Input Move α} {happened : Input × Event Effect Answer}
    (happens : happens? machine pool move = some happened) :
    ∃ thread started effect next, move = .advance thread happened.1 ∧
      pool.threads[thread]? = some ⟨started, .perform effect next⟩ ∧
      happened.2 = ⟨effect, (machine.exec effect happened.1 pool.state).1⟩ := by
  cases move with
  | spawn program => cases happens
  | move made => cases happens
  | advance thread input =>
      cases found : pool.threads[thread]? with
      | none => simp [happens?, found] at happens
      | some current =>
          rcases current with ⟨started, rest⟩
          cases rest with
          | pure value => simp [happens?, found] at happens
          | perform effect next =>
              simp only [happens?, found, Option.some.injEq] at happens
              subst happens
              exact ⟨thread, started, effect, next, rfl, found, rfl⟩

/-- A turn makes an event happen, or moves the state by itself, or leaves it as it is. -/
theorem state_turn_cases (pool : Pool Effect Answer State Move α)
    (move : Turn Effect Answer Input Move α) :
    (∃ thread input started effect next, move = .advance thread input ∧
      pool.threads[thread]? = some ⟨started, .perform effect next⟩ ∧
      happens? machine pool move = some (input, ⟨effect, (machine.exec effect input pool.state).1⟩) ∧
      (turn machine pool move).state = (machine.exec effect input pool.state).2) ∨
    (happens? machine pool move = none ∧ ((turn machine pool move).state = pool.state ∨
      ∃ made, move = .move made ∧
        (turn machine pool move).state = machine.move made pool.state)) := by
  cases move with
  | spawn program => exact .inr ⟨rfl, .inl rfl⟩
  | move made => exact .inr ⟨rfl, .inr ⟨made, rfl, rfl⟩⟩
  | advance thread input =>
      cases found : pool.threads[thread]? with
      | none => exact .inr (by simp [happens?, turn, found])
      | some current =>
          rcases current with ⟨started, rest⟩
          cases rest with
          | pure value => exact .inr (by simp [happens?, turn, found])
          | perform effect next =>
              refine .inl ⟨thread, input, started, effect, next, rfl, found, ?_, ?_⟩
              · simp [happens?, found]
              · simp [turn, found]

/-- The events of a run in order. -/
def timeline (pool : Pool Effect Answer State Move α) :
    List (Turn Effect Answer Input Move α) → List (Input × Event Effect Answer)
  | [] => []
  | first :: turns =>
      (happens? machine pool first).toList ++ timeline (turn machine pool first) turns

theorem timeline_append (pool : Pool Effect Answer State Move α)
    (early late : List (Turn Effect Answer Input Move α)) :
    timeline machine pool (early ++ late) =
      timeline machine pool early ++ timeline machine (run machine pool early) late := by
  induction early generalizing pool with
  | nil => rfl
  | cons first early induction =>
      rw [List.cons_append, timeline, timeline, induction, List.append_assoc, run_cons]

/-- What happened is what the log shows. -/
theorem logged_timeline {M : Type} [AddCommMonoid M] (weight : Event Effect Answer → M)
    (pool : Pool Effect Answer State Move α) (turns : List (Turn Effect Answer Input Move α)) :
    logged weight (run machine pool turns).log =
      logged weight pool.log + ((timeline machine pool turns).map fun event => weight event.2).sum := by
  induction turns generalizing pool with
  | nil => simp [timeline]
  | cons first turns induction =>
      have step : logged weight (turn machine pool first).log = logged weight pool.log +
          ((happens? machine pool first).toList.map fun event => weight event.2).sum := by
        cases first with
        | spawn program => simp [turn, happens?]
        | move made => simp [turn, happens?]
        | advance thread input =>
            cases found : pool.threads[thread]? with
            | none => simp [turn, happens?, found]
            | some current =>
                rcases current with ⟨started, rest⟩
                cases rest with
                | pure value => simp [turn, happens?, found]
                | perform effect next => simp [turn, happens?, found]
      rw [run_cons, induction, step, timeline, List.map_append, List.sum_append, add_assoc]

/-- A log only grows. -/
theorem exists_log_append (pool : Pool Effect Answer State Move α)
    (turns : List (Turn Effect Answer Input Move α)) :
    ∃ later, (run machine pool turns).log = pool.log ++ later := by
  induction turns generalizing pool with
  | nil => exact ⟨[], by simp⟩
  | cons first turns induction =>
      rcases induction (turn machine pool first) with ⟨later, whole⟩
      have step : ∃ now, (turn machine pool first).log = pool.log ++ now := by
        rcases turn_cases machine pool first with same | ⟨program, -, spawned⟩ |
          ⟨thread, input, started, effect, next, -, -, advanced⟩ | ⟨made, -, moved⟩
        · exact ⟨[], by rw [same, List.append_nil]⟩
        · exact ⟨[], by rw [spawned, List.append_nil]⟩
        · exact ⟨_, by rw [advanced]⟩
        · exact ⟨_, by rw [moved]⟩
      rcases step with ⟨now, grown⟩
      exact ⟨now ++ later, by rw [run_cons, whole, grown, List.append_assoc]⟩

end

/-- What the input of a turn is, if it has one. -/
def input? : Turn Effect Answer Input Move α → Option Input
  | .advance _ input => some input
  | _ => none

variable {machine : Machine Effect Answer State Input Move}

/-- Events happen in the order of the inputs. -/
theorem inputs_timeline (pool : Pool Effect Answer State Move α)
    (turns : List (Turn Effect Answer Input Move α)) :
    ((timeline machine pool turns).map Prod.fst).Sublist (turns.filterMap input?) := by
  induction turns generalizing pool with
  | nil => exact .refl _
  | cons first turns induction =>
      rw [timeline, List.map_append]
      cases first with
      | spawn program => exact induction _
      | move made => exact induction _
      | advance thread input =>
          have rest := induction (turn machine pool (.advance thread input))
          cases happened : happens? machine pool (.advance thread input) with
          | none => exact rest.trans (List.sublist_cons_self _ _)
          | some event =>
              rcases happens?_eq_some machine happened with ⟨_, _, _, _, same, -⟩
              have own : input = event.1 := (Turn.advance.inj same).2
              rw [Option.toList_some, List.map_singleton, ← own]
              exact rest.cons_cons input

end VoucherProxy.Pool
