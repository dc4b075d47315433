import VoucherProxy.Foundation.Pool

namespace VoucherProxy

/-! A machine among its surroundings: a world outside that has a state of its own, takes
note of the effects, and decides what the inputs are. Whatever the world does, a run of
the machine in it is a run of the machine alone. -/

/-- How a world takes part in the effects of a machine. `Wide` is what is still left to
chance. -/
structure Surroundings (Effect World Wide Input : Type) where
  /-- The input when nothing is asked of the world. -/
  bare : Wide → Input
  input : Effect → Wide → World → Input
  after : Effect → Wide → World → World

variable {Effect : Type} {Answer : Effect → Type} {State World Wide Input Move α : Type}

/-- The machine and the world as one. -/
def Machine.among (machine : Machine Effect Answer State Input Move)
    (surroundings : Surroundings Effect World Wide Input) :
    Machine Effect Answer (State × World) Wide Move where
  exec effect wide state :=
    let outcome := machine.exec effect (surroundings.input effect wide state.2) state.1
    (outcome.1, outcome.2, surroundings.after effect wide state.2)
  move made state := (machine.move made state.1, state.2)

namespace Pool

/-- The pool without the world. -/
def alone (pool : Pool Effect Answer (State × World) Move α) :
    Pool Effect Answer State Move α :=
  ⟨pool.state.1, pool.threads, pool.log⟩

section

variable (machine : Machine Effect Answer State Input Move)
  (surroundings : Surroundings Effect World Wide Input)

/-- A turn as the machine alone has it. -/
def tell (pool : Pool Effect Answer (State × World) Move α) :
    Turn Effect Answer Wide Move α → Turn Effect Answer Input Move α
  | .spawn program => .spawn program
  | .advance thread wide =>
      match pool.threads[thread]? with
      | some ⟨_, .perform effect _⟩ =>
          .advance thread (surroundings.input effect wide pool.state.2)
      | _ => .advance thread (surroundings.bare wide)
  | .move made => .move made

theorem alone_turn (pool : Pool Effect Answer (State × World) Move α)
    (move : Turn Effect Answer Wide Move α) :
    (turn (machine.among surroundings) pool move).alone =
      turn machine pool.alone (tell surroundings pool move) := by
  cases move with
  | spawn program => rfl
  | move made => rfl
  | advance thread wide =>
      cases found : pool.threads[thread]? with
      | none => simp [turn, tell, alone, found]
      | some current =>
          rcases current with ⟨started, rest⟩
          cases rest with
          | pure value => simp [turn, tell, alone, found]
          | perform effect next => simp [turn, tell, alone, found, Machine.among]

/-- The turns of a run as the machine alone has them. -/
def told (pool : Pool Effect Answer (State × World) Move α) :
    List (Turn Effect Answer Wide Move α) → List (Turn Effect Answer Input Move α)
  | [] => []
  | first :: turns =>
      tell surroundings pool first ::
        told (turn (machine.among surroundings) pool first) turns

/-- A run among the surroundings is a run alone. -/
theorem alone_run (pool : Pool Effect Answer (State × World) Move α)
    (turns : List (Turn Effect Answer Wide Move α)) :
    (run (machine.among surroundings) pool turns).alone =
      run machine pool.alone (told machine surroundings pool turns) := by
  induction turns generalizing pool with
  | nil => rfl
  | cons first turns induction => rw [run_cons, induction, alone_turn, told, run_cons]

end

end Pool

end VoucherProxy
