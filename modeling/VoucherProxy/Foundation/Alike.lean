import VoucherProxy.Foundation.Program

namespace VoucherProxy

/-! Programs run to their end, and programs that differ in silent effects only. -/

variable {Effect : Type} {Answer : Effect → Type} {State α β γ δ : Type}

/-- What a program that ran to its end did and left behind. -/
structure Completed (Effect : Type) (Answer : Effect → Type) (State α : Type) where
  events : List (Event Effect Answer)
  value : α
  state : State

namespace Program

/-- Run a program alone, from a state, to its end. -/
def complete (exec : (effect : Effect) → State → Answer effect × State) :
    Program Effect Answer α → State → Completed Effect Answer State α
  | .pure value, state => ⟨[], value, state⟩
  | .perform effect next, state =>
      let outcome := exec effect state
      let later := (next outcome.1).complete exec outcome.2
      { later with events := ⟨effect, outcome.1⟩ :: later.events }

theorem complete_trace (exec : (effect : Effect) → State → Answer effect × State)
    (program : Program Effect Answer α) (state : State) :
    program.Trace (program.complete exec state).events
      (.pure (program.complete exec state).value) := by
  induction program generalizing state with
  | pure value => exact .nil _
  | perform effect next induction => exact .cons (induction _ _)

/-- The programs perform the same effects in the same order, apart from silent
ones and whatever these are answered, and return related values. -/
inductive Alike (silent : Effect → Bool) (related : α → β → Prop) :
    Program Effect Answer α → Program Effect Answer β → Prop
  | pure {value other} : related value other → Alike silent related (.pure value) (.pure other)
  | left {effect next other} : silent effect = true →
      (∀ answer, Alike silent related (next answer) other) →
      Alike silent related (.perform effect next) other
  | right {program effect next} : silent effect = true →
      (∀ answer, Alike silent related program (next answer)) →
      Alike silent related program (.perform effect next)
  | both {effect next other} : (∀ answer, Alike silent related (next answer) (other answer)) →
      Alike silent related (.perform effect next) (.perform effect other)

variable {silent : Effect → Bool}

theorem Alike.refl (program : Program Effect Answer α) : Alike silent (· = ·) program program := by
  induction program with
  | pure value => exact .pure rfl
  | perform effect next induction => exact .both induction

theorem Alike.bind {related : α → β → Prop} {final : γ → δ → Prop}
    {program : Program Effect Answer α} {other : Program Effect Answer β}
    {rest : α → Program Effect Answer γ} {otherRest : β → Program Effect Answer δ}
    (first : Alike silent related program other)
    (second : ∀ value otherValue, related value otherValue →
      Alike silent final (rest value) (otherRest otherValue)) :
    Alike silent final (program >>= rest) (other >>= otherRest) := by
  induction first with
  | pure held => exact second _ _ held
  | left isSilent _ induction => exact .left isSilent induction
  | right isSilent _ induction => exact .right isSilent induction
  | both _ induction => exact .both induction

/-- The events that are not silent. -/
def visible (silent : Effect → Bool) (events : List (Event Effect Answer)) :
    List (Event Effect Answer) :=
  events.filter fun event => !silent event.effect

/-- On a machine on which silent effects leave no mark, programs that are alike
do visibly the same, return related values, and end in states that are the same
but for silent marks. -/
theorem Alike.complete {related : α → β → Prop} {program : Program Effect Answer α}
    {other : Program Effect Answer β} (alike : Alike silent related program other)
    {exec : (effect : Effect) → State → Answer effect × State} {same : State → State → Prop}
    (silentLeft : ∀ effect state twin, silent effect = true → same state twin →
      same (exec effect state).2 twin)
    (silentRight : ∀ effect state twin, silent effect = true → same state twin →
      same state (exec effect twin).2)
    (steps : ∀ effect state twin, same state twin →
      (exec effect state).1 = (exec effect twin).1 ∧
        same (exec effect state).2 (exec effect twin).2)
    {state twin : State} (initial : same state twin) :
    visible silent (program.complete exec state).events =
        visible silent (other.complete exec twin).events ∧
      related (program.complete exec state).value (other.complete exec twin).value ∧
      same (program.complete exec state).state (other.complete exec twin).state := by
  induction alike generalizing state twin with
  | pure held => exact ⟨rfl, held, initial⟩
  | left isSilent _ induction =>
      have rest := induction (exec _ state).1 (silentLeft _ state twin isSilent initial)
      simpa [Program.complete, visible, isSilent] using rest
  | right isSilent _ induction =>
      have rest := induction (exec _ twin).1 (silentRight _ state twin isSilent initial)
      simpa [Program.complete, visible, isSilent] using rest
  | @both effect next other _ induction =>
      rcases steps effect state twin initial with ⟨answer, kept⟩
      have rest := induction (exec effect state).1 kept
      simp only [Program.complete, ← answer]
      refine ⟨?_, rest.2⟩
      simp only [visible, List.filter_cons]
      split
      · exact congrArg (_ :: ·) rest.1
      · exact rest.1

end Program

end VoucherProxy
