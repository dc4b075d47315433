import VoucherProxy.Foundation.Timeline

namespace VoucherProxy

/-! Two programs side by side that do the same but for differences nobody is to see.
A likeness says which effects, and which answers to them, are taken for the same. -/

structure Likeness (Effect : Type) (Answer : Effect → Type) where
  effect : Effect → Effect → Prop
  answer : (left right : Effect) → Answer left → Answer right → Prop

variable {Effect : Type} {Answer : Effect → Type} {α β γ δ : Type}

/-- The same effect with the same answer. -/
structure Likeness.Event (like : Likeness Effect Answer)
    (left right : VoucherProxy.Event Effect Answer) : Prop where
  effect : like.effect left.effect right.effect
  answer : like.answer left.effect right.effect left.answer right.answer

/-! ## Values at the same positions -/

section

variable {related : α → β → Prop} {left : List α} {right : List β}

theorem forall₂_getElem? (all : List.Forall₂ related left right) (index : Nat) :
    (left[index]? = none ∧ right[index]? = none) ∨
      ∃ value other, left[index]? = some value ∧ right[index]? = some other ∧
        related value other := by
  induction all generalizing index with
  | nil => exact .inl ⟨rfl, rfl⟩
  | @cons value other left right first _ induction =>
      cases index with
      | zero => exact .inr ⟨value, other, rfl, rfl, first⟩
      | succ index => exact induction index

theorem forall₂_set_both (all : List.Forall₂ related left right) (index : Nat) {value : α}
    {other : β} (here : related value other) :
    List.Forall₂ related (left.set index value) (right.set index other) := by
  induction all generalizing index with
  | nil => exact .nil
  | @cons head otherHead left right first rest induction =>
      cases index with
      | zero => exact .cons here rest
      | succ index => exact .cons first (induction index)

end

/-! ## Programs -/

namespace Program

/-- The programs perform effects that are taken for the same, go on likewise when the
answers are, and return related values. -/
def Matches (like : Likeness Effect Answer) (value : α → β → Prop) :
    Program Effect Answer α → Program Effect Answer β → Prop
  | .pure left, .pure right => value left right
  | .perform effect next, .perform other otherNext => like.effect effect other ∧
      ∀ answer otherAnswer, like.answer effect other answer otherAnswer →
        (next answer).Matches like value (otherNext otherAnswer)
  | _, _ => False

variable {like : Likeness Effect Answer} {value : α → β → Prop} {final : γ → δ → Prop}

theorem Matches.request_bind {effect other : Effect}
    {rest : Answer effect → Program Effect Answer α}
    {otherRest : Answer other → Program Effect Answer β} (alike : like.effect effect other)
    (next : ∀ answer otherAnswer, like.answer effect other answer otherAnswer →
      (rest answer).Matches like value (otherRest otherAnswer)) :
    (request effect >>= rest).Matches like value (request other >>= otherRest) :=
  ⟨alike, next⟩

theorem Matches.bind {program : Program Effect Answer α} {other : Program Effect Answer β}
    {rest : α → Program Effect Answer γ} {otherRest : β → Program Effect Answer δ}
    (first : program.Matches like value other)
    (second : ∀ left right, value left right → (rest left).Matches like final (otherRest right)) :
    (program >>= rest).Matches like final (other >>= otherRest) := by
  induction program generalizing other with
  | pure left =>
      cases other with
      | pure right => exact second left right first
      | perform effect next => exact first.elim
  | perform effect next induction =>
      cases other with
      | pure right => exact first.elim
      | perform otherEffect otherNext =>
          exact ⟨first.1, fun answer otherAnswer same =>
            induction answer (first.2 answer otherAnswer same)⟩

/-- Programs that match are finished together, with related values. -/
theorem Matches.value? {program : Program Effect Answer α} {other : Program Effect Answer β}
    (alike : program.Matches like value other) :
    (program.value? = none ∧ other.value? = none) ∨
      ∃ left right, program.value? = some left ∧ other.value? = some right ∧
        value left right := by
  cases program with
  | pure left =>
      cases other with
      | pure right => exact .inr ⟨left, right, rfl, rfl, alike⟩
      | perform effect next => exact alike.elim
  | perform effect next =>
      cases other with
      | pure right => exact alike.elim
      | perform otherEffect otherNext => exact .inl ⟨rfl, rfl⟩

theorem Matches.sequence {stops : α → Bool} {otherStops : β → Bool}
    (agree : ∀ left right, value left right → stops left = otherStops right)
    {programs : List (Program Effect Answer α)} {others : List (Program Effect Answer β)}
    (all : List.Forall₂ (Matches like value) programs others) :
    (sequence stops programs).Matches like (List.Forall₂ value) (sequence otherStops others) := by
  induction all with
  | nil => exact .nil
  | cons first _ induction =>
      apply first.bind
      intro left right same
      rw [agree left right same]
      cases otherStops right with
      | true => exact .cons same .nil
      | false => exact induction.bind fun _ _ rest => .cons same rest

theorem Matches.interleave {halted : List (Program Effect Answer α) → Bool}
    {otherHalted : List (Program Effect Answer β) → Bool}
    {finish : List (Program Effect Answer α) → Program Effect Answer γ}
    {otherFinish : List (Program Effect Answer β) → Program Effect Answer δ}
    (halts : ∀ programs others, List.Forall₂ (Matches like value) programs others →
      halted programs = otherHalted others)
    (finishes : ∀ programs others, List.Forall₂ (Matches like value) programs others →
      (finish programs).Matches like final (otherFinish others)) (turns : List Nat)
    {programs : List (Program Effect Answer α)} {others : List (Program Effect Answer β)}
    (all : List.Forall₂ (Matches like value) programs others) :
    (interleave halted finish turns programs).Matches like final
      (interleave otherHalted otherFinish turns others) := by
  induction turns generalizing programs others with
  | nil => exact finishes programs others all
  | cons turn turns induction =>
      unfold Program.interleave
      rw [halts programs others all]
      cases otherHalted others with
      | true => exact finishes programs others all
      | false =>
          simp only [Bool.false_eq_true, if_false]
          rcases forall₂_getElem? all turn with ⟨absent, otherAbsent⟩ |
            ⟨program, other, found, otherFound, alike⟩
          · rw [absent, otherAbsent]
            exact induction all
          · rw [found, otherFound]
            cases program with
            | pure left =>
                cases other with
                | pure right => exact induction all
                | perform effect next => exact alike.elim
            | perform effect next =>
                cases other with
                | pure right => exact alike.elim
                | perform otherEffect otherNext =>
                    exact ⟨alike.1, fun answer otherAnswer same =>
                      induction (forall₂_set_both all turn (alike.2 answer otherAnswer same))⟩

end Program

end VoucherProxy
