import Mathlib.Data.List.Basic
import Mathlib.Control.Monad.Basic

namespace VoucherProxy

/-! Programs that touch the world one effect at a time. A program is a tree:
it either returns or performs an effect and continues with the answer the
world gives. Nothing here fixes what the effects are. -/

inductive Program (Effect : Type) (Answer : Effect → Type) (α : Type)
  | pure (value : α)
  | perform (effect : Effect) (next : Answer effect → Program Effect Answer α)

/-- One effect together with the answer it received. -/
structure Event (Effect : Type) (Answer : Effect → Type) where
  effect : Effect
  answer : Answer effect

namespace Program

variable {Effect : Type} {Answer : Effect → Type} {α β γ : Type}

def bind : Program Effect Answer α → (α → Program Effect Answer β) →
    Program Effect Answer β
  | .pure value, rest => rest value
  | .perform effect next, rest => .perform effect fun answer => (next answer).bind rest

/-- The program that performs one effect and returns its answer. -/
def request (effect : Effect) : Program Effect Answer (Answer effect) :=
  .perform effect .pure

instance : Monad (Program Effect Answer) where
  pure := .pure
  bind := bind

@[simp] theorem pure_eq (value : α) :
    (Pure.pure value : Program Effect Answer α) = .pure value := rfl

@[simp] theorem pure_bind_eq (value : α) (rest : α → Program Effect Answer β) :
    (Program.pure value >>= rest) = rest value := rfl

@[simp] theorem perform_bind (effect : Effect)
    (next : Answer effect → Program Effect Answer α) (rest : α → Program Effect Answer β) :
    (Program.perform effect next >>= rest) =
      .perform effect fun answer => next answer >>= rest := rfl

@[simp] theorem request_bind (effect : Effect)
    (rest : Answer effect → Program Effect Answer β) :
    (request effect >>= rest) = .perform effect rest := rfl

theorem bind_pure_eq (program : Program Effect Answer α) :
    (program >>= .pure) = program := by
  induction program with
  | pure value => rfl
  | perform effect next induction =>
      simp only [perform_bind]
      congr 1
      funext answer
      exact induction answer

@[simp] theorem bind_assoc_eq (program : Program Effect Answer α)
    (first : α → Program Effect Answer β) (second : β → Program Effect Answer γ) :
    (program >>= first >>= second) = (program >>= fun value => first value >>= second) := by
  induction program with
  | pure value => rfl
  | perform effect next induction =>
      simp only [perform_bind]
      congr 1
      funext answer
      exact induction answer

instance : LawfulMonad (Program Effect Answer) :=
  LawfulMonad.mk' _
    (fun program => bind_pure_eq program)
    (fun _ _ => rfl)
    (fun program first second => bind_assoc_eq program first second)

/-! ## Traces

`Trace program events rest` says that `program` can perform `events`, in this
order and with these answers, and that `rest` is what is then left to do. A
finished run leaves `.pure`; a run cut short leaves anything. -/

inductive Trace : Program Effect Answer α → List (Event Effect Answer) →
    Program Effect Answer α → Prop
  | nil (program) : Trace program [] program
  | cons {effect next answer events rest} :
      Trace (next answer) events rest →
      Trace (.perform effect next) (⟨effect, answer⟩ :: events) rest

theorem Trace.append {program middle rest : Program Effect Answer α}
    {events later : List (Event Effect Answer)}
    (first : Trace program events middle) (second : Trace middle later rest) :
    Trace program (events ++ later) rest := by
  induction first with
  | nil => exact second
  | cons _ induction => exact .cons (induction second)

theorem Trace.snoc {program : Program Effect Answer α} {effect : Effect}
    {next : Answer effect → Program Effect Answer α}
    {events : List (Event Effect Answer)}
    (trace : Trace program events (.perform effect next)) (answer : Answer effect) :
    Trace program (events ++ [⟨effect, answer⟩]) (next answer) :=
  trace.append (.cons (.nil _))

/-- What is left of a program depends on the events only. -/
theorem Trace.later {program middle rest : Program Effect Answer α}
    {events later : List (Event Effect Answer)} (first : Trace program events middle)
    (whole : Trace program (events ++ later) rest) : Trace middle later rest := by
  induction first with
  | nil => exact whole
  | cons _ induction =>
      cases whole with
      | cons whole => exact induction whole

theorem trace_pure_iff {value : α} {events : List (Event Effect Answer)}
    {rest : Program Effect Answer α} :
    Trace (.pure value) events rest ↔ events = [] ∧ rest = .pure value := by
  constructor
  · intro trace
    cases trace
    exact ⟨rfl, rfl⟩
  · rintro ⟨rfl, rfl⟩
    exact .nil _

theorem trace_perform_iff {effect : Effect}
    {next : Answer effect → Program Effect Answer α}
    {events : List (Event Effect Answer)} {rest : Program Effect Answer α} :
    Trace (.perform effect next) events rest ↔
      (events = [] ∧ rest = .perform effect next) ∨
      ∃ answer later, events = ⟨effect, answer⟩ :: later ∧
        Trace (next answer) later rest := by
  constructor
  · intro trace
    cases trace with
    | nil => exact .inl ⟨rfl, rfl⟩
    | @cons _ _ answer later _ trace => exact .inr ⟨answer, later, rfl, trace⟩
  · rintro (⟨rfl, rfl⟩ | ⟨answer, later, rfl, trace⟩)
    · exact .nil _
    · exact .cons trace

/-- A trace of a sequence is cut short in the first part, or runs the first
part to its end and continues in the second. -/
theorem trace_bind_iff {program : Program Effect Answer α}
    {rest : α → Program Effect Answer β}
    {events : List (Event Effect Answer)} {last : Program Effect Answer β} :
    Trace (program >>= rest) events last ↔
      (∃ middle, Trace program events middle ∧ last = (middle >>= rest)) ∨
      ∃ early value late, events = early ++ late ∧
        Trace program early (.pure value) ∧ Trace (rest value) late last := by
  constructor
  · intro trace
    induction program generalizing events with
    | pure value => exact .inr ⟨[], value, events, rfl, .nil _, trace⟩
    | perform effect next induction =>
        rcases trace_perform_iff.mp trace with ⟨rfl, rfl⟩ | ⟨answer, later, rfl, tail⟩
        · exact .inl ⟨_, .nil _, rfl⟩
        · rcases induction answer tail with
            ⟨middle, first, rfl⟩ | ⟨early, value, late, rfl, first, second⟩
          · exact .inl ⟨middle, .cons first, rfl⟩
          · exact .inr ⟨_ :: early, value, late, rfl, .cons first, second⟩
  · rintro (⟨middle, first, rfl⟩ | ⟨early, value, late, rfl, first, second⟩)
    · induction first with
      | nil => exact .nil _
      | cons _ induction => exact .cons induction
    · generalize finished : (Program.pure value : Program Effect Answer α) = last at first
      induction first with
      | nil => subst finished; exact second
      | cons _ induction => exact .cons (induction finished)

/-! ### Finished traces -/

theorem Trace.of_pure {value other : α} {events : List (Event Effect Answer)}
    (trace : Trace (.pure value) events (.pure other)) : events = [] ∧ other = value := by
  rcases trace_pure_iff.mp trace with ⟨rfl, same⟩
  exact ⟨rfl, Program.pure.inj same⟩

theorem Trace.of_request {effect : Effect} {rest : Answer effect → Program Effect Answer α}
    {events : List (Event Effect Answer)} {value : α}
    (trace : Trace (request effect >>= rest) events (.pure value)) :
    ∃ answer later, events = ⟨effect, answer⟩ :: later ∧
      Trace (rest answer) later (.pure value) := by
  rcases trace_perform_iff.mp trace with ⟨-, unfinished⟩ | finished
  · cases unfinished
  · exact finished

/-- A finished sequence has finished its first part, then its second. -/
theorem Trace.of_bind {program : Program Effect Answer α} {rest : α → Program Effect Answer β}
    {events : List (Event Effect Answer)} {value : β}
    (trace : Trace (program >>= rest) events (.pure value)) :
    ∃ early middle late, events = early ++ late ∧ Trace program early (.pure middle) ∧
      Trace (rest middle) late (.pure value) := by
  rcases trace_bind_iff.mp trace with ⟨middle, first, finished⟩ | finished
  · cases middle with
    | pure middle =>
        refine ⟨events, middle, [], by simp, first, ?_⟩
        rw [pure_bind_eq] at finished
        rw [← finished]
        exact .nil _
    | perform effect next => cases finished
  · exact finished

theorem Trace.bind {program : Program Effect Answer α} {rest : α → Program Effect Answer β}
    {early late : List (Event Effect Answer)} {value : α} {last : Program Effect Answer β}
    (first : Trace program early (.pure value)) (second : Trace (rest value) late last) :
    Trace (program >>= rest) (early ++ late) last :=
  trace_bind_iff.mpr (.inr ⟨early, value, late, rfl, first, second⟩)

/-- The events determine how a program ends. -/
theorem Trace.unique {program : Program Effect Answer α}
    {early late events other : List (Event Effect Answer)} {value result : α}
    (first : Trace program events (.pure value)) (second : Trace program other (.pure result))
    (same : events ++ early = other ++ late) : events = other ∧ value = result := by
  rcases List.append_eq_append_iff.mp same with ⟨middle, rfl, -⟩ | ⟨middle, rfl, -⟩
  · rcases (first.later second).of_pure with ⟨rfl, rfl⟩
    exact ⟨by simp, rfl⟩
  · rcases (second.later first).of_pure with ⟨rfl, rfl⟩
    exact ⟨by simp, rfl⟩

/-- A program can always run to its end. -/
theorem exists_finished (answers : ∀ effect, Nonempty (Answer effect))
    (program : Program Effect Answer α) : ∃ events value, Trace program events (.pure value) := by
  induction program with
  | pure value => exact ⟨[], value, .nil _⟩
  | perform effect next induction =>
      rcases answers effect with ⟨answer⟩
      rcases induction answer with ⟨events, value, trace⟩
      exact ⟨_, value, .cons trace⟩

/-- The program performs at most so many effects, whatever the answers. -/
def ReturnsWithin : Nat → Program Effect Answer α → Prop
  | _, .pure _ => True
  | 0, .perform _ _ => False
  | bound + 1, .perform _ next => ∀ answer, (next answer).ReturnsWithin bound

theorem Trace.returned {program rest : Program Effect Answer α}
    {events : List (Event Effect Answer)} (trace : Trace program events rest) {bound : Nat}
    (within : program.ReturnsWithin bound) (enough : bound ≤ events.length) :
    ∃ value, rest = .pure value := by
  induction trace generalizing bound with
  | nil program =>
      rcases Nat.le_zero.mp enough with rfl
      cases program with
      | pure value => exact ⟨value, rfl⟩
      | perform effect next => exact within.elim
  | cons _ induction =>
      cases bound with
      | zero => exact within.elim
      | succ bound => exact induction (within _) (Nat.le_of_succ_le_succ enough)

/-! ## Running several programs -/

/-- The value of a program that has nothing left to do. -/
def value? : Program Effect Answer α → Option α
  | .pure value => some value
  | .perform _ _ => none

/-- Run programs one after the other and collect their values, up to the first
value that stops the rest. -/
def sequence (stops : α → Bool) :
    List (Program Effect Answer α) → Program Effect Answer (List α)
  | [] => .pure []
  | program :: rest => do
      let value ← program
      if stops value then return [value]
      let values ← sequence stops rest
      return value :: values

/-- Run programs concurrently. `turns` names, effect by effect, the program
that moves next; a turn of a finished or absent program is skipped. When the
programs have `halted`, or the turns are used up, what is left of each program
is handed to `finish`. -/
def interleave (halted : List (Program Effect Answer α) → Bool)
    (finish : List (Program Effect Answer α) → Program Effect Answer β) :
    List Nat → List (Program Effect Answer α) → Program Effect Answer β
  | [], programs => finish programs
  | turn :: turns, programs =>
      if halted programs then finish programs
      else match programs[turn]? with
        | some (.perform effect next) =>
            .perform effect fun answer =>
              interleave halted finish turns (programs.set turn (next answer))
        | _ => interleave halted finish turns programs

end Program

end VoucherProxy
