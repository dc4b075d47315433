import Mathlib.Data.Multiset.OrderedMonoid
import VoucherProxy.Foundation.Contract
import VoucherProxy.Foundation.Totals

namespace VoucherProxy

/-! Budgets of programs. Every event has a cost in an ordered monoid, and a program
is within a bound when no run of it, whatever it is answered, costs more. -/

variable {Effect : Type} {Answer : Effect → Type} {α β : Type}

namespace Program

section

variable {M : Type} [AddCommMonoid M] [PartialOrder M] (cost : Event Effect Answer → M)

def Within : M → Program Effect Answer α → Prop
  | _, .pure _ => True
  | bound, .perform effect next => ∀ answer, ∃ rest,
      cost ⟨effect, answer⟩ + rest ≤ bound ∧ (next answer).Within rest

variable {cost}

theorem Within.mono {program : Program Effect Answer α} {bound larger : M}
    (within : program.Within cost bound) (order : bound ≤ larger) :
    program.Within cost larger := by
  cases program with
  | pure value => trivial
  | perform effect next =>
      intro answer
      rcases within answer with ⟨rest, paid, later⟩
      exact ⟨rest, paid.trans order, later⟩

theorem Within.request_bind {effect : Effect} {rest : Answer effect → Program Effect Answer α}
    {own bound : M} (paid : ∀ answer, cost ⟨effect, answer⟩ = own)
    (next : ∀ answer, (rest answer).Within cost bound) :
    (request effect >>= rest).Within cost (own + bound) := by
  intro answer
  refine ⟨bound, ?_, next answer⟩
  rw [paid answer]

/-- Every program of the list is within the bound at the same position. -/
def Shares (cost : Event Effect Answer → M) :
    List M → List (Program Effect Answer α) → Prop :=
  List.Forall₂ fun bound program => program.Within cost bound

theorem Shares.of_map {γ : Type} {bound : γ → M} {program : γ → Program Effect Answer α}
    (within : ∀ member, (program member).Within cost (bound member)) :
    ∀ members : List γ, Shares cost (members.map bound) (members.map program)
  | [] => .nil
  | member :: members => .cons (within member) (Shares.of_map within members)

variable [IsOrderedAddMonoid M]

/-- Side by side, programs cost what they cost together. -/
theorem Shares.interleave {halted : List (Program Effect Answer α) → Bool}
    {finish : List (Program Effect Answer α) → Program Effect Answer β}
    (finishes : ∀ bounds programs, Shares cost bounds programs →
      (finish programs).Within cost bounds.sum) (turns : List Nat)
    {bounds : List M} {programs : List (Program Effect Answer α)}
    (shares : Shares cost bounds programs) :
    (interleave halted finish turns programs).Within cost bounds.sum := by
  induction turns generalizing bounds programs with
  | nil => exact finishes _ _ shares
  | cons turn turns induction =>
      unfold Program.interleave
      split
      · exact finishes _ _ shares
      · split
        · next effect next found =>
            rcases forall₂_set shares found with ⟨own, others, within, split, update⟩
            intro answer
            rcases within answer with ⟨rest, paid, later⟩
            rcases update rest (next answer) later with ⟨updated, moved, sum⟩
            refine ⟨updated.sum, ?_, induction moved⟩
            rw [sum, split, ← add_assoc]
            exact add_le_add_left paid others
        · exact induction shares

/-- What a program has cost so far and what is left of it are within its bound
together. -/
theorem Within.along {program rest : Program Effect Answer α}
    {events : List (Event Effect Answer)} {bound : M} (within : program.Within cost bound)
    (trace : Trace program events rest) :
    ∃ left, total cost events + left ≤ bound ∧ rest.Within cost left := by
  induction trace generalizing bound with
  | nil => exact ⟨bound, by simp, within⟩
  | @cons effect next answer events rest _ induction =>
      rcases within answer with ⟨kept, paid, later⟩
      rcases induction later with ⟨left, spent, remaining⟩
      refine ⟨left, ?_, remaining⟩
      rw [total_cons, add_assoc]
      exact (add_le_add_right spent _).trans paid

variable [CanonicallyOrderedAdd M]

theorem Within.bind {program : Program Effect Answer α} {rest : α → Program Effect Answer β}
    {own bound : M} (first : program.Within cost own)
    (second : ∀ value, (rest value).Within cost bound) :
    (program >>= rest).Within cost (own + bound) := by
  induction program generalizing own with
  | pure value => exact (second value).mono le_add_self
  | perform effect next induction =>
      intro answer
      rcases first answer with ⟨left, paid, later⟩
      refine ⟨left + bound, ?_, induction answer later⟩
      rw [← add_assoc]
      exact add_le_add_left paid bound

/-- What follows without performing anything costs nothing. -/
theorem Within.map {program : Program Effect Answer α} {change : α → β} {bound : M}
    (within : program.Within cost bound) :
    (program >>= fun value => .pure (change value)).Within cost bound := by
  have costless : (program >>= fun value => .pure (change value)).Within cost (bound + 0) :=
    within.bind fun _ => trivial
  rwa [add_zero] at costless

/-- So do they one after the other. -/
theorem Shares.sequence (stops : α → Bool) {bounds : List M}
    {programs : List (Program Effect Answer α)} (shares : Shares cost bounds programs) :
    (sequence stops programs).Within cost bounds.sum := by
  induction shares with
  | nil => trivial
  | @cons bound program bounds programs first _ induction =>
      rw [List.sum_cons]
      apply first.bind
      intro value
      by_cases stopped : stops value
      · simp only [stopped, if_true]
        trivial
      · simp only [stopped, Bool.false_eq_true, if_false]
        exact induction.map

theorem Within.total_le {program rest : Program Effect Answer α}
    {events : List (Event Effect Answer)} {bound : M} (within : program.Within cost bound)
    (trace : Trace program events rest) : total cost events ≤ bound := by
  rcases within.along trace with ⟨left, spent, -⟩
  exact le_self_add.trans spent

end

/-- What costs nothing under its contract needs no credit. -/
theorem Obeys.pays {contract : Contract Effect Answer} {ledger : Ledger Effect Answer}
    (free : ∀ history effect, contract.permits history effect → ledger.costs effect = false)
    {result : List (Event Effect Answer) → α → Prop} {program : Program Effect Answer α}
    {history : List (Event Effect Answer)} (obeys : program.Obeys contract result history) :
    program.Pays ledger 0 := by
  induction program generalizing history with
  | pure value => exact pays_pure _ _
  | perform effect next induction =>
      have costless := free history effect obeys.1
      refine ⟨by rw [costless]; rfl, fun answer => ?_⟩
      exact (induction answer (obeys.2 answer)).mono (Nat.zero_le _)

/-! ## Budgets of kinds of effects -/

section

variable {Kind : Type} (kind : Effect → Kind)

/-- The cost of an event: one of its kind. -/
def kindOf (event : Event Effect Answer) : Multiset Kind := {kind event.effect}

variable {kind}

theorem total_kindOf (events : List (Event Effect Answer)) :
    total (kindOf kind) events = (events.map fun event => kind event.effect : Multiset Kind) := by
  induction events with
  | nil => rfl
  | cons event events induction =>
      rw [total_cons, induction, kindOf, Multiset.singleton_add]
      rfl

/-- An effect is paid for by one of its kind. -/
theorem Within.perform {effect : Effect} {rest : Answer effect → Program Effect Answer α}
    {bound : Multiset Kind} (next : ∀ answer, (rest answer).Within (kindOf kind) bound) :
    (request effect >>= rest).Within (kindOf kind) (kind effect ::ₘ bound) := by
  rw [← Multiset.singleton_add]
  exact Within.request_bind (fun _ => rfl) next

/-- A program that has used its budget up has returned. -/
theorem Within.returned {program rest : Program Effect Answer α}
    {events : List (Event Effect Answer)} {bound : Multiset Kind}
    (within : program.Within (kindOf kind) bound) (trace : Trace program events rest)
    (answers : ∀ effect, Nonempty (Answer effect)) (used : bound.card ≤ events.length) :
    ∃ value, rest = .pure value := by
  rcases within.along trace with ⟨left, spent, remaining⟩
  have counted := Multiset.card_le_card spent
  rw [total_kindOf, Multiset.card_add, Multiset.coe_card, List.length_map] at counted
  cases rest with
  | pure value => exact ⟨value, rfl⟩
  | perform effect next =>
      rcases answers effect with ⟨answer⟩
      rcases remaining answer with ⟨last, paid, -⟩
      have more := Multiset.card_le_card paid
      rw [Multiset.card_add, kindOf, Multiset.card_singleton] at more
      omega

end

end Program

/-! ## Threads that are given their turns -/

namespace Pool

variable {State Input Move : Type} (machine : Machine Effect Answer State Input Move)

/-- The turns that advance one thread. -/
def turnsOf (thread : Nat) (turns : List (Turn Effect Answer Input Move α)) : Nat :=
  turns.countP fun
    | .advance owner _ => owner = thread
    | _ => false

variable {machine} in
/-- A thread with something left to do does it when it is given a turn. -/
theorem length_eventsOf_turn {pool : Pool Effect Answer State Move α} {thread : Nat}
    {current : Thread Effect Answer α} (found : pool.threads[thread]? = some current)
    (unfinished : ∀ value, current.rest ≠ .pure value) (move : Turn Effect Answer Input Move α) :
    (eventsOf thread (turn machine pool move).log).length =
      (eventsOf thread pool.log).length + turnsOf thread [move] := by
  cases move with
  | spawn program => rfl
  | move made => simp [turn, turnsOf]
  | advance owner input =>
      by_cases own : owner = thread
      · subst own
        rcases current with ⟨started, rest⟩
        cases rest with
        | pure value => exact absurd rfl (unfinished value)
        | perform effect next => simp [turn, found, turnsOf]
      · simp only [turn, turnsOf]
        split <;> simp [own]

/-- A finished thread stays as it is. -/
theorem turn_finished {pool : Pool Effect Answer State Move α} {thread : Nat}
    {started : Program Effect Answer α} {value : α}
    (found : pool.threads[thread]? = some ⟨started, .pure value⟩)
    (move : Turn Effect Answer Input Move α) :
    (turn machine pool move).threads[thread]? = some ⟨started, .pure value⟩ := by
  have within := (List.getElem?_eq_some_iff.mp found).1
  rcases turn_cases machine pool move with same | ⟨program, -, spawned⟩ |
    ⟨owner, input, other, effect, next, -, current, advanced⟩ | ⟨made, -, moved⟩
  · rw [same]
    exact found
  · rw [spawned]
    exact (List.getElem?_append_left within).trans found
  · have different : owner ≠ thread := by
      intro own
      rw [own, found] at current
      cases current
    rw [advanced]
    exact (List.getElem?_set_ne different).trans found
  · rw [moved]
    exact found

/-- A thread has finished, or has done as many effects as it was given turns. -/
theorem run_moved {pool : Pool Effect Answer State Move α} {thread : Nat}
    {current : Thread Effect Answer α} (found : pool.threads[thread]? = some current)
    (turns : List (Turn Effect Answer Input Move α)) :
    ∃ rest, (run machine pool turns).threads[thread]? = some ⟨current.started, rest⟩ ∧
      ((∃ value, rest = .pure value) ∨
        (eventsOf thread (run machine pool turns).log).length =
          (eventsOf thread pool.log).length + turnsOf thread turns) := by
  induction turns generalizing pool current with
  | nil => exact ⟨current.rest, found, .inr rfl⟩
  | cons move turns induction =>
      have split : turnsOf thread (move :: turns) =
          turnsOf thread [move] + turnsOf thread turns := by
        simp only [turnsOf, List.countP_cons, List.countP_nil]
        omega
      have present : ∃ rest, (turn machine pool move).threads[thread]? =
          some ⟨current.started, rest⟩ := by
        have started := congrArg (fun programs => programs[thread]?)
          (turn_started machine pool move)
        have within : thread < (pool.threads.map (·.started)).length := by
          simpa using (List.getElem?_eq_some_iff.mp found).1
        simp only [List.getElem?_append_left within, List.getElem?_map, found,
          Option.map_some] at started
        rcases Option.map_eq_some_iff.mp started with ⟨⟨_, rest⟩, next, rfl⟩
        exact ⟨rest, next⟩
      rcases present with ⟨rest, next⟩
      rcases induction next with ⟨last, final, finished | counted⟩
      · exact ⟨last, final, .inl finished⟩
      · refine ⟨last, final, ?_⟩
        rcases current with ⟨started, own⟩
        cases own with
        | perform effect later =>
            right
            have step : (eventsOf thread (turn machine pool move).log).length =
                (eventsOf thread pool.log).length + turnsOf thread [move] :=
              length_eventsOf_turn found (by simp) move
            rw [run_cons, counted, step, split, Nat.add_assoc]
        | pure value =>
            left
            have kept : ∀ (pool : Pool Effect Answer State Move α),
                pool.threads[thread]? = some ⟨started, .pure value⟩ →
                (run machine pool turns).threads[thread]? = some ⟨started, .pure value⟩ :=
              fun pool held => by
                have keeps : ∀ (pool : Pool Effect Answer State Move α) move, True →
                    pool.threads[thread]? = some ⟨started, .pure value⟩ →
                    (turn machine pool move).threads[thread]? = some ⟨started, .pure value⟩ :=
                  fun _ move _ held => turn_finished machine held move
                exact run_induction keeps held fun _ _ => trivial
            have same := kept _ (turn_finished machine found move)
            rw [final] at same
            exact ⟨value, congrArg Thread.rest (Option.some.inj same)⟩

end Pool

end VoucherProxy
