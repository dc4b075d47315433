import Mathlib.Algebra.BigOperators.Group.Finset.Piecewise
import VoucherProxy.Foundation.Accounting
import VoucherProxy.Foundation.Pool

namespace VoucherProxy

/-! Adding up over events: what a weight of single events comes to over a program,
over programs run one after the other or side by side, and over a whole pool. -/

variable {Effect : Type} {Answer : Effect → Type} {M : Type}

section

variable [AddCommMonoid M] (weight : Event Effect Answer → M)

def total (events : List (Event Effect Answer)) : M := (events.map weight).sum

@[simp] theorem total_nil : total weight [] = 0 := rfl

@[simp] theorem total_cons (event : Event Effect Answer) (events : List (Event Effect Answer)) :
    total weight (event :: events) = weight event + total weight events := by
  simp [total]

@[simp] theorem total_append (early late : List (Event Effect Answer)) :
    total weight (early ++ late) = total weight early + total weight late := by
  simp [total]

variable {weight}

theorem total_eq_zero {events : List (Event Effect Answer)}
    (weightless : ∀ event ∈ events, weight event = 0) : total weight events = 0 :=
  List.sum_eq_zero fun value member => by
    rcases List.mem_map.mp member with ⟨event, present, rfl⟩
    exact weightless event present

/-! ### Collecting -/

/-- What an event contributes to a collection, as a weight. -/
def chosen {γ : Type} (select : Event Effect Answer → Option γ) (event : Event Effect Answer) :
    Multiset γ :=
  (select event).toList

theorem total_chosen {γ : Type} (select : Event Effect Answer → Option γ)
    (events : List (Event Effect Answer)) :
    total (chosen select) events = (events.filterMap select : Multiset γ) := by
  induction events with
  | nil => rfl
  | cons event events induction =>
      rw [total_cons, induction, List.filterMap_cons, chosen]
      cases select event with
      | none => exact zero_add _
      | some value => rfl

/-! ## Over a pool -/

namespace Pool

/-- What a log contributes to a collection, in order. -/
def selected {γ Move : Type} (select : Event Effect Answer → Option γ)
    (log : List (Occurrence Effect Answer Move)) : List γ :=
  log.filterMap fun
    | .event _ event => select event
    | .move _ => none

@[simp] theorem selected_append {γ Move : Type} (select : Event Effect Answer → Option γ)
    (early late : List (Occurrence Effect Answer Move)) :
    selected select (early ++ late) = selected select early ++ selected select late :=
  List.filterMap_append

variable {Move : Type} (weight)

/-- What a weight comes to over the events of a log. -/
def logged (log : List (Occurrence Effect Answer Move)) : M :=
  (log.map fun
    | .event _ event => weight event
    | .move _ => 0).sum

@[simp] theorem logged_nil : logged weight ([] : List (Occurrence Effect Answer Move)) = 0 := rfl

@[simp] theorem logged_append (early late : List (Occurrence Effect Answer Move)) :
    logged weight (early ++ late) = logged weight early + logged weight late := by
  simp [logged]

@[simp] theorem logged_event (thread : Nat) (event : Event Effect Answer) :
    logged weight [(.event thread event : Occurrence Effect Answer Move)] = weight event := by
  simp [logged]

@[simp] theorem logged_move (move : Move) :
    logged weight [(.move move : Occurrence Effect Answer Move)] = 0 := by
  simp [logged]

/-- A weight that never exceeds so many times another comes to no more than that. -/
theorem logged_le_mul {weight other : Event Effect Answer → Nat} {most : Nat}
    {log : List (Occurrence Effect Answer Move)}
    (each : ∀ thread event, .event thread event ∈ log → weight event ≤ most * other event) :
    logged weight log ≤ most * logged other log := by
  induction log with
  | nil => exact Nat.zero_le _
  | cons first log induction =>
      have rest := induction fun thread event member => each thread event (.tail _ member)
      have split : ∀ weight : Event Effect Answer → Nat,
          logged weight (first :: log) = logged weight [first] + logged weight log :=
        fun weight => logged_append weight [first] log
      rw [split weight, split other, Nat.mul_add]
      cases first with
      | event thread event =>
          rw [logged_event, logged_event]
          exact Nat.add_le_add (each thread event (.head _)) rest
      | move made => simpa using rest

theorem logged_chosen {γ : Type} (select : Event Effect Answer → Option γ)
    (log : List (Occurrence Effect Answer Move)) :
    logged (chosen select) log = (selected select log : Multiset γ) := by
  induction log using List.reverseRecOn with
  | nil => rfl
  | append_singleton log last induction =>
      rw [logged_append, induction, selected_append, ← Multiset.coe_add]
      congr 1
      cases last with
      | move move => exact logged_move _ move
      | event thread event =>
          rw [logged_event, chosen]
          simp only [selected, List.filterMap_cons, List.filterMap_nil]
          cases select event <;> rfl

/-- A log adds up thread by thread. -/
theorem logged_eq_sum {log : List (Occurrence Effect Answer Move)} {threads : Nat}
    (owners : ∀ index, threads ≤ index → eventsOf index log = []) :
    logged weight log = ∑ index ∈ Finset.range threads, total weight (eventsOf index log) := by
  induction log using List.reverseRecOn with
  | nil => simp
  | append_singleton log last induction =>
      have earlier : ∀ index, threads ≤ index → eventsOf index log = [] := by
        intro index beyond
        have none := owners index beyond
        rw [eventsOf_append] at none
        exact (List.append_eq_nil_iff.mp none).1
      rw [logged_append, induction earlier]
      cases last with
      | move move => simp
      | event owner event =>
          have within : owner < threads := by
            by_contra beyond
            have none := owners owner (Nat.le_of_not_lt beyond)
            simp at none
          have share : ∀ index, total weight (eventsOf index (log ++ [.event owner event])) =
              total weight (eventsOf index log) + if owner = index then weight event else 0 := by
            intro index
            rw [eventsOf_append, total_append, eventsOf_event]
            by_cases own : owner = index <;> simp [own]
          simp only [share, Finset.sum_add_distrib, logged_event]
          rw [Finset.sum_ite_eq, if_pos (Finset.mem_range.mpr within)]

end Pool

end

/-! ## What a solvent program spends -/

/-- At any point a solvent program has spent no more than it had and earned. -/
theorem Program.Solvent.total_le {α : Type} {ledger : Ledger Effect Answer} {left : α → Nat}
    {program rest : Program Effect Answer α} {events : List (Event Effect Answer)} {credit : Nat}
    (solvent : program.Solvent ledger left credit) (trace : Program.Trace program events rest) :
    total (fun event => (ledger.costs event.effect).toNat) events ≤
      credit + total (fun event => (ledger.earns event.effect event.answer).toNat) events := by
  induction trace generalizing credit with
  | nil => exact Nat.zero_le _
  | @cons effect next answer events rest _ induction =>
      have affordable := solvent.1
      have later := induction (solvent.2 answer)
      simp only [total_cons] at later ⊢
      omega

/-- What is left of it can spend what is left of its credit. -/
theorem Program.Solvent.along {α : Type} {ledger : Ledger Effect Answer} {left : α → Nat}
    {program rest : Program Effect Answer α} {events : List (Event Effect Answer)} {credit : Nat}
    (solvent : program.Solvent ledger left credit) (trace : Program.Trace program events rest) :
    rest.Solvent ledger left
      (credit + total (fun event => (ledger.earns event.effect event.answer).toNat) events -
        total (fun event => (ledger.costs event.effect).toNat) events) := by
  induction trace generalizing credit with
  | nil => exact solvent
  | @cons effect next answer events rest _ induction =>
      have affordable := solvent.1
      apply (induction (solvent.2 answer)).mono
      simp only [total_cons]
      omega

/-! ## Over programs one after the other -/

namespace Program

variable {α β : Type} {stops : α → Bool}

/-- What programs did that ran one after the other, up to the first value that
stopped the rest. -/
inductive Sequenced (stops : α → Bool) : List (Program Effect Answer α) →
    List (Event Effect Answer) → List α → Prop
  | nil : Sequenced stops [] [] []
  | stop {program rest events value} (first : Trace program events (.pure value))
      (stopped : stops value = true) : Sequenced stops (program :: rest) events [value]
  | next {program rest events later value values} (first : Trace program events (.pure value))
      (continues : stops value = false) (others : Sequenced stops rest later values) :
      Sequenced stops (program :: rest) (events ++ later) (value :: values)

theorem sequenced_of_trace {programs : List (Program Effect Answer α)}
    {events : List (Event Effect Answer)} {values : List α}
    (trace : (sequence stops programs).Trace events (.pure values)) :
    Sequenced stops programs events values := by
  induction programs generalizing events values with
  | nil =>
      rcases Trace.of_pure trace with ⟨rfl, rfl⟩
      exact .nil
  | cons program rest induction =>
      rcases Trace.of_bind trace with ⟨early, value, late, rfl, first, tail⟩
      cases stopped : stops value with
      | true =>
          simp only [stopped, if_true] at tail
          rcases Trace.of_pure tail with ⟨rfl, rfl⟩
          rw [List.append_nil]
          exact .stop first stopped
      | false =>
          simp only [stopped, Bool.false_eq_true, if_false] at tail
          rcases Trace.of_bind tail with ⟨middle, others, last, rfl, second, ended⟩
          rcases Trace.of_pure ended with ⟨rfl, rfl⟩
          rw [List.append_nil]
          exact .next first stopped (induction second)

/-- What holds of each of the programs, and of nothing done, and of one thing done
after the other, holds of all of them. -/
theorem Sequenced.holds {programs : List (Program Effect Answer α)}
    {events : List (Event Effect Answer)} {values : List α}
    (sequenced : Sequenced stops programs events values)
    {property : List (Event Effect Answer) → Prop} (nothing : property [])
    (append : ∀ early late, property early → property late → property (early ++ late))
    (each : ∀ program ∈ programs, ∀ events value, Trace program events (.pure value) →
      property events) : property events := by
  induction sequenced with
  | nil => exact nothing
  | stop first _ => exact each _ (by simp) _ _ first
  | next first _ _ induction =>
      apply append _ _ (each _ (by simp) _ _ first)
      exact induction fun program member => each program (by simp [member])

/-! ## Over programs side by side -/

section

variable [AddCommGroup M] (weight : Event Effect Answer → M)
  (good : Event Effect Answer → Prop)

/-- Whenever the program ends after good events only, its value stops nothing and
its events come to this balance. -/
def Balances (stops : α → Bool) (balance : M) (program : Program Effect Answer α) : Prop :=
  ∀ events value, Trace program events (.pure value) → (∀ event ∈ events, good event) →
    stops value = false ∧ total weight events = balance

variable {weight good}

theorem Balances.step {balance : M} {effect : Effect}
    {next : Answer effect → Program Effect Answer α}
    (balances : Balances weight good stops balance (.perform effect next))
    {answer : Answer effect} (fine : good ⟨effect, answer⟩) :
    Balances weight good stops (balance - weight ⟨effect, answer⟩) (next answer) := by
  intro events value trace goods
  rcases balances (⟨effect, answer⟩ :: events) value (.cons trace) (by
    intro event member
    rcases List.mem_cons.mp member with rfl | later
    · exact fine
    · exact goods event later) with ⟨continues, whole⟩
  refine ⟨continues, ?_⟩
  rw [total_cons] at whole
  rw [← whole, add_sub_cancel_left]

/-- Programs that are balanced come to the sum of their balances. -/
theorem Sequenced.balanced {programs : List (Program Effect Answer α)}
    {events : List (Event Effect Answer)} {values : List α}
    (sequenced : Sequenced stops programs events values) {balances : List M}
    (balanced : List.Forall₂ (Balances weight good stops) balances programs)
    (goods : ∀ event ∈ events, good event) : total weight events = balances.sum := by
  induction sequenced generalizing balances with
  | nil =>
      cases balanced
      rfl
  | stop first stopped =>
      cases balanced with
      | cons own _ =>
          rw [(own _ _ first goods).1] at stopped
          cases stopped
  | next first _ _ induction =>
      cases balanced with
      | cons own others =>
          rw [total_append, List.sum_cons, (own _ _ first fun event member =>
            goods event (List.mem_append_left _ member)).2]
          rw [induction others fun event member => goods event (List.mem_append_right _ member)]

/-- So do they side by side, as long as what is left of them is finished one after
the other. -/
theorem interleave_balanced {halted : List (Program Effect Answer α) → Bool}
    {finish : List (Program Effect Answer α) → Program Effect Answer β}
    (finishes : ∀ balances programs events value,
      List.Forall₂ (Balances weight good stops) balances programs →
      Trace (finish programs) events (.pure value) → (∀ event ∈ events, good event) →
      total weight events = balances.sum)
    {turns : List Nat} {programs : List (Program Effect Answer α)} {balances : List M}
    (balanced : List.Forall₂ (Balances weight good stops) balances programs)
    {events : List (Event Effect Answer)} {value : β}
    (trace : Trace (interleave halted finish turns programs) events (.pure value))
    (goods : ∀ event ∈ events, good event) : total weight events = balances.sum := by
  induction turns generalizing programs balances events with
  | nil => exact finishes _ _ _ _ balanced trace goods
  | cons turn turns induction =>
      unfold interleave at trace
      split at trace
      · exact finishes _ _ _ _ balanced trace goods
      · split at trace
        · next effect next found =>
            rcases Trace.of_request trace with ⟨answer, later, rfl, tail⟩
            have fine := goods ⟨effect, answer⟩ (by simp)
            rcases forall₂_set balanced found with ⟨balance, others, own, split, update⟩
            rcases update _ (next answer) (own.step fine) with ⟨updated, moved, sum⟩
            rw [total_cons, induction moved tail fun event member => goods event (by simp [member]),
              sum, split, ← add_assoc, add_sub_cancel]
        · exact induction balanced trace goods

end

end Program

end VoucherProxy
