import Mathlib.Algebra.BigOperators.Group.List.Basic
import Mathlib.Data.Nat.Nth
import VoucherProxy.Foundation.Program

namespace VoucherProxy

/-! Programs that pay before they spend. Some answers earn a unit of credit and
some effects cost one; a solvent program never spends credit it has not earned
before. Whatever the interleaving, every cost of a solvent program can then be
matched with an earning of its own. -/

/-- Which answers earn one unit and which effects cost one. -/
structure Ledger (Effect : Type) (Answer : Effect → Type) where
  earns : (effect : Effect) → Answer effect → Bool
  costs : Effect → Bool

/-- Replacing one of the right-hand values changes its own share of the sum only. -/
theorem forall₂_set {κ γ : Type} [AddCommMonoid κ] {related : κ → γ → Prop}
    {shares : List κ} {values : List γ} (all : List.Forall₂ related shares values) {turn : Nat}
    {current : γ} (found : values[turn]? = some current) :
    ∃ share others, related share current ∧ shares.sum = share + others ∧
      ∀ own value, related own value → ∃ updated,
        List.Forall₂ related updated (values.set turn value) ∧ updated.sum = own + others := by
  induction all generalizing turn with
  | nil => simp at found
  | @cons share head shares values first rest induction =>
      cases turn with
      | zero =>
          simp only [List.getElem?_cons_zero, Option.some.injEq] at found
          subst found
          refine ⟨share, shares.sum, first, List.sum_cons, fun own value isOwn => ?_⟩
          exact ⟨own :: shares, .cons isOwn rest, List.sum_cons⟩
      | succ turn =>
          simp only [List.getElem?_cons_succ] at found
          rcases induction found with ⟨kept, others, isKept, split, update⟩
          refine ⟨kept, share + others, isKept, ?_, fun own value isOwn => ?_⟩
          · rw [List.sum_cons, split, add_left_comm]
          · rcases update own value isOwn with ⟨updated, moved, sum⟩
            exact ⟨share :: updated, .cons first moved, by
              rw [List.sum_cons, sum, add_left_comm]⟩

namespace Program

variable {Effect : Type} {Answer : Effect → Type} {α β : Type}

/-- With `credit` in hand the program never spends more than it has, and when
it returns it has at least what `left` says of the value it returns. -/
def Solvent (ledger : Ledger Effect Answer) (left : α → Nat) :
    Nat → Program Effect Answer α → Prop
  | credit, .pure value => left value ≤ credit
  | credit, .perform effect next =>
      (ledger.costs effect).toNat ≤ credit ∧ ∀ answer,
        (next answer).Solvent ledger left
          (credit - (ledger.costs effect).toNat + (ledger.earns effect answer).toNat)

variable {ledger : Ledger Effect Answer} {left : α → Nat} {final : β → Nat}

theorem Solvent.mono {program : Program Effect Answer α} {credit richer : Nat}
    (solvent : program.Solvent ledger left credit) (within : credit ≤ richer) :
    program.Solvent ledger left richer := by
  induction program generalizing credit richer with
  | pure value => exact Nat.le_trans solvent within
  | perform effect next induction =>
      exact ⟨solvent.1.trans within, fun answer =>
        induction answer (solvent.2 answer) (by omega)⟩

/-- Credit kept aside for what follows stays available to it. -/
theorem Solvent.frame_bind {program : Program Effect Answer α}
    {rest : α → Program Effect Answer β} {own kept : Nat}
    (first : program.Solvent ledger left own)
    (second : ∀ value, (rest value).Solvent ledger final (left value + kept)) :
    (program >>= rest).Solvent ledger final (own + kept) := by
  induction program generalizing own with
  | pure value => exact (second value).mono (Nat.add_le_add_right first kept)
  | perform effect next induction =>
      have affordable := first.1
      refine ⟨by omega, fun answer => ?_⟩
      exact (induction answer (first.2 answer)).mono (by omega)

theorem Solvent.bind {program : Program Effect Answer α}
    {rest : α → Program Effect Answer β} {own : Nat}
    (first : program.Solvent ledger left own)
    (second : ∀ value, (rest value).Solvent ledger final (left value)) :
    (program >>= rest).Solvent ledger final own := by
  have framed : (program >>= rest).Solvent ledger final (own + 0) := first.frame_bind second
  exact framed

/-- An effect that costs nothing leaves the credit as it is. -/
theorem Solvent.free_bind {effect : Effect} {rest : Answer effect → Program Effect Answer α}
    {credit : Nat} (free : ledger.costs effect = false)
    (next : ∀ answer, (rest answer).Solvent ledger left credit) :
    (request effect >>= rest).Solvent ledger left credit := by
  refine ⟨by simp [free], fun answer => (next answer).mono ?_⟩
  simp [free]

/-- The program pays for itself from `credit`, and nothing need be left. -/
abbrev Pays (ledger : Ledger Effect Answer) (credit : Nat)
    (program : Program Effect Answer α) : Prop :=
  program.Solvent ledger (fun _ => 0) credit

theorem pays_pure (credit : Nat) (value : α) :
    (Program.pure value : Program Effect Answer α).Pays ledger credit := Nat.zero_le _

/-- Every program of the list can pay from the purse at the same position. -/
def Purses (ledger : Ledger Effect Answer) :
    List Nat → List (Program Effect Answer α) → Prop :=
  List.Forall₂ fun credit program => program.Pays ledger credit

theorem Purses.empty : ∀ {programs : List (Program Effect Answer α)},
    (∀ program ∈ programs, program.Pays ledger 0) →
    Purses ledger (List.replicate programs.length 0) programs
  | [], _ => .nil
  | program :: rest, solvent =>
      .cons (solvent program (by simp))
        (Purses.empty fun later member => solvent later (by simp [member]))

theorem Purses.sequence (stops : α → Bool) {credits : List Nat}
    {programs : List (Program Effect Answer α)} (purses : Purses ledger credits programs) :
    (sequence stops programs).Pays ledger credits.sum := by
  induction purses with
  | nil => exact pays_pure _ _
  | @cons credit program credits programs first _ induction =>
      rw [List.sum_cons]
      apply first.frame_bind
      intro value
      rw [Nat.zero_add]
      by_cases stopped : stops value
      · simp only [stopped, if_true]
        exact pays_pure _ _
      · simp only [stopped, Bool.false_eq_true, if_false]
        exact induction.bind fun _ => pays_pure _ _

theorem Purses.interleave {halted : List (Program Effect Answer α) → Bool}
    {finish : List (Program Effect Answer α) → Program Effect Answer β}
    (finishes : ∀ credits programs, Purses ledger credits programs →
      (finish programs).Pays ledger credits.sum) (turns : List Nat)
    {credits : List Nat} {programs : List (Program Effect Answer α)}
    (purses : Purses ledger credits programs) :
    (interleave halted finish turns programs).Pays ledger credits.sum := by
  induction turns generalizing credits programs with
  | nil => exact finishes _ _ purses
  | cons turn turns induction =>
      unfold Program.interleave
      split
      · exact finishes _ _ purses
      · split
        · next effect next found =>
            rcases forall₂_set purses found with ⟨credit, others, solvent, split, update⟩
            have affordable := solvent.1
            refine ⟨by omega, fun answer => ?_⟩
            rcases update _ (next answer) (solvent.2 answer) with ⟨updated, moved, sum⟩
            exact (induction moved).mono (by omega)
        · exact induction purses

/-- Programs that need no credit of their own need none one after the other. -/
theorem Pays.sequence (stops : α → Bool) {programs : List (Program Effect Answer α)}
    (pay : ∀ program ∈ programs, program.Pays ledger 0) :
    (sequence stops programs).Pays ledger 0 := by
  have paid := (Purses.empty pay).sequence stops
  rwa [List.sum_replicate, nsmul_zero] at paid

/-- Nor do they need any side by side. -/
theorem Pays.interleave {halted : List (Program Effect Answer α) → Bool}
    {finish : List (Program Effect Answer α) → Program Effect Answer β}
    (finishes : ∀ credits programs, Purses ledger credits programs →
      (finish programs).Pays ledger credits.sum) (turns : List Nat)
    {programs : List (Program Effect Answer α)}
    (pay : ∀ program ∈ programs, program.Pays ledger 0) :
    (interleave halted finish turns programs).Pays ledger 0 := by
  have paid : (Program.interleave halted finish turns programs).Pays ledger _ :=
    (Purses.empty pay).interleave finishes turns
  rwa [List.sum_replicate, nsmul_zero] at paid

end Program

/-! ## Matching costs with earnings -/

namespace Ledger

variable {Effect : Type} {Answer : Effect → Type} (ledger : Ledger Effect Answer)

def EarnsAt (events : List (Event Effect Answer)) (position : Nat) : Prop :=
  ∃ event, events[position]? = some event ∧ ledger.earns event.effect event.answer = true

def CostsAt (events : List (Event Effect Answer)) (position : Nat) : Prop :=
  ∃ event, events[position]? = some event ∧ ledger.costs event.effect = true

/-- Every cost is paid for by an earlier earning that pays for no other cost. -/
def Balanced (events : List (Event Effect Answer)) : Prop :=
  ∃ payer : Nat → Nat, Set.InjOn payer {position | ledger.CostsAt events position} ∧
    ∀ position, ledger.CostsAt events position →
      payer position < position ∧ ledger.EarnsAt events (payer position)

instance (events : List (Event Effect Answer)) : DecidablePred (ledger.EarnsAt events) :=
  fun position =>
    match found : events[position]? with
    | none => isFalse (by simp [EarnsAt, found])
    | some event =>
        decidable_of_iff (ledger.earns event.effect event.answer = true)
          (by simp [EarnsAt, found])

instance (events : List (Event Effect Answer)) : DecidablePred (ledger.CostsAt events) :=
  fun position =>
    match found : events[position]? with
    | none => isFalse (by simp [CostsAt, found])
    | some event =>
        decidable_of_iff (ledger.costs event.effect = true) (by simp [CostsAt, found])

end Ledger

/-- When spending never overtakes earning, each spending position can be given
an earlier earning position of its own: the one of the same rank. -/
theorem exists_payer (earns spends : Nat → Prop) [DecidablePred earns]
    [DecidablePred spends]
    (solvent : ∀ position, spends position →
      Nat.count spends position < Nat.count earns position) :
    ∃ payer : Nat → Nat, Set.InjOn payer {position | spends position} ∧
      ∀ position, spends position → payer position < position ∧ earns (payer position) := by
  have enough : ∀ position, spends position →
      ∀ finite : (Set.ofPred earns).Finite,
        Nat.count spends position < finite.toFinset.card := fun position spending finite =>
    (solvent position spending).trans_le (Nat.count_le_card finite position)
  refine ⟨fun position => Nat.nth earns (Nat.count spends position), ?_, ?_⟩
  · intro left leftSpends right rightSpends same
    have sameRank := congrArg (Nat.count earns) same
    simp only [Nat.count_nth (enough left leftSpends),
      Nat.count_nth (enough right rightSpends)] at sameRank
    exact Nat.count_injective leftSpends rightSpends sameRank
  · intro position spending
    exact ⟨Nat.nth_lt_of_lt_count (solvent position spending),
      Nat.nth_mem _ (enough position spending)⟩

namespace Program

variable {Effect : Type} {Answer : Effect → Type} {α : Type}
variable {ledger : Ledger Effect Answer} {left : α → Nat}

theorem Solvent.count_lt {program rest : Program Effect Answer α}
    {events : List (Event Effect Answer)} {credit : Nat}
    (solvent : program.Solvent ledger left credit) (trace : Trace program events rest)
    (position : Nat) (spending : ledger.CostsAt events position) :
    Nat.count (ledger.CostsAt events) position <
      credit + Nat.count (ledger.EarnsAt events) position := by
  induction trace generalizing credit position with
  | nil => rcases spending with ⟨event, found, _⟩; simp at found
  | @cons effect next answer events rest _ induction =>
      have affordable := solvent.1
      cases position with
      | zero =>
          rcases spending with ⟨event, found, costly⟩
          simp only [List.getElem?_cons_zero, Option.some.injEq] at found
          subst found
          simp only [costly, Bool.toNat_true] at affordable
          simpa using Nat.lt_of_succ_le affordable
      | succ position =>
          have later := induction (solvent.2 answer) position spending
          have earnsFirst :
              (ledger.earns effect answer).toNat =
                if ledger.EarnsAt (⟨effect, answer⟩ :: events) 0 then 1 else 0 := by
            cases earned : ledger.earns effect answer <;> simp [Ledger.EarnsAt, earned]
          have costsFirst :
              (ledger.costs effect).toNat =
                if ledger.CostsAt (⟨effect, answer⟩ :: events) 0 then 1 else 0 := by
            cases costly : ledger.costs effect <;> simp [Ledger.CostsAt, costly]
          rw [Nat.count_succ', Nat.count_succ', ← earnsFirst, ← costsFirst]
          change Nat.count (ledger.CostsAt events) position + _ <
            credit + (Nat.count (ledger.EarnsAt events) position + _)
          omega

/-- A solvent program without credit of its own pays for every cost. -/
theorem Solvent.balanced {program rest : Program Effect Answer α}
    {events : List (Event Effect Answer)} (solvent : program.Pays ledger 0)
    (trace : Trace program events rest) : ledger.Balanced events :=
  exists_payer _ _ fun position spending => by
    simpa using solvent.count_lt trace position spending

end Program

end VoucherProxy
