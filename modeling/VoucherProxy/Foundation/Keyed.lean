import Mathlib.Data.Set.Card
import VoucherProxy.Foundation.Gcra

namespace VoucherProxy

/-! # Limiters with one state per key

A limiter that serves many keys keeps one arrival time for each. It may forget what
is as good as fresh, at any time and for any key, without its verdicts telling. -/

section Verdicts

variable {State Call : Type} (check : State → Call → Bool × State)
  (own : Call → Prop) [DecidablePred own]

/-- The verdicts on some of the calls, while all of them are made. -/
def verdictsOf : State → List Call → List Bool
  | _, [] => []
  | state, call :: later =>
      if own call then (check state call).1 :: verdictsOf (check state call).2 later
      else verdictsOf (check state call).2 later

theorem verdictsOf_cons_of_pos {state : State} {call : Call} (later : List Call)
    (owned : own call) :
    verdictsOf check own state (call :: later) =
      (check state call).1 :: verdictsOf check own (check state call).2 later :=
  if_pos owned

theorem verdictsOf_cons_of_neg {state : State} {call : Call} (later : List Call)
    (other : ¬ own call) :
    verdictsOf check own state (call :: later) =
      verdictsOf check own (check state call).2 later :=
  if_neg other

end Verdicts

/-- A schedule in time order begins no earlier than some time. -/
theorem exists_start {K : Type} [Preorder K] [Nonempty K] {times : List K}
    (ordered : times.Pairwise (· ≤ ·)) : ∃ start, (start :: times).Pairwise (· ≤ ·) := by
  cases times with
  | nil => exact ⟨Classical.arbitrary K, List.pairwise_singleton _ _⟩
  | cons first later =>
      refine ⟨first, List.pairwise_cons.mpr ⟨?_, ordered⟩⟩
      rw [List.forall_mem_cons]
      exact ⟨le_rfl, (List.pairwise_cons.mp ordered).1⟩

namespace Gcra

variable {K : Type} [Field K] [LinearOrder K]

/-- From some time on nothing tells two states apart. -/
def SameFrom (now : K) (left right : Option K) : Prop :=
  ∀ later, now ≤ later → backlog left later = backlog right later

namespace SameFrom

variable {now : K} {left middle right : Option K}

theorem refl (now : K) (state : Option K) : SameFrom now state state := fun _ _ => rfl

theorem symm (same : SameFrom now left right) : SameFrom now right left :=
  fun later order => (same later order).symm

theorem trans (first : SameFrom now left middle) (second : SameFrom now middle right) :
    SameFrom now left right :=
  fun later order => (first later order).trans (second later order)

theorem mono (same : SameFrom now left right) {later : K} (order : now ≤ later) :
    SameFrom later left right :=
  fun next after => same next (order.trans after)

/-- States that cannot be told apart are treated alike, and stay so. -/
theorem check (same : SameFrom now left right) (limiter : Gcra K) :
    (limiter.check left now).1 = (limiter.check right now).1 ∧
      SameFrom now (limiter.check left now).2 (limiter.check right now).2 := by
  rw [Gcra.check, Gcra.check, same now le_rfl]
  by_cases within : backlog right now ≤ (limiter.burst - 1) * limiter.interval
  · rw [if_pos within, if_pos within]
    exact ⟨rfl, refl _ _⟩
  · rw [if_neg within, if_neg within]
    exact ⟨rfl, same⟩

end SameFrom

/-- As good as fresh is what lies in the past. -/
theorem sameFrom_none_iff [IsStrictOrderedRing K] {now arrival : K} :
    SameFrom now (some arrival) none ↔ arrival ≤ now := by
  constructor
  · intro same
    have drained : max 0 (arrival - now) = 0 := same now le_rfl
    exact sub_nonpos.mp (max_eq_left_iff.mp drained)
  · intro past later order
    exact max_eq_left (sub_nonpos.mpr (past.trans order))

/-! ## One state per key -/

section Keys

variable {State Call Key : Type} [DecidableEq Key] (key : Call → Key) (reading : Call → K)

/-- A limiter that answers each call by the state of its key, and moves that state on.
What it does to the others besides cannot be told. -/
structure Keeps (quota : State → Gcra K) (entries : State → Key → Option K)
    (check : State → Call → Bool × State) : Prop where
  quota_check : ∀ state call, quota (check state call).2 = quota state
  verdict : ∀ state call, (check state call).1 =
    ((quota state).check (entries state (key call)) (reading call)).1
  own : ∀ state call, SameFrom (reading call) (entries (check state call).2 (key call))
    ((quota state).check (entries state (key call)) (reading call)).2
  other : ∀ state call other, other ≠ key call →
    SameFrom (reading call) (entries (check state call).2 other) (entries state other)

variable {key reading} {quota : State → Gcra K} {entries : State → Key → Option K}
  {check : State → Call → Bool × State}

/-- The verdicts on a key's calls are those of a limiter of its own. -/
theorem Keeps.verdictsOf_eq (keeps : Keeps key reading quota entries check) (served : Key)
    {schedule : List Call} {now : K} (ordered : (now :: schedule.map reading).Pairwise (· ≤ ·))
    {state : State} {arrival : Option K} (same : SameFrom now (entries state served) arrival) :
    verdictsOf check (key · = served) state schedule =
      verdicts (quota state).check arrival
        ((schedule.filter (key · = served)).map reading) := by
  induction schedule generalizing now state arrival with
  | nil => rfl
  | cons call later induction =>
      have order : now ≤ reading call := (List.pairwise_cons.mp ordered).1 _ (by simp)
      have rest := (List.pairwise_cons.mp ordered).2
      have current := same.mono order
      have continued : ∀ {moved : Option K},
          SameFrom (reading call) (entries (check state call).2 served) moved →
          verdictsOf check (key · = served) (check state call).2 later =
            verdicts (quota state).check moved
              ((later.filter (key · = served)).map reading) := by
        intro moved sameMoved
        rw [← keeps.quota_check state call]
        exact induction rest sameMoved
      by_cases owned : key call = served
      · have step := current.check (quota state)
        rw [verdictsOf_cons_of_pos check _ later owned, List.filter_cons_of_pos (by simp [owned]),
          List.map_cons, verdicts_cons, keeps.verdict, owned, step.1]
        congr 1
        apply continued
        have moved := keeps.own state call
        rw [owned] at moved
        exact moved.trans step.2
      · rw [verdictsOf_cons_of_neg check _ later owned, List.filter_cons_of_neg (by simp [owned])]
        apply continued
        exact (keeps.other state call served (Ne.symm owned)).trans current

end Keys

end Gcra

end VoucherProxy
