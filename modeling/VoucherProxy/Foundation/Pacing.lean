import VoucherProxy.Foundation.Keyed

namespace VoucherProxy

/-! # Schedules that a limiter admits

A schedule conforms to a limiter when no time has more calls in it than the burst and
what is refilled in its course. These are the schedules of which nothing is refused. -/

/-- The verdicts on some of the items, when those on all of them are known. -/
theorem verdictsOf_eq_filter {State Call Item : Type} {check : State → Call → Bool × State}
    (own : Call → Prop) [DecidablePred own] {call : Item → Call} {granted : Item → Bool}
    {state : State} {items : List Item}
    (same : items.map granted = verdicts check state (items.map call)) :
    (items.filter fun item => own (call item)).map granted =
      verdictsOf check own state (items.map call) := by
  induction items generalizing state with
  | nil => rfl
  | cons item later induction =>
      rw [List.map_cons, List.map_cons, verdicts_cons, List.cons.injEq] at same
      by_cases owned : own (call item)
      · rw [List.filter_cons_of_pos (by simpa using owned), List.map_cons, List.map_cons,
          verdictsOf_cons_of_pos check own _ owned, same.1, induction same.2]
      · rw [List.filter_cons_of_neg (by simpa using owned), List.map_cons,
          verdictsOf_cons_of_neg check own _ owned, induction same.2]

/-- What is picked of some items, each with a reading of its own, has the readings in order. -/
theorem sublist_of_picked {Item Picked Reading : Type} {pick : Item → Option Picked}
    {own : Picked → Reading} {reading : Item → Reading}
    (reads : ∀ item picked, pick item = some picked → own picked = reading item)
    (items : List Item) : ((items.filterMap pick).map own).Sublist (items.map reading) := by
  induction items with
  | nil => exact .refl _
  | cons item items induction =>
      rw [List.map_cons]
      cases picks : pick item with
      | none =>
          rw [List.filterMap_cons_none picks]
          exact induction.cons _
      | some picked =>
          rw [List.filterMap_cons_some picks, List.map_cons, reads item picked picks]
          exact induction.cons_cons _

namespace Gcra

variable {K : Type} [Field K] [LinearOrder K] (limiter : Gcra K)

/-- The calls that fall between two times. -/
def between (first last : K) (schedule : List K) : Nat :=
  schedule.countP fun time => first ≤ time ∧ time ≤ last

def Conforms (schedule : List K) : Prop :=
  ∀ first last, first ≤ last →
    (between first last schedule : K) ≤ limiter.burst + (last - first) / limiter.interval

variable {limiter}

variable [IsStrictOrderedRing K]

/-- Fewer calls conform as well. -/
theorem Conforms.sublist {schedule fewer : List K} (conforms : limiter.Conforms schedule)
    (within : fewer.Sublist schedule) : limiter.Conforms fewer := by
  intro first last order
  have counted : between first last fewer ≤ between first last schedule := within.countP_le
  exact (Nat.cast_le.mpr counted).trans (conforms first last order)

/-- While nothing is refused, the cells that are left are a full burst and what was refilled
since some time, less the calls since then. -/
theorem exists_level_ge {schedule : List K} {now : K} (ordered : schedule.Pairwise (· ≤ ·))
    (before : ∀ time ∈ schedule, time ≤ now)
    (all : ∀ verdict ∈ verdicts limiter.check none schedule, verdict = true) :
    ∃ first ≤ now, limiter.burst + (now - first) / limiter.interval ≤
      limiter.level (after limiter.check none schedule) now + between first now schedule := by
  induction schedule using List.reverseRecOn generalizing now with
  | nil =>
      refine ⟨now, le_rfl, ?_⟩
      simp [after, between]
  | append_singleton schedule last induction =>
      rw [verdicts_append, List.forall_mem_append] at all
      rw [List.pairwise_append] at ordered
      have order : last ≤ now := before last (by simp)
      have early : ∀ time ∈ schedule, time ≤ last := fun time member =>
        ordered.2.2 time member last (by simp)
      have admits : (limiter.check (after limiter.check none schedule) last).1 = true :=
        all.2 _ (by simp)
      rcases induction ordered.1 early all.1 with ⟨first, earlier, left⟩
      have spent := limiter.level_of_admitted admits
      have refilled := limiter.le_level_later
        (limiter.check (after limiter.check none schedule) last).2 last now
      rw [after_snoc]
      rcases min_le_iff.mp refilled with full | partly
      · refine ⟨now, le_rfl, ?_⟩
        rw [sub_self, zero_div, add_zero]
        exact full.trans (le_add_of_nonneg_right (Nat.cast_nonneg _))
      · refine ⟨first, earlier.trans order, ?_⟩
        have counted : between first last schedule + 1 =
            between first now (schedule ++ [last]) := by
          rw [between, between, List.countP_append, List.countP_singleton,
            if_pos (by simp [earlier, order])]
          congr 1
          apply List.countP_congr
          intro time member
          simp [early time member, (early time member).trans order]
        have split : (now - first) / limiter.interval =
            (last - first) / limiter.interval + (now - last) / limiter.interval := by
          rw [← add_div]
          congr 1
          ring
        rw [← counted, Nat.cast_add, Nat.cast_one, split]
        linarith

omit [Field K] [IsStrictOrderedRing K] in
/-- A schedule in time order falls into two parts where something begins to hold. -/
theorem exists_split {schedule : List K} (ordered : schedule.Pairwise (· ≤ ·)) {begun : K → Prop}
    (stays : ∀ time later, time ≤ later → begun time → begun later) :
    ∃ early late, schedule = early ++ late ∧ (∀ time ∈ early, ¬ begun time) ∧
      ∀ time ∈ late, begun time := by
  induction schedule with
  | nil => exact ⟨[], [], rfl, by simp, by simp⟩
  | cons time later induction =>
      rw [List.pairwise_cons] at ordered
      by_cases now : begun time
      · refine ⟨[], time :: later, rfl, by simp, ?_⟩
        rw [List.forall_mem_cons]
        exact ⟨now, fun next member => stays time next (ordered.1 next member) now⟩
      · rcases induction ordered.2 with ⟨early, late, rfl, not, since⟩
        exact ⟨time :: early, late, rfl, List.forall_mem_cons.mpr ⟨now, not⟩, since⟩

omit [Field K] [IsStrictOrderedRing K] in
/-- The calls that fall between two times are next to each other. -/
theorem exists_between {schedule : List K} (ordered : schedule.Pairwise (· ≤ ·)) (first last : K) :
    ∃ early middle late, schedule = early ++ (middle ++ late) ∧
      (∀ time ∈ middle, first ≤ time ∧ time ≤ last) ∧
      between first last schedule = middle.length := by
  rcases exists_split ordered fun time later order since => le_trans (a := first) since order with
    ⟨early, rest, rfl, before, since⟩
  rcases exists_split (List.pairwise_append.mp ordered).2.1
      fun time later order beyond => lt_of_lt_of_le (a := last) beyond order with
    ⟨middle, late, rfl, within, beyond⟩
  have inside : ∀ time ∈ middle, first ≤ time ∧ time ≤ last := fun time member =>
    ⟨since time (List.mem_append_left _ member), not_lt.mp (within time member)⟩
  refine ⟨early, middle, late, rfl, inside, ?_⟩
  have none : ∀ part : List K, (∀ time ∈ part, ¬ (first ≤ time ∧ time ≤ last)) →
      between first last part = 0 := by
    intro part outside
    apply List.countP_eq_zero.mpr
    simpa using outside
  have all : between first last middle = middle.length := by
    apply List.countP_eq_length.mpr
    simpa using inside
  have tooEarly := none early fun time member both => before time member both.1
  have tooLate := none late fun time member both => (beyond time member).not_ge both.2
  rw [between, List.countP_append, List.countP_append]
  change between _ _ _ + (between _ _ _ + between _ _ _) = _
  rw [tooEarly, tooLate, all, zero_add, add_zero]

/-- Nothing of a schedule is refused exactly when the schedule conforms. -/
theorem admits_iff_conforms {schedule : List K} (ordered : schedule.Pairwise (· ≤ ·)) :
    (∀ verdict ∈ verdicts limiter.check none schedule, verdict = true) ↔
      limiter.Conforms schedule := by
  constructor
  · intro all first last order
    rcases exists_between ordered first last with ⟨early, middle, late, rfl, within, counted⟩
    rw [verdicts_append, verdicts_append, List.forall_mem_append, List.forall_mem_append] at all
    have whole : admitted limiter.check (after limiter.check none early) middle =
        middle.length := by
      rw [admitted, List.count_eq_length.mpr fun verdict member => (all.2.1 verdict member).symm,
        length_verdicts]
    have middleOrdered := (List.pairwise_append.mp (List.pairwise_append.mp ordered).2.1).1
    rw [counted, ← whole]
    exact limiter.admitted_le_window _ middleOrdered order within
  · induction schedule using List.reverseRecOn with
    | nil => simp
    | append_singleton schedule last induction =>
        intro conforms
        rw [List.pairwise_append] at ordered
        have early := induction ordered.1 (conforms.sublist (List.sublist_append_left _ _))
        have before : ∀ time ∈ schedule, time ≤ last := fun time member =>
          ordered.2.2 time member last (by simp)
        rw [verdicts_append, List.forall_mem_append, verdicts_cons, verdicts_nil,
          List.forall_mem_singleton]
        refine ⟨early, (limiter.check_admits_iff _ _).mpr ?_⟩
        -- The last call falls into the time since then, and is one more than those before.
        rcases exists_level_ge ordered.1 before early with ⟨first, order, left⟩
        have fits := conforms first last order
        have counted : between first last (schedule ++ [last]) =
            between first last schedule + 1 := by
          rw [between, List.countP_append, List.countP_singleton, if_pos (by simp [order])]
          rfl
        rw [counted, Nat.cast_add, Nat.cast_one] at fits
        linarith

end Gcra

end VoucherProxy
