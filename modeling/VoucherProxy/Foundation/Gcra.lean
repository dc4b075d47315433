import Mathlib.Algebra.Order.Field.Basic
import Mathlib.Tactic.Linarith
import Mathlib.Tactic.Positivity
import Mathlib.Tactic.FieldSimp
import Mathlib.Tactic.Ring

namespace VoucherProxy

/-! # Rate limiters over schedules

A limiter answers each call with a verdict and a new state. `Gcra` is the
generic cell rate algorithm: one cell is emitted every `interval`, and up to
`burst` of them may be taken at once. -/

/-- The verdicts of a limiter on a schedule of call times. -/
def verdicts {State Time : Type} (check : State → Time → Bool × State) :
    State → List Time → List Bool
  | _, [] => []
  | state, now :: later => (check state now).1 :: verdicts check (check state now).2 later

@[simp] theorem verdicts_nil {State Time : Type} (check : State → Time → Bool × State)
    (state : State) : verdicts check state [] = [] := rfl

@[simp] theorem verdicts_cons {State Time : Type} (check : State → Time → Bool × State)
    (state : State) (now : Time) (later : List Time) :
    verdicts check state (now :: later) =
      (check state now).1 :: verdicts check (check state now).2 later := rfl

theorem length_verdicts {State Time : Type} (check : State → Time → Bool × State) (state : State)
    (schedule : List Time) : (verdicts check state schedule).length = schedule.length := by
  induction schedule generalizing state with
  | nil => rfl
  | cons now later induction => rw [verdicts_cons, List.length_cons, induction, List.length_cons]

/-- The state a schedule leaves behind. -/
def after {State Time : Type} (check : State → Time → Bool × State) (state : State)
    (schedule : List Time) : State :=
  schedule.foldl (fun state now => (check state now).2) state

theorem after_snoc {State Time : Type} (check : State → Time → Bool × State) (state : State)
    (schedule : List Time) (last : Time) :
    after check state (schedule ++ [last]) = (check (after check state schedule) last).2 :=
  List.foldl_append ..

theorem verdicts_append {State Time : Type} (check : State → Time → Bool × State)
    (state : State) (early late : List Time) :
    verdicts check state (early ++ late) =
      verdicts check state early ++ verdicts check (after check state early) late := by
  induction early generalizing state with
  | nil => rfl
  | cons now early induction =>
      simp only [List.cons_append, verdicts_cons, induction]
      rfl

/-- How many calls of a schedule are admitted. -/
def admitted {State Time : Type} (check : State → Time → Bool × State) (state : State)
    (schedule : List Time) : Nat :=
  (verdicts check state schedule).count true

structure Gcra (K : Type) [Field K] [LinearOrder K] where
  interval : K
  burst : Nat
  interval_pos : 0 < interval
  burst_pos : 0 < burst

namespace Gcra

variable {K : Type} [Field K] [LinearOrder K]

/-- How far the theoretical arrival time lies ahead of the clock. A limiter
that was never used has none. -/
def backlog : Option K → K → K
  | none, _ => 0
  | some arrival, now => max 0 (arrival - now)

def check (limiter : Gcra K) (arrival : Option K) (now : K) : Bool × Option K :=
  if backlog arrival now ≤ (limiter.burst - 1) * limiter.interval then
    (true, some (now + backlog arrival now + limiter.interval))
  else
    (false, arrival)

/-- The cells still available: the burst less what the backlog ties up. -/
def level (limiter : Gcra K) (arrival : Option K) (now : K) : K :=
  limiter.burst - backlog arrival now / limiter.interval

theorem backlog_nonneg (arrival : Option K) (now : K) : 0 ≤ backlog arrival now := by
  cases arrival with
  | none => exact le_rfl
  | some arrival => exact le_max_left _ _

variable (limiter : Gcra K)

theorem state_of_refused {arrival : Option K} {now : K}
    (refuses : (limiter.check arrival now).1 = false) :
    (limiter.check arrival now).2 = arrival := by
  by_cases within : backlog arrival now ≤ (limiter.burst - 1) * limiter.interval
  · simp [check, within] at refuses
  · simp [check, within]

@[simp] theorem level_fresh (now : K) : limiter.level none now = limiter.burst := by
  simp [level, backlog]

variable [IsStrictOrderedRing K]

theorem level_le_burst (arrival : Option K) (now : K) :
    limiter.level arrival now ≤ limiter.burst := by
  have used := div_nonneg (backlog_nonneg arrival now) limiter.interval_pos.le
  unfold level
  linarith

/-- A call is admitted exactly when a whole cell is available. -/
theorem check_admits_iff (arrival : Option K) (now : K) :
    (limiter.check arrival now).1 = true ↔ 1 ≤ limiter.level arrival now := by
  have positive := limiter.interval_pos
  have same : backlog arrival now ≤ (limiter.burst - 1) * limiter.interval ↔
      1 ≤ limiter.level arrival now := by
    unfold level
    rw [← div_le_iff₀ positive]
    constructor <;> intro bound <;> linarith
  rw [← same]
  by_cases within : backlog arrival now ≤ (limiter.burst - 1) * limiter.interval <;>
    simp [check, within]

theorem level_of_admitted {arrival : Option K} {now : K}
    (admits : (limiter.check arrival now).1 = true) :
    limiter.level (limiter.check arrival now).2 now = limiter.level arrival now - 1 := by
  have positive := limiter.interval_pos
  have enough : backlog arrival now ≤ (limiter.burst - 1) * limiter.interval := by
    by_contra short
    simp [check, short] at admits
  have grown : backlog (some (now + backlog arrival now + limiter.interval)) now =
      backlog arrival now + limiter.interval := by
    have nonneg := backlog_nonneg arrival now
    change max 0 _ = _
    rw [max_eq_right] <;> linarith
  simp only [check, enough, if_true, level, grown, add_div, div_self positive.ne']
  ring

/-- Waiting refills no faster than one cell per interval. -/
theorem level_later_le (arrival : Option K) {now later : K} (order : now ≤ later) :
    limiter.level arrival later ≤
      limiter.level arrival now + (later - now) / limiter.interval := by
  have drained : backlog arrival now ≤ backlog arrival later + (later - now) := by
    cases arrival with
    | none => simpa [backlog] using order
    | some arrival =>
        simp only [backlog]
        rcases le_total 0 (arrival - now) with ahead | behind
        · rw [max_eq_right ahead]
          linarith [le_max_right 0 (arrival - later)]
        · rw [max_eq_left behind]
          linarith [le_max_left 0 (arrival - later)]
  have scaled := div_le_div_of_nonneg_right drained limiter.interval_pos.le
  rw [add_div] at scaled
  unfold level
  linarith

/-- Waiting refills one cell per interval until the burst is full again. -/
theorem le_level_later (arrival : Option K) (now later : K) :
    min (limiter.burst : K) (limiter.level arrival now + (later - now) / limiter.interval) ≤
      limiter.level arrival later := by
  have drained : backlog arrival later = 0 ∨
      backlog arrival later ≤ backlog arrival now - (later - now) := by
    cases arrival with
    | none => exact .inl rfl
    | some arrival =>
        simp only [backlog]
        rcases le_total 0 (arrival - later) with ahead | behind
        · right
          rw [max_eq_right ahead]
          linarith [le_max_right 0 (arrival - now)]
        · left
          exact max_eq_left behind
  rcases drained with empty | drained
  · simp [level, empty]
  · have scaled := div_le_div_of_nonneg_right drained limiter.interval_pos.le
    rw [sub_div] at scaled
    unfold level
    exact (min_le_right _ _).trans (by linarith)

/-! ## Comparing two limiters on one schedule -/

/-- A limiter with the smaller burst and the longer interval admits no more
calls than the other one on any schedule in time order. `lead` counts the calls
the faster limiter has admitted beyond the slower one so far. -/
theorem admitted_le_of_lead (slow fast : Gcra K) (bursts : slow.burst ≤ fast.burst)
    (intervals : fast.interval ≤ slow.interval) {schedule : List K} {now : K}
    (ordered : (now :: schedule).Pairwise (· ≤ ·)) {left right : Option K} {lead : Nat}
    (ahead : slow.level left now ≤ lead + fast.level right now) :
    admitted slow.check left schedule ≤ lead + admitted fast.check right schedule := by
  induction schedule generalizing now left right lead with
  | nil => simp [admitted]
  | cons next schedule induction =>
      have order : now ≤ next := (List.pairwise_cons.mp ordered).1 next (by simp)
      have rest := (List.pairwise_cons.mp ordered).2
      have current : slow.level left next ≤ lead + fast.level right next := by
        have upper := slow.level_later_le left order
        have lower := fast.le_level_later right now next
        have rates : (next - now) / slow.interval ≤ (next - now) / fast.interval :=
          div_le_div_of_nonneg_left (by linarith) fast.interval_pos intervals
        rcases min_le_iff.mp lower with full | refilled
        · have capped := slow.level_le_burst left next
          have sizes : (slow.burst : K) ≤ fast.burst := by exact_mod_cast bursts
          have nonneg : (0 : K) ≤ lead := by positivity
          linarith
        · linarith
      cases slowVerdict : (slow.check left next).1 with
      | false =>
          have slowState := slow.state_of_refused slowVerdict
          cases fastVerdict : (fast.check right next).1 with
          | false =>
              have fastState := fast.state_of_refused fastVerdict
              have tail := induction rest current
              simpa [admitted, slowVerdict, fastVerdict, slowState, fastState] using tail
          | true =>
              have fastLevel := fast.level_of_admitted fastVerdict
              have advanced : slow.level left next ≤
                  (lead + 1 : Nat) + fast.level (fast.check right next).2 next := by
                rw [fastLevel]
                push_cast
                linarith
              have tail := induction rest advanced
              simp only [admitted, verdicts_cons, slowVerdict, fastVerdict, slowState,
                List.count_cons] at tail ⊢
              simp only [Bool.false_eq_true, beq_iff_eq, if_true, if_false]
              omega
      | true =>
          have slowLevel := slow.level_of_admitted slowVerdict
          cases fastVerdict : (fast.check right next).1 with
          | false =>
              have fastState := fast.state_of_refused fastVerdict
              have whole := (slow.check_admits_iff left next).mp slowVerdict
              have empty : ¬ 1 ≤ fast.level right next := fun available => by
                simp [(fast.check_admits_iff right next).mpr available] at fastVerdict
              have leading : 1 ≤ lead := by
                have positive : (0 : K) < lead := by linarith
                exact_mod_cast positive
              have advanced : slow.level (slow.check left next).2 next ≤
                  (lead - 1 : Nat) + fast.level right next := by
                rw [slowLevel, Nat.cast_sub leading]
                push_cast
                linarith
              have tail := induction rest advanced
              simp only [admitted, verdicts_cons, slowVerdict, fastVerdict, fastState,
                List.count_cons] at tail ⊢
              simp only [Bool.false_eq_true, beq_iff_eq, if_true, if_false]
              omega
          | true =>
              have fastLevel := fast.level_of_admitted fastVerdict
              have advanced : slow.level (slow.check left next).2 next ≤
                  lead + fast.level (fast.check right next).2 next := by
                rw [slowLevel, fastLevel]
                linarith
              have tail := induction rest advanced
              simp only [admitted, verdicts_cons, slowVerdict, fastVerdict,
                List.count_cons] at tail ⊢
              simp only [beq_iff_eq, if_true]
              omega

/-- From a fresh start the slower limiter admits no more calls than the faster
one. -/
theorem admitted_le (slow fast : Gcra K) (bursts : slow.burst ≤ fast.burst)
    (intervals : fast.interval ≤ slow.interval) {schedule : List K}
    (ordered : schedule.Pairwise (· ≤ ·)) :
    admitted slow.check none schedule ≤ admitted fast.check none schedule := by
  cases schedule with
  | nil => simp [admitted]
  | cons now schedule =>
      have start : slow.level none now ≤ ((0 : Nat) : K) + fast.level none now := by
        simpa using bursts
      have repeated : (now :: now :: schedule).Pairwise (· ≤ ·) :=
        List.pairwise_cons.mpr ⟨by
          intro later member
          rcases List.mem_cons.mp member with rfl | member
          · exact le_rfl
          · exact (List.pairwise_cons.mp ordered).1 later member, ordered⟩
      simpa using admitted_le_of_lead slow fast bursts intervals repeated start

/-! ## A burst at one instant -/

/-- With `left` whole cells available, exactly that many of a run of calls at
one instant are admitted. -/
theorem admitted_replicate {arrival : Option K} {now : K} {available : Nat}
    (cells : limiter.level arrival now = available) (calls : Nat) :
    admitted limiter.check arrival (List.replicate calls now) = min calls available := by
  induction calls generalizing arrival available with
  | zero => simp [admitted]
  | succ calls induction =>
      cases available with
      | zero =>
          have refused : (limiter.check arrival now).1 = false := by
            rw [Bool.eq_false_iff, ne_eq, check_admits_iff, cells]
            norm_num
          have same := limiter.state_of_refused refused
          have tail := induction cells
          simpa [admitted, List.replicate_succ, refused, same] using tail
      | succ available =>
          have admits : (limiter.check arrival now).1 = true := by
            rw [check_admits_iff, cells]
            push_cast
            linarith [(Nat.cast_nonneg available : (0 : K) ≤ available)]
          have fewer : limiter.level (limiter.check arrival now).2 now = available := by
            rw [limiter.level_of_admitted admits, cells]
            push_cast
            ring
          have tail := induction fewer
          simp only [admitted, List.replicate_succ, verdicts_cons, admits,
            List.count_cons] at tail ⊢
          simp only [beq_iff_eq, if_true]
          omega

/-- A fresh limiter admits its burst at one instant and nothing more. -/
theorem admitted_burst (calls : Nat) (now : K) :
    admitted limiter.check none (List.replicate calls now) = min calls limiter.burst :=
  limiter.admitted_replicate (limiter.level_fresh now) calls

/-! ## A window of time -/

/-- Whatever came before, the calls admitted until some time are none or at most the
cells available now and those refilled until then. -/
theorem admitted_le_level (arrival : Option K) {now last : K} {schedule : List K}
    (ordered : (now :: schedule).Pairwise (· ≤ ·)) (before : ∀ time ∈ schedule, time ≤ last) :
    admitted limiter.check arrival schedule = 0 ∨
      (admitted limiter.check arrival schedule : K) ≤
        limiter.level arrival now + (last - now) / limiter.interval := by
  induction schedule generalizing now arrival with
  | nil => exact .inl rfl
  | cons next schedule induction =>
      have order : now ≤ next := (List.pairwise_cons.mp ordered).1 next (by simp)
      have rest := (List.pairwise_cons.mp ordered).2
      have refilled := limiter.level_later_le arrival order
      have split : (last - now) / limiter.interval =
          (next - now) / limiter.interval + (last - next) / limiter.interval := by
        rw [← add_div]
        congr 1
        ring
      have ahead : 0 ≤ (last - next) / limiter.interval :=
        div_nonneg (sub_nonneg.mpr (before next (by simp))) limiter.interval_pos.le
      have tail := fun state =>
        induction state rest fun time member => before time (by simp [member])
      cases verdict : (limiter.check arrival next).1 with
      | false =>
          have unchanged := limiter.state_of_refused verdict
          have same : admitted limiter.check arrival (next :: schedule) =
              admitted limiter.check arrival schedule := by
            simp [admitted, verdict, unchanged]
          rw [same]
          exact (tail arrival).imp_right fun bound => by linarith
      | true =>
          have available := (limiter.check_admits_iff arrival next).mp verdict
          have spent := limiter.level_of_admitted verdict
          have same : admitted limiter.check arrival (next :: schedule) =
              admitted limiter.check (limiter.check arrival next).2 schedule + 1 := by
            simp [admitted, verdict]
          right
          rw [same]
          push_cast
          rcases tail (limiter.check arrival next).2 with none | bound
          · rw [none, Nat.cast_zero]
            linarith
          · linarith

/-- Within a window no more calls are admitted than the burst and what is refilled
in its course. -/
theorem admitted_le_window (arrival : Option K) {first last : K} {schedule : List K}
    (ordered : schedule.Pairwise (· ≤ ·)) (order : first ≤ last)
    (within : ∀ time ∈ schedule, first ≤ time ∧ time ≤ last) :
    (admitted limiter.check arrival schedule : K) ≤
      limiter.burst + (last - first) / limiter.interval := by
  have opened : (first :: schedule).Pairwise (· ≤ ·) :=
    List.pairwise_cons.mpr ⟨fun time member => (within time member).1, ordered⟩
  have refilled : 0 ≤ (last - first) / limiter.interval :=
    div_nonneg (sub_nonneg.mpr order) limiter.interval_pos.le
  rcases limiter.admitted_le_level arrival opened fun time member => (within time member).2 with
    none | bound
  · rw [none, Nat.cast_zero]
    exact add_nonneg limiter.burst.cast_nonneg refilled
  · exact bound.trans (add_le_add_left (limiter.level_le_burst arrival first) _)

end Gcra

end VoucherProxy
